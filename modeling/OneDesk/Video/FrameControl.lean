import OneDesk.Lib.RollCall
import OneDesk.Lib.Run
import OneDesk.Server.Host

/-!
# Flow control of frames

`src/server/video_service.rs` and the places of `src/server/connection.rs` that report to it: a
video service sends a frame to its viewers, and captures the next one once enough of them have
fetched it, or after three seconds.

A report names a display and a connection, not a frame.  All services of one display, whether of
a monitor or of a camera, take the reports of the display from the same queue.

Services and connections run side by side; an event is the smallest step of one of them.  What is
captured and how it is encoded is left out, and so are the times.
-/

namespace OneDesk
namespace Video
namespace FrameControl

open OneDesk.Lib
open OneDesk.Server (VideoSource)

variable {Conn : Type} [DecidableEq Conn]

/-! ## Services -/

/-- Where a service is in its loop. -/
inductive Phase (Conn : Type) where
  /-- about to capture -/
  | capture
  /-- a frame was sent, and `set_send` is still to come -/
  | sent (connIds : Finset Conn)
  /-- in the wait loop, before `try_wait_next` -/
  | waiting (fetched : Finset Conn)
  /-- in `try_wait_next`, before the first report -/
  | receiving (fetched : Finset Conn)
  /-- in `try_wait_next`, after the first report or after 300 ms -/
  | draining (fetched : Finset Conn)
  /-- the wait loop has ended -/
  | ended

/-- A video service: its viewers, its `VideoFrameController`, and where it is. -/
structure VideoService (Conn : Type) where
  subscribes : Finset Conn := ∅
  sendConnIds : Finset Conn := ∅
  phase : Phase Conn := .capture
  /-- The connections that have reported for the display since the last frame was sent.  The
  source keeps no such record. -/
  reported : Finset Conn := ∅

structure ServiceId where
  source : VideoSource
  idx : Nat
  deriving DecidableEq

/-- `VideoFrameController::set_send`: a frame that nobody was sent changes nothing. -/
def VideoService.setSend (connIds : Finset Conn) (service : VideoService Conn) :
    VideoService Conn :=
  if connIds = ∅ then service else { service with sendConnIds := connIds }

/-- The wait loop ends once enough connections have fetched, or it goes on. -/
def VideoService.test (fetched : Finset Conn) (service : VideoService Conn) : VideoService Conn :=
  { service with
    phase := if service.sendConnIds.card ≤ fetched.card then .ended else .waiting fetched }

/-! ## The host -/

/-- The services of a host and what they share. -/
structure Host (Conn : Type) where
  services : ServiceId → VideoService Conn := fun _ => {}
  /-- `FRAME_FETCHED_NOTIFIERS`: the reports that wait in the queue of a display. -/
  notifiers : Nat → Option (List Conn) := fun _ => none
  /-- The service that has locked the receiving end of the queue of a display. -/
  receivers : Nat → Option ServiceId := fun _ => none
  /-- `DISPLAY_CONN_IDS` -/
  displayConnIds : Nat → Option (Finset Conn) := fun _ => none

namespace Host

variable (host : Host Conn)

def setService (id : ServiceId) (service : VideoService Conn) : Host Conn :=
  { host with services := Function.update host.services id service }

def setQueue (idx : Nat) (queue : List Conn) : Host Conn :=
  { host with notifiers := Function.update host.notifiers idx (some queue) }

def setReceiver (idx : Nat) (holder : Option ServiceId) : Host Conn :=
  { host with receivers := Function.update host.receivers idx holder }

def setDisplay (idx : Nat) (connIds : Option (Finset Conn)) : Host Conn :=
  { host with displayConnIds := Function.update host.displayConnIds idx connIds }

/-- The reports that wait in the queue of a display. -/
def queue (idx : Nat) : List Conn :=
  (host.notifiers idx).getD []

/-- A connection reports for some displays. -/
def report (conn : Conn) (reaches : Nat → Bool) : Host Conn :=
  { host with
    notifiers := fun idx =>
      if reaches idx then (host.notifiers idx).map (· ++ [conn]) else host.notifiers idx
    services := fun id =>
      if reaches id.idx then
        { host.services id with reported := insert conn (host.services id).reported }
      else host.services id }

/-- The displays that a connection is known to have been sent a frame of. -/
def knows (conn : Conn) (idx : Nat) : Bool :=
  match host.displayConnIds idx with
  | none => false
  | some connIds => conn ∈ connIds

end Host

inductive Event (Conn : Type) where
  /-- `new` -/
  | new (idx : Nat)
  | subscribe (id : ServiceId) (conn : Conn)
  | unsubscribe (id : ServiceId) (conn : Conn)
  /-- a frame is captured and sent to all viewers -/
  | send (id : ServiceId)
  /-- there is no new frame, or it cannot be encoded -/
  | idle (id : ServiceId)
  | setSend (id : ServiceId)
  /-- `try_wait_next` is called, and gets hold of the receiver unless it returns at once -/
  | tryWaitNext (id : ServiceId)
  | receive (id : ServiceId)
  /-- the 300 ms of `try_wait_next` are over -/
  | expire (id : ServiceId)
  | drain (id : ServiceId)
  /-- the three seconds of the wait loop are over -/
  | limit (id : ServiceId)
  /-- the loop starts over -/
  | next (id : ServiceId)
  /-- the loop is left with an error -/
  | bail (id : ServiceId)
  /-- `notify_video_frame_fetched` -/
  | notifyVideoFrameFetched (idx : Nat) (conn : Conn)
  /-- `notify_video_frame_fetched_by_conn_id`, also when a viewer leaves -/
  | notifyVideoFrameFetchedByConnId (conn : Conn)
  deriving DecidableEq

def step (host : Host Conn) : Event Conn → Host Conn
  | .new idx => host.setQueue idx (host.queue idx)
  | .subscribe id conn =>
      let service := host.services id
      host.setService id { service with subscribes := insert conn service.subscribes }
  | .unsubscribe id conn =>
      let service := host.services id
      host.setService id { service with subscribes := service.subscribes.erase conn }
  | .send id =>
      let service := host.services id
      match service.phase with
      | .capture =>
          host.setService id
            { service with
              sendConnIds := ∅
              phase := .sent service.subscribes
              reported := ∅ }
      | _ => host
  | .idle id =>
      let service := host.services id
      match service.phase with
      | .capture => host.setService id { service with sendConnIds := ∅, phase := .waiting ∅ }
      | _ => host
  | .setSend id =>
      let service := host.services id
      match service.phase with
      | .sent connIds =>
          let sent := host.setService id { service.setSend connIds with phase := .waiting ∅ }
          if connIds = ∅ then sent else sent.setDisplay id.idx (some connIds)
      | _ => host
  | .tryWaitNext id =>
      let service := host.services id
      match service.phase with
      | .waiting fetched =>
          if service.sendConnIds = ∅ ∨ host.notifiers id.idx = none then
            host.setService id (service.test fetched)
          else if host.receivers id.idx = none then
            (host.setService id { service with phase := .receiving fetched }).setReceiver id.idx
              (some id)
          else host
      | _ => host
  | .receive id =>
      let service := host.services id
      match service.phase, host.notifiers id.idx with
      | .receiving fetched, some (conn :: queue) =>
          (host.setService id { service with phase := .draining (insert conn fetched) }).setQueue
            id.idx queue
      | _, _ => host
  | .expire id =>
      let service := host.services id
      match service.phase with
      | .receiving fetched => host.setService id { service with phase := .draining fetched }
      | _ => host
  | .drain id =>
      let service := host.services id
      match service.phase with
      | .draining fetched =>
          match host.queue id.idx with
          | conn :: queue =>
              (host.setService id
                { service with phase := .draining (insert conn fetched) }).setQueue id.idx queue
          | [] => (host.setService id (service.test fetched)).setReceiver id.idx none
      | _ => host
  | .limit id =>
      let service := host.services id
      match service.phase with
      | .waiting _ => host.setService id { service with phase := .ended }
      | _ => host
  | .next id =>
      let service := host.services id
      match service.phase with
      | .ended =>
          (host.setService id { service with phase := .capture }).setDisplay id.idx none
      | _ => host
  | .bail id =>
      let service := host.services id
      match service.phase with
      | .capture | .waiting _ =>
          (host.setService id { service with sendConnIds := ∅, phase := .capture }).setDisplay
            id.idx none
      | _ => host
  | .notifyVideoFrameFetched idx conn => host.report conn fun other => other = idx
  | .notifyVideoFrameFetchedByConnId conn => host.report conn (host.knows conn)

end FrameControl
end Video
end OneDesk
