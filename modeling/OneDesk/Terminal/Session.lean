import Mathlib.Data.List.Dedup
import OneDesk.Lib.Table

/-!
# Terminal sessions

A terminal session outlives the connections that use it.  A reader thread puts
what the shell writes into the output channel of the session, and the loops of
the connections take it out.  This module holds the sessions of one service and
the operations on them; each is one critical section.
-/

namespace OneDesk
namespace Terminal

open OneDesk.Lib

/-- Bytes of a terminal. -/
abbrev Bytes := List UInt8

/-- `CHANNEL_BUFFER_SIZE` -/
def channelBufferSize : ℕ := 100

/-- `COMPRESS_THRESHOLD` -/
def compressThreshold : ℕ := 512

/-- The compression of terminal data, a dependency of the service. -/
abbrev Compress := Bytes → Bytes

/-- `TerminalSession` -/
structure TerminalSession where
  pid : ℕ
  rows : UInt16
  cols : UInt16
  /-- The child process, and its exit code once it has ended. -/
  child : Option (Option ℤ)
  /-- Whether the reader thread has ended. -/
  readerFinished : Bool
  /-- What `input_tx` was given. -/
  input : List Bytes
  /-- What waits in `output_rx`. -/
  output : List Bytes
  closedMessageSent : Bool
  isOpened : Bool

/-- `TerminalResponse` -/
inductive TerminalResponse
  | opened (terminalId : ℤ) (message : String) (pid : ℕ) (serviceId : String)
      (persistentSessions : Finset ℤ)
  | data (terminalId : ℤ) (data : Bytes) (compressed : Bool)
  | closed (terminalId : ℤ) (exitCode : ℤ)
  | error (message : String)
  deriving DecidableEq

/-- The response that carries a chunk of output. -/
def dataResponse (compress : Compress) (terminalId : ℤ) (chunk : Bytes) : TerminalResponse :=
  if chunk.length > compressThreshold then
    if (compress chunk).length < chunk.length then
      .data terminalId (compress chunk) true
    else .data terminalId chunk false
  else .data terminalId chunk false

namespace TerminalSession

variable (session : TerminalSession)

/-- The reader thread puts a chunk into the channel, or drops it. -/
def putOutput (chunk : Bytes) : TerminalSession :=
  if session.readerFinished then session
  else if session.output.length < channelBufferSize then
    { session with output := session.output ++ [chunk] }
  else session

/-- The reader thread ends, and the child process with an exit code. -/
def finishReader (exitCode : ℤ) : TerminalSession :=
  { session with readerFinished := true, child := session.child.map fun _ => some exitCode }

/-- Whether `read_outputs` finds that a closed message is due. -/
def shouldSendClosed : Bool :=
  !session.closedMessageSent && session.readerFinished

/-- What `read_outputs` takes out of the channel. -/
def receivedData : List Bytes :=
  if session.isOpened then session.output else []

/-- What `read_outputs` leaves of a session that it locks. -/
def afterRead : TerminalSession :=
  { session with
    closedMessageSent := session.closedMessageSent || session.readerFinished
    output := if session.isOpened then [] else session.output
    child := if session.shouldSendClosed then none else session.child }

end TerminalSession

/-- `PersistentTerminalService` -/
structure PersistentTerminalService where
  serviceId : String
  sessions : Table ℤ TerminalSession
  lastActivity : ℕ
  isPersistent : Bool
  needsSessionSync : Bool
  isSpecifiedUser : Bool

/-- What a client asks of a terminal. -/
inductive TerminalAction
  | open (terminalId : ℤ) (rows cols : ℕ)
  | resize (terminalId : ℤ) (rows cols : ℕ)
  | data (terminalId : ℤ) (data : Bytes)
  | close (terminalId : ℤ)
  | other

/-- What the system answers to the calls of an action. -/
structure Answers where
  /-- Process id of a new shell, unless it cannot be started. -/
  spawn : Except String ℕ
  resize : Except String Unit
  kill : Except String Unit

namespace PersistentTerminalService

variable (service : PersistentTerminalService)

/-- `PersistentTerminalService::new` -/
def new (serviceId : String) (isPersistent isSpecifiedUser : Bool) (now : ℕ) :
    PersistentTerminalService :=
  { serviceId
    sessions := ∅
    lastActivity := now
    isPersistent
    needsSessionSync := false
    isSpecifiedUser }

/-- `reset_status` -/
def resetStatus (isPersistent : Bool) : PersistentTerminalService :=
  { service with
    isPersistent
    needsSessionSync := true
    sessions := service.sessions.mapValues fun _ session => { session with isOpened := false } }

/-- `update_activity` -/
def updateActivity (now : ℕ) : PersistentTerminalService :=
  { service with lastActivity := now }

/-- The session of a newly started shell. -/
def newSession (pid rows cols : ℕ) : TerminalSession :=
  { pid
    rows := UInt16.ofNat rows
    cols := UInt16.ofNat cols
    child := some none
    readerFinished := false
    input := []
    output := []
    closedMessageSent := false
    isOpened := true }

/-- `handle_open` -/
def handleOpen (terminalId : ℤ) (rows cols : ℕ) (spawn : Except String ℕ) :
    PersistentTerminalService × Except String (Option TerminalResponse) :=
  match service.sessions.lookup terminalId with
  | some session =>
      let others :=
        if service.needsSessionSync && decide (service.sessions.length > 1) then
          service.sessions.keys.erase terminalId
        else ∅
      ({ service with
          needsSessionSync := false
          sessions := service.sessions.insert terminalId { session with isOpened := true } },
        .ok (some (.opened terminalId "Reconnected to existing terminal" session.pid
          service.serviceId others)))
  | none =>
      match spawn with
      | .error message => (service, .error message)
      | .ok pid =>
          let others := if service.needsSessionSync then service.sessions.keys else ∅
          ({ service with
              needsSessionSync := false
              sessions := service.sessions.insert terminalId (newSession pid rows cols) },
            .ok (some (.opened terminalId "Terminal opened" pid service.serviceId others)))

/-- `handle_resize` -/
def handleResize (terminalId : ℤ) (rows cols : ℕ) (resize : Except String Unit) :
    PersistentTerminalService × Except String (Option TerminalResponse) :=
  match service.sessions.lookup terminalId with
  | none => (service, .ok none)
  | some session =>
      ({ service with
          sessions := service.sessions.insert terminalId
            { session with rows := UInt16.ofNat rows, cols := UInt16.ofNat cols } },
        resize.map fun _ => none)

/-- `handle_data` -/
def handleData (terminalId : ℤ) (data : Bytes) :
    PersistentTerminalService × Except String (Option TerminalResponse) :=
  match service.sessions.lookup terminalId with
  | none => (service, .ok none)
  | some session =>
      ({ service with
          sessions := service.sessions.insert terminalId
            { session with input := session.input ++ [data] } },
        .ok none)

/-- `handle_close` -/
def handleClose (terminalId : ℤ) (kill : Except String Unit) :
    PersistentTerminalService × Except String (Option TerminalResponse) :=
  match service.sessions.lookup terminalId with
  | none => (service, .ok none)
  | some session =>
      let closed := { service with sessions := service.sessions.erase terminalId }
      match session.child, kill with
      | none, _ => (closed, .ok (some (.closed terminalId 0)))
      | some _, .ok _ => (closed, .ok (some (.closed terminalId (-1))))
      | some _, .error message => (closed, .error message)

/-- `handle_action` on a service that was found. -/
def handleAction (action : TerminalAction) (answers : Answers) (now : ℕ) :
    PersistentTerminalService × Except String (Option TerminalResponse) :=
  let service := service.updateActivity now
  match action with
  | .open terminalId rows cols => service.handleOpen terminalId rows cols answers.spawn
  | .resize terminalId rows cols => service.handleResize terminalId rows cols answers.resize
  | .data terminalId data => service.handleData terminalId data
  | .close terminalId => service.handleClose terminalId answers.kill
  | .other => (service, .ok none)

/-- The sessions that `read_outputs` manages to lock, in the order of the map. -/
def locked (order : List ℤ) : List (ℤ × TerminalSession) :=
  order.dedup.filterMap fun id => (service.sessions.lookup id).map fun session => (id, session)

/-- The responses of `read_outputs`: the data of every session, then the ends. -/
def responses (compress : Compress) (order : List ℤ) : List TerminalResponse :=
  ((service.locked order).flatMap fun (id, session) =>
      session.receivedData.map (dataResponse compress id)) ++
    ((service.locked order).filter fun (_, session) => session.shouldSendClosed).map
      fun (id, session) => .closed id (session.child.join.getD 0)

/-- What `read_outputs` of a proxy leaves of the service.  A session that ended
stays only if the proxy is persistent. -/
def afterRead (isPersistent : Bool) (order : List ℤ) : PersistentTerminalService :=
  { service with
    sessions :=
      (service.sessions.retain fun id session =>
        isPersistent || decide (id ∉ order) || !session.shouldSendClosed).mapValues
          fun id session => if id ∈ order then session.afterRead else session }

end PersistentTerminalService

end Terminal
end OneDesk
