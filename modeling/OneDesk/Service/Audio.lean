import OneDesk.Lib.Announced
import OneDesk.Service.Template

/-!
# The audio service

The audio service captures sound with a stream of the operating system.  One thread runs the
service: it starts the stream, announces its format and moves new subscribers over.  The stream
calls back from a thread of its own with what it has captured, which is encoded and sent to the
subscribers.  The two threads share the subscribers and nothing else, so what they send interleaves.
-/

namespace OneDesk
namespace Service
namespace Audio

open OneDesk.Lib

/-! ## Formats -/

/-- `AudioFormat` -/
structure AudioFormat where
  sampleRate : Nat
  channels : Nat
  deriving DecidableEq

/-- `magnum_opus::Channels` -/
inductive Channels
  | mono
  | stereo
  deriving DecidableEq

/-- The number that stands for the channels. -/
def Channels.count : Channels → Nat
  | .mono => 1
  | .stereo => 2

/-- An encoder, by what it is made with. -/
structure Encoder where
  sampleRate : Nat
  channels : Channels
  deriving DecidableEq

/-- What a decoder must be told to decode the frames of an encoder. -/
def Encoder.format (encoder : Encoder) : AudioFormat :=
  ⟨encoder.sampleRate, encoder.channels.count⟩

/-- The messages of the service; of a frame, the encoder that has encoded it. -/
inductive Message
  | audioFormat (format : AudioFormat)
  | audioFrame (encoder : Encoder)
  deriving DecidableEq

/-- The format that a message announces. -/
def Message.announces : Message → Option AudioFormat
  | .audioFormat format => some format
  | .audioFrame _ => none

/-- The format that a message is in. -/
def Message.written : Message → Option AudioFormat
  | .audioFormat _ => none
  | .audioFrame encoder => some encoder.format

/-- `create_format_msg` -/
def createFormatMsg (sampleRate channels : Nat) : Message :=
  .audioFormat ⟨sampleRate, channels⟩

/-- What a device is found to support. -/
structure SupportedStreamConfig where
  sampleRate : Nat
  channels : Nat
  deriving DecidableEq

/-- The rates that the encoder has: a rate is rounded down to one of them. -/
def encodeRate (sampleRate : Nat) : Nat :=
  if sampleRate < 12000 then 8000
  else if sampleRate < 16000 then 12000
  else if sampleRate < 24000 then 16000
  else if sampleRate < 48000 then 24000
  else 48000

/-- What `play` returns: a stream, by the encoder of its callback, with the message for it. -/
structure Stream where
  encoder : Encoder
  message : Message
  /-- The message announces what the callback sends. -/
  fits : message.announces = some encoder.format

/-- `play`, where a device is found and its stream is built and started. -/
def play (config : SupportedStreamConfig) : Stream where
  encoder :=
    ⟨encodeRate config.sampleRate, if config.channels > 1 then .stereo else .mono⟩
  message :=
    createFormatMsg (encodeRate config.sampleRate)
      (if config.channels > 1 then Channels.stereo else .mono).count
  fits := rfl

/-! ## The service and its thread -/

/-- Where the thread of the service is, by what it does next. -/
inductive Phase
  /-- `repeat` looks for subscribers. -/
  | waiting
  /-- `repeat` has found none and resets the state. -/
  | resetting
  /-- `run` reads whether a restart is requested. -/
  | entered
  /-- `run_serv_snapshot` looks for new subscribers. -/
  | snapshot
  /-- Its callback starts the stream if there is none. -/
  | starting
  /-- Its callback sends the format to the new subscribers. -/
  | announcing
  /-- Its guard is dropped. -/
  | dropping
  /-- `run_restart` resets the state. -/
  | restart
  /-- It looks for new subscribers. -/
  | restartSnapshot
  /-- Its guard is dropped, with nothing sent. -/
  | restartDropping
  /-- It starts the stream. -/
  | restartPlaying
  /-- It sends the format to the subscribers. -/
  | restartAnnouncing
  /-- It takes back the request. -/
  | restarted
  deriving DecidableEq

/-- The thread of the service has a guard. -/
def Phase.holdsGuard : Phase → Bool
  | .starting | .announcing | .dropping | .restartDropping => true
  | _ => false

/-- The thread of the service has stopped the stream to start another. -/
def Phase.isStopped : Phase → Bool
  | .restartSnapshot | .restartDropping | .restartPlaying => true
  | _ => false

/-- The service, what its two threads share, and what each connection was sent. -/
structure AudioService where
  service : ServiceInner Message
  /-- What was sent to a connection, also while it subscribed earlier. -/
  inbox : Int → List Message
  /-- `RESTARTING` -/
  restarting : Bool
  /-- `State::stream`, which calls back until it is dropped. -/
  stream : Option Stream
  mayReset : Bool
  phase : Phase

/-- What may happen next. -/
inductive Event
  /-- The thread of the service goes on; what a device supports, if it has to be started and can. -/
  | tick (device : Option SupportedStreamConfig)
  /-- The stream calls back with another frame. -/
  | callback
  /-- `restart` -/
  | restart
  /-- `on_subscribe` -/
  | subscribe (id : Int)
  /-- `on_unsubscribe` -/
  | unsubscribe (id : Int)

namespace AudioService

/-- The service before its first tick. -/
def new : AudioService where
  service := .new true
  inbox := fun _ => []
  restarting := false
  stream := none
  mayReset := false
  phase := .waiting

variable (audio : AudioService)

/-- `ServiceTmpl::send_shared` -/
def sendShared (message : Message) : AudioService :=
  { audio with
    service := audio.service.step (.send message .all)
    inbox := deliver audio.service.subscribed message audio.inbox }

/-- `ServiceSwap::send_shared`; the service has one guard at a time. -/
def sendNew (message : Message) : AudioService :=
  { audio with
    service := audio.service.step (.sendNew 0 message)
    inbox := deliver audio.service.waiting message audio.inbox }

/-- `ServiceInner::has_subscribes` -/
def hasSubscribes : Bool :=
  decide (audio.service.subscribes.length > 0 ∨ audio.service.newSubscribes.length > 0)

/-- `ServiceTmpl::snapshot` on whether there are new subscribers. -/
def enterSnapshot (found notFound : Phase) : AudioService :=
  if audio.service.newSubscribes.length > 0 then
    { audio with service := audio.service.step (.snapshot 0), phase := found }
  else { audio with phase := notFound }

/-- The guard is dropped. -/
def dropSwap (next : Phase) : AudioService :=
  { audio with service := audio.service.step (.drop 0), phase := next }

/-- Starts the stream if there is none, as both ways through a tick do before they announce it. -/
def start (device : Option SupportedStreamConfig) (started failed : Phase) : AudioService :=
  match audio.stream, device with
  | some _, _ => { audio with phase := started }
  | none, some config => { audio with stream := some (play config), phase := started }
  | none, none => { audio with phase := failed }

/-- The next step of the thread of the service, by `repeat`, `run` and what they call. -/
def tick (device : Option SupportedStreamConfig) : AudioService :=
  match audio.phase with
  | .waiting =>
      if audio.hasSubscribes then { audio with mayReset := true, phase := .entered }
      else if audio.mayReset then { audio with phase := .resetting }
      else audio
  | .resetting => { audio with stream := none, mayReset := false, phase := .waiting }
  | .entered => { audio with phase := if audio.restarting then .restart else .snapshot }
  | .snapshot => audio.enterSnapshot .starting .waiting
  | .starting => audio.start device .announcing .dropping
  | .announcing =>
      match audio.stream with
      | some stream => { audio.sendNew stream.message with phase := .dropping }
      | none => { audio with phase := .dropping }
  | .dropping => audio.dropSwap .waiting
  | .restart => { audio with stream := none, phase := .restartSnapshot }
  | .restartSnapshot => audio.enterSnapshot .restartDropping .restartPlaying
  | .restartDropping => audio.dropSwap .restartPlaying
  | .restartPlaying => audio.start device .restartAnnouncing .waiting
  | .restartAnnouncing =>
      match audio.stream with
      | some stream => { audio.sendShared stream.message with phase := .restarted }
      | none => { audio with phase := .restarted }
  | .restarted => { audio with restarting := false, phase := .waiting }

/-- One step.  A request while one is pending changes nothing. -/
def step : Event → AudioService
  | .tick device => audio.tick device
  | .callback =>
      match audio.stream with
      | some stream => audio.sendShared (.audioFrame stream.encoder)
      | none => audio
  | .restart => { audio with restarting := true }
  | .subscribe id => { audio with service := audio.service.step (.onSubscribe id) }
  | .unsubscribe id => { audio with service := audio.service.step (.onUnsubscribe id) }

/-- Every connection can decode every frame it was sent. -/
def Decodable : Prop :=
  ∀ id, Readable Message.announces Message.written (audio.inbox id)

/-- The connections have heard of the format of a stream, and of none since. -/
def Told (ids : Finset Int) : Option Stream → Prop
  | some stream =>
      ∀ id ∈ ids, announced Message.announces (audio.inbox id) = some stream.encoder.format
  | none => True

instance (ids : Finset Int) : (stream : Option Stream) → Decidable (audio.Told ids stream)
  | some stream =>
      inferInstanceAs (Decidable (∀ id ∈ ids,
        announced Message.announces (audio.inbox id) = some stream.encoder.format))
  | none => .isTrue trivial

/--
A restarted stream does not call back before its format is announced, a snapshot that starts a
stream finds no subscriber, and it moves over only who was there when it sent the format; in each
case, subscribers who know of the format anyway do not count.
-/
def InOrder : Event → Prop
  | .callback => audio.phase = .restartAnnouncing → audio.Told audio.service.subscribed audio.stream
  | .tick device =>
      (audio.phase = .starting → audio.stream.isNone →
        audio.Told audio.service.subscribed (device.map play)) ∧
      (audio.phase = .dropping → audio.Told audio.service.waiting audio.stream)
  | _ => True

instance : (event : Event) → Decidable (audio.InOrder event)
  | .callback =>
      inferInstanceAs (Decidable (audio.phase = .restartAnnouncing →
        audio.Told audio.service.subscribed audio.stream))
  | .tick device =>
      inferInstanceAs (Decidable ((audio.phase = .starting → audio.stream.isNone →
        audio.Told audio.service.subscribed (device.map play)) ∧
        (audio.phase = .dropping → audio.Told audio.service.waiting audio.stream)))
  | .restart => .isTrue trivial
  | .subscribe _ => .isTrue trivial
  | .unsubscribe _ => .isTrue trivial

end AudioService

/-! ## Runs in order -/

/-- Everyone in `subscribes` knows of the stream, unless it is about to be announced. -/
structure Informed (audio : AudioService) : Prop where
  needs : audio.service.needSnapshot = true
  guarded : audio.phase.holdsGuard → audio.service.HoldsGuard 0
  stopped : audio.phase.isStopped → audio.stream = none
  told : audio.phase ≠ .restartAnnouncing → audio.Told audio.service.subscribed audio.stream
  decodable : audio.Decodable

namespace AudioService

variable {audio : AudioService}

/-- What the connections know of depends on what they were sent. -/
theorem Told.of_inbox
    {ids : Finset Int}
    {stream : Option Stream}
    (told : audio.Told ids stream)
    {after : AudioService}
    (inbox_eq : after.inbox = audio.inbox) :
    after.Told ids stream := by
  cases stream with
  | none => trivial
  | some stream => exact fun id member => inbox_eq ▸ told id member

theorem Told.mono
    {ids others : Finset Int}
    {stream : Option Stream}
    (told : audio.Told ids stream)
    (fewer : others ⊆ ids) :
    audio.Told others stream := by
  cases stream with
  | none => trivial
  | some stream => exact fun id member => told id (fewer member)

theorem Told.union
    {ids others : Finset Int}
    {stream : Option Stream}
    (told : audio.Told ids stream)
    (othersTold : audio.Told others stream) :
    audio.Told (ids ∪ others) stream := by
  cases stream with
  | none => trivial
  | some stream =>
      intro id member
      rcases Finset.mem_union.mp member with inFirst | inOthers
      · exact told id inFirst
      · exact othersTold id inOthers

/-- A message that announces the format of the stream, or none, takes it from nobody. -/
theorem Told.deliver
    {ids group : Finset Int}
    {stream : Option Stream}
    (told : audio.Told ids stream)
    {message : Message}
    (suits : ∀ playing, stream = some playing →
      (message.announces).getD playing.encoder.format = playing.encoder.format)
    {after : AudioService}
    (inbox_eq : after.inbox = deliver group message audio.inbox) :
    after.Told ids stream := by
  cases stream with
  | none => trivial
  | some playing =>
      intro id member
      have before := told id member
      have suits := suits playing rfl
      rw [inbox_eq, announced_deliver, before]
      split
      case isTrue =>
        cases found : message.announces with
        | none => rfl
        | some format =>
            rw [found, Option.getD_some] at suits
            rw [suits, Option.some_or]
      case isFalse => rfl

/-- Whoever is sent the format of a stream knows of it. -/
theorem told_deliver
    (group : Finset Int)
    (stream : Stream)
    {after : AudioService}
    (inbox_eq : after.inbox = deliver group stream.message audio.inbox) :
    after.Told group (some stream) := by
  intro id member
  rw [inbox_eq, announced_deliver, if_pos member, stream.fits, Option.some_or]

/-- Announcements need no format. -/
theorem Decodable.announce
    (decodable : audio.Decodable)
    (group : Finset Int)
    (stream : Stream) :
    ∀ id, Readable Message.announces Message.written
      (deliver group stream.message audio.inbox id) := by
  rw [readable_deliver_iff]
  refine ⟨decodable, fun id _ format written => ?_⟩
  cases message_eq : stream.message with
  | audioFormat format =>
      rw [message_eq] at written
      cases written
  | audioFrame encoder =>
      have fits := stream.fits
      rw [message_eq] at fits
      cases fits

end AudioService

namespace Informed

variable {audio : AudioService}

theorem new : Informed .new where
  needs := rfl
  guarded := by intro impossible; cases impossible
  stopped := fun _ => rfl
  told := fun _ => trivial
  decodable := fun _ => readable_nil

/-- A step of the thread that touches neither the subscribers nor the stream. -/
theorem move
    (informed : Informed audio)
    {restarting mayReset : Bool}
    {phase : Phase}
    (inUse : phase.holdsGuard → audio.service.HoldsGuard 0)
    (stopped : phase.isStopped → audio.stream = none)
    (announced : audio.phase ≠ .restartAnnouncing) :
    Informed { audio with restarting, mayReset, phase } where
  needs := informed.needs
  guarded := inUse
  stopped := stopped
  told := fun _ => informed.told announced
  decodable := informed.decodable

/-- The thread drops the stream. -/
theorem stop
    (informed : Informed audio)
    {mayReset : Bool}
    {phase : Phase}
    (free : phase.holdsGuard = false) :
    Informed { audio with stream := none, mayReset, phase } where
  needs := informed.needs
  guarded := fun holds => absurd holds (by simp [free])
  stopped := fun _ => rfl
  told := fun _ => trivial
  decodable := informed.decodable

theorem enterSnapshot
    (informed : Informed audio)
    {found notFound : Phase}
    (free : notFound.holdsGuard = false)
    (foundNone : found.isStopped → audio.stream = none)
    (notFoundNone : notFound.isStopped → audio.stream = none)
    (announced : audio.phase ≠ .restartAnnouncing) :
    Informed (audio.enterSnapshot found notFound) := by
  unfold AudioService.enterSnapshot
  split
  case isTrue isFound =>
    exact {
      needs := by simp [informed.needs]
      guarded := fun _ => holdsGuard_snapshot isFound 0
      stopped := foundNone
      told := fun _ => by
        rw [subscribed_snapshot]
        exact (informed.told announced).of_inbox rfl
      decodable := informed.decodable }
  case isFalse =>
    exact informed.move (fun holds => absurd holds (by simp [free])) notFoundNone announced

/-- Only those move over who know of the stream, if there is one. -/
theorem dropSwap
    (informed : Informed audio)
    {next : Phase}
    (free : next.holdsGuard = false)
    (stopped : next.isStopped → audio.stream = none)
    (announced : audio.phase ≠ .restartAnnouncing)
    (told : audio.Told audio.service.waiting audio.stream) :
    Informed (audio.dropSwap next) where
  needs := by simp [AudioService.dropSwap, informed.needs]
  guarded := fun holds => absurd holds (by simp [AudioService.dropSwap, free])
  stopped := stopped
  told := fun _ => by
    have everyone : audio.Told (audio.service.waiting ∪ audio.service.subscribed) audio.stream :=
      AudioService.Told.union told (informed.told announced)
    refine AudioService.Told.of_inbox (everyone.mono ?_) rfl
    rw [AudioService.dropSwap, subscribed_drop]
    split
    case isTrue => exact Finset.Subset.refl _
    case isFalse => exact Finset.subset_union_right
  decodable := informed.decodable

/-- A stream is started before an announcement, or everyone knows of it. -/
theorem start
    (informed : Informed audio)
    (device : Option SupportedStreamConfig)
    {started failed : Phase}
    (startedInUse : started.holdsGuard → audio.service.HoldsGuard 0)
    (failedInUse : failed.holdsGuard → audio.service.HoldsGuard 0)
    (runs : started.isStopped = false)
    (announced : audio.phase ≠ .restartAnnouncing)
    (told : started ≠ .restartAnnouncing → audio.stream.isNone →
      audio.Told audio.service.subscribed (device.map play)) :
    Informed (audio.start device started failed) := by
  unfold AudioService.start
  split
  case h_1 stream stream_eq =>
    exact informed.move startedInUse (fun stops => absurd stops (by simp [runs])) announced
  case h_2 config stream_eq =>
    exact {
      needs := informed.needs
      guarded := startedInUse
      stopped := fun stops => absurd stops (by simp [runs])
      told := fun other => (told other (by simp [stream_eq])).of_inbox rfl
      decodable := informed.decodable }
  case h_3 stream_eq =>
    exact informed.move failedInUse (fun _ => stream_eq) announced

/-- The format of the stream is sent to the new subscribers. -/
theorem sendNew
    (informed : Informed audio)
    {stream : Stream}
    (stream_eq : audio.stream = some stream)
    {phase : Phase}
    (inUse : phase.holdsGuard → audio.service.HoldsGuard 0)
    (runs : phase.isStopped = false)
    (announced : audio.phase ≠ .restartAnnouncing) :
    Informed { audio.sendNew stream.message with phase } where
  needs := by simp [AudioService.sendNew, informed.needs]
  guarded := fun holds => (inUse holds).step (by simp)
  stopped := fun stops => absurd stops (by simp [runs])
  told := fun _ => by
    have told := informed.told announced
    simp only [AudioService.sendNew, subscribed_sendNew]
    refine AudioService.Told.deliver told (fun playing playing_eq => ?_) rfl
    obtain rfl := Option.some.inj (stream_eq.symm.trans playing_eq)
    rw [stream.fits, Option.getD_some]
  decodable := informed.decodable.announce _ stream

/-- The format of a restarted stream is sent to the subscribers. -/
theorem announce
    (informed : Informed audio)
    {stream : Stream}
    (stream_eq : audio.stream = some stream)
    {phase : Phase}
    (free : phase.holdsGuard = false)
    (runs : phase.isStopped = false) :
    Informed { audio.sendShared stream.message with phase } where
  needs := by simp [AudioService.sendShared, informed.needs]
  guarded := fun holds => absurd holds (by simp [free])
  stopped := fun stops => absurd stops (by simp [runs])
  told := fun _ => by
    simp only [AudioService.sendShared, subscribed_send, stream_eq]
    exact AudioService.told_deliver _ stream rfl
  decodable := informed.decodable.announce _ stream

/-- A frame reaches those who know of its format. -/
theorem callback
    (informed : Informed audio)
    {stream : Stream}
    (stream_eq : audio.stream = some stream)
    (told : audio.Told audio.service.subscribed audio.stream) :
    Informed (audio.sendShared (.audioFrame stream.encoder)) where
  needs := by simp [AudioService.sendShared, informed.needs]
  guarded := fun holds => (informed.guarded holds).step (by simp)
  stopped := informed.stopped
  told := fun other => by
    simp only [AudioService.sendShared, subscribed_send]
    exact AudioService.Told.deliver (informed.told other) (fun _ _ => rfl) rfl
  decodable := by
    refine readable_deliver_iff.mpr ⟨informed.decodable, fun id member format written => ?_⟩
    rw [stream_eq] at told
    rw [← Option.some.inj written]
    exact told id member

/-- The thread of the service goes on. -/
theorem tick
    (informed : Informed audio)
    {device : Option SupportedStreamConfig}
    (inOrder : audio.InOrder (.tick device)) :
    Informed (audio.tick device) := by
  obtain ⟨startsAlone, movesTold⟩ := inOrder
  have guarded := informed.guarded
  have stopped := informed.stopped
  unfold AudioService.tick
  cases phase_eq : audio.phase with
  | waiting =>
      have moved (phase : Phase) (free : phase.holdsGuard = false)
          (runs : phase.isStopped = false) (mayReset : Bool) :
          Informed { audio with mayReset, phase } :=
        informed.move (fun holds => absurd holds (by simp [free]))
          (fun stops => absurd stops (by simp [runs])) (by simp [phase_eq])
      simp only
      split
      · exact moved .entered rfl rfl true
      · split
        · exact moved .resetting rfl rfl audio.mayReset
        · exact informed
  | resetting => exact informed.stop rfl
  | entered =>
      refine informed.move (fun holds => ?_) (fun stops => ?_) (by simp [phase_eq])
      · split at holds <;> cases holds
      · split at stops <;> cases stops
  | snapshot =>
      refine informed.enterSnapshot rfl (fun stops => ?_) (fun stops => ?_) (by simp [phase_eq])
      · cases stops
      · cases stops
  | starting =>
      have inUse := guarded (by rw [phase_eq]; rfl)
      exact informed.start device (fun _ => inUse) (fun _ => inUse) rfl (by simp [phase_eq])
        fun _ => startsAlone phase_eq
  | announcing =>
      have inUse := guarded (by rw [phase_eq]; rfl)
      simp only
      split
      case h_1 stream stream_eq =>
        exact informed.sendNew stream_eq (fun _ => inUse) rfl (by simp [phase_eq])
      case h_2 stream_eq =>
        exact informed.move (fun _ => inUse) (fun _ => stream_eq) (by simp [phase_eq])
  | dropping =>
      exact informed.dropSwap rfl (by rintro ⟨⟩) (by simp [phase_eq]) (movesTold phase_eq)
  | restart => exact informed.stop rfl
  | restartSnapshot =>
      have none := stopped (by rw [phase_eq]; rfl)
      exact informed.enterSnapshot rfl (fun _ => none) (fun _ => none) (by simp [phase_eq])
  | restartDropping =>
      have none := stopped (by rw [phase_eq]; rfl)
      exact informed.dropSwap rfl (fun _ => none) (by simp [phase_eq]) (none ▸ trivial)
  | restartPlaying =>
      refine informed.start device (fun holds => ?_) (fun holds => ?_) rfl (by simp [phase_eq])
        fun other => absurd rfl other
      · cases holds
      · cases holds
  | restartAnnouncing =>
      simp only
      split
      case h_1 stream stream_eq => exact informed.announce stream_eq rfl rfl
      case h_2 stream_eq =>
        exact {
          needs := informed.needs
          guarded := by rintro ⟨⟩
          stopped := fun _ => stream_eq
          told := fun _ => by
            simp only [stream_eq]
            trivial
          decodable := informed.decodable }
  | restarted =>
      exact informed.move (by rintro ⟨⟩) (by rintro ⟨⟩) (by simp [phase_eq])

/-- One step in order. -/
theorem step
    (informed : Informed audio)
    {event : Event}
    (inOrder : audio.InOrder event) :
    Informed (audio.step event) := by
  cases event with
  | tick device => exact informed.tick inOrder
  | callback =>
      simp only [AudioService.step]
      split
      case h_1 stream stream_eq =>
        refine informed.callback stream_eq ?_
        by_cases unannounced : audio.phase = .restartAnnouncing
        · exact inOrder unannounced
        · exact informed.told unannounced
      case h_2 => exact informed
  | restart =>
      exact {
        needs := informed.needs
        guarded := informed.guarded
        stopped := informed.stopped
        told := fun other => (informed.told other).of_inbox rfl
        decodable := informed.decodable }
  | subscribe id =>
      exact {
        needs := by simp [AudioService.step, informed.needs]
        guarded := fun holds => (informed.guarded holds).step (by simp)
        stopped := informed.stopped
        told := fun other => by
          simp only [AudioService.step, subscribed_onSubscribe _ informed.needs]
          exact (informed.told other).of_inbox rfl
        decodable := informed.decodable }
  | unsubscribe id =>
      exact {
        needs := by simp [AudioService.step, informed.needs]
        guarded := fun holds => (informed.guarded holds).step (by simp)
        stopped := informed.stopped
        told := fun other => by
          simp only [AudioService.step, subscribed_onUnsubscribe]
          exact ((informed.told other).mono (Finset.erase_subset _ _)).of_inbox rfl
        decodable := informed.decodable }

end Informed

/-! ## Runs out of order -/

/-- A frame for somebody who does not know of its format. -/
theorem not_decodable_callback
    {audio : AudioService}
    (untold : ¬audio.Told audio.service.subscribed audio.stream) :
    ¬(audio.step .callback).Decodable := by
  intro decodable
  apply untold
  cases stream_eq : audio.stream with
  | none => trivial
  | some stream =>
      simp only [AudioService.Decodable, AudioService.step, stream_eq,
        AudioService.sendShared] at decodable
      intro id member
      exact (readable_deliver_iff.mp decodable).2 id member _ rfl

/-- After a step out of order, the stream sends a frame that somebody cannot decode. -/
theorem Informed.exists_not_decodable
    {audio : AudioService}
    (informed : Informed audio)
    {event : Event}
    (outOfOrder : ¬audio.InOrder event) :
    ∃ more, ¬(run AudioService.step (audio.step event) more).Decodable := by
  cases event with
  | callback =>
      refine ⟨[], not_decodable_callback fun told => outOfOrder fun _ => told⟩
  | tick device =>
      refine ⟨[.callback], not_decodable_callback fun told => outOfOrder ⟨?_, ?_⟩⟩
      · intro phase_eq none
        have stream_eq : audio.stream = Option.none := Option.isNone_iff_eq_none.mp none
        cases device with
        | none => trivial
        | some config =>
            simp only [AudioService.step, AudioService.tick, phase_eq, AudioService.start,
              stream_eq] at told
            exact told.of_inbox rfl
      · intro phase_eq
        have inUse : (audio.service.swaps.lookup 0).isSome :=
          informed.guarded (by rw [phase_eq]; rfl)
        simp only [AudioService.step, AudioService.tick, phase_eq, AudioService.dropSwap,
          subscribed_drop, if_pos inUse] at told
        exact (told.mono Finset.subset_union_left).of_inbox rfl
  | restart => exact absurd trivial outOfOrder
  | subscribe id => exact absurd trivial outOfOrder
  | unsubscribe id => exact absurd trivial outOfOrder

/--
In a run whose steps are all in order, every connection can at every moment decode every frame it
was sent; and from the first step that is not, the run can go on so that some connection cannot.
-/
theorem decodable_inOrder
    (events : List Event)
    (along : Along AudioService.step AudioService.InOrder .new events) :
    (∀ before, before <+: events → (run AudioService.step .new before).Decodable) ∧
    ∀ event, ¬(run AudioService.step .new events).InOrder event →
      ∃ more, ¬(run AudioService.step .new (events ++ event :: more)).Decodable := by
  have informed {events : List Event}
      (along : Along AudioService.step AudioService.InOrder .new events) :
      Informed (run AudioService.step .new events) :=
    run_invariant Informed (fun _ _ informed inOrder => informed.step inOrder) .new along
  constructor
  · intro before isPrefix
    exact (informed (along.restrict isPrefix)).decodable
  · intro event outOfOrder
    obtain ⟨more, undecodable⟩ := (informed along).exists_not_decodable outOfOrder
    refine ⟨more, ?_⟩
    rwa [run_append, run_cons]

/-- A connection subscribes, the stream is started for it, and it is sent two frames. -/
def firstStart : List Event :=
  [.subscribe 1, .tick none, .tick none, .tick none, .tick (some ⟨44100, 2⟩), .tick none,
    .tick none, .callback, .callback]

/-- The device is changed to one with another format while the connection subscribes. -/
def restartOtherDevice : List Event :=
  [.restart, .tick none, .tick none, .tick none, .tick none, .tick (some ⟨16000, 1⟩)]

/-- A frame of the restarted stream after its announcement. -/
theorem decodable_inOrder_restart :
    (run AudioService.step .new
      (firstStart ++ restartOtherDevice ++ [.tick none, .callback])).Decodable := by
  refine (decodable_inOrder _ ?_).1 _ (List.prefix_refl _)
  decide +kernel

/-- The restarted stream calls back before its format is announced. -/
theorem early_frame_is_not_decodable :
    ¬(run AudioService.step .new (firstStart ++ restartOtherDevice ++ [.callback])).Decodable := by
  rw [run_concat]
  exact not_decodable_callback (by decide +kernel)

end Audio
end Service
end OneDesk
