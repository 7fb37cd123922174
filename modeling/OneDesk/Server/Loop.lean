import OneDesk.Server.Start

/-!
# One turn of the loops, by cases

Most branches of the main loop send something, forget the session where the peer
must not come back, and go on or close.  This module says so once.  What is left
are the branches with a life of their own: the authorization and the other
messages of the connection manager, and the frames of the peer.
-/

namespace OneDesk
namespace Server

open OneDesk.Stream

namespace World

/-- States a branch reaches before it goes on or closes. -/
inductive Prepared (world : World) : World → Prop
  | start : Prepared world world
  | emit {current : World} (effect : Effect) (prepared : Prepared world current) :
      Prepared world (current.emit effect)
  | forget {current : World} (prepared : Prepared world current) :
      Prepared world current.checkRemoveSession
  /-- Nothing is left to tell the user when the connection manager closes. -/
  | dismiss {current : World} (prepared : Prepared world current) :
      Prepared world (current.modify fun conn =>
        { conn with chatUnanswered := false, fileTransferred := false })
  /-- The delay is probed. -/
  | probe {current : World} (asked : Int) (prepared : Prepared world current) :
      Prepared world (current.modify fun conn =>
        { conn with lastTestDelay := some asked })

/-- A branch prepares, and then goes on or closes. -/
def GoesOn (env : Env) (world after : World) : Prop :=
  ∃ current, world.Prepared current ∧
    (after = current ∨ ∃ lock, after = current.closeLoop env lock)

/-- What a turn of the main loop is. -/
inductive MainTurn (env : Env) (world : World) : Event → World → Prop
  | authorizes : MainTurn env world (.fromCm .authorize) (world.onAuthorize env)
  | asked (message : FromCm) :
      MainTurn env world (.fromCm message) (world.onCmMessage env message)
  | received (bytes : Bytes) (message : Option Message) :
      MainTurn env world (.received (some (.ok ⟨bytes, message⟩)))
        (match message with
        | some message => (world.noteReceipt env).onReceived env message
        | none => world.noteReceipt env)
  | goesOn {after : World} (event : Event) (goes : world.GoesOn env after) :
      MainTurn env world event after
  | hostChanged (host : Host) :
      MainTurn env world (.hostChanged host) (world.modifyHost fun _ => host)

/-- What a turn of the relay loop is. -/
inductive RelayTurn (env : Env) (world : World) : Event → World → Prop
  | bails (event : Event) : RelayTurn env world event (world.bail env)
  | passes (event : Event) (time : Int) (passed : List Effect) :
      RelayTurn env world event
        { world with lastRecvTime := time, out := world.out ++ passed }
  | hostChanged (host : Host) :
      RelayTurn env world (.hostChanged host) (world.modifyHost fun _ => host)

section Cases

variable (env : Env) (world : World)

theorem Prepared.goes
    {world current : World}
    (prepared : world.Prepared current) :
    world.GoesOn env current :=
  ⟨current, prepared, .inl rfl⟩

theorem Prepared.closes
    {world current : World}
    (prepared : world.Prepared current)
    (lock : Bool) :
    world.GoesOn env (current.closeLoop env lock) :=
  ⟨current, prepared, .inr ⟨lock, rfl⟩⟩

/-- Without a retry the session is forgotten. -/
theorem Prepared.noRetry
    {world current : World}
    (prepared : world.Prepared current)
    (reason : String) :
    world.Prepared (current.sendCloseReasonNoRetry reason) :=
  (prepared.emit _).forget

theorem sent_goesOn
    {world current : World}
    (prepared : world.Prepared current) :
    world.GoesOn env
      (if env.sendError.isSome then current.closeLoop env false else current) := by
  split
  · exact prepared.closes env false
  · exact prepared.goes env

theorem onTestDelayTimer_goesOn : world.GoesOn env (world.onTestDelayTimer env) := by
  unfold onTestDelayTimer
  split
  · exact Prepared.start.closes env true
  · have probed : world.Prepared
        (if world.conn.lastTestDelay.isNone &&
            !(world.conn.portForwardSocket.isSome && world.conn.authorized) then
          (world.modify fun conn => { conn with lastTestDelay := some env.now }).send
            (.testDelay env.now false)
        else world) := by
      split
      · exact (Prepared.start.probe env.now).emit _
      · exact .start
    dsimp only
    generalize (if world.conn.lastTestDelay.isNone &&
        !(world.conn.portForwardSocket.isSome && world.conn.authorized) then
      (world.modify fun conn => { conn with lastTestDelay := some env.now }).send
        (.testDelay env.now false)
      else world) = current at probed ⊢
    split
    · split
      · exact (probed.emit _).goes env
      · exact probed.goes env
    · exact probed.goes env

theorem onSecondTimer_goesOn : world.GoesOn env (world.onSecondTimer env) := by
  unfold onSecondTimer
  split
  · split
    · exact (Prepared.start.noRetry _).closes env true
    · exact Prepared.start.goes env
  · exact Prepared.start.goes env

theorem onQueued_goesOn (message : Queued) :
    world.GoesOn env (world.onQueued env message) := by
  cases message with
  | stopService => exact (Prepared.start.noRetry _).closes env false
  | peerInfo => exact sent_goesOn env ((Prepared.start.emit _).emit _)
  | lateAudioFrame => exact Prepared.start.goes env
  | other => exact sent_goesOn env (Prepared.start.emit _)

/-- One turn of the main loop. -/
theorem mainLoop_turn (event : Event) :
    MainTurn env world event (world.mainLoop env event) := by
  have ignored : world.GoesOn env world := Prepared.start.goes env
  have closed : ∀ lock, world.GoesOn env (world.closeLoop env lock) :=
    Prepared.start.closes env
  cases event with
  | fromCm message =>
      cases message with
      | authorize => exact .authorizes
      | close => exact .goesOn _ ((Prepared.start.dismiss.noRetry _).closes env true)
      | cmErr error =>
          apply MainTurn.goesOn
          unfold mainLoop
          dsimp only
          split
          · exact ignored
          · exact closed false
      | _ => exact .asked _
  | received frame =>
      match frame with
      | none => exact .goesOn _ (closed true)
      | some (.error _) => exact .goesOn _ (closed true)
      | some (.ok ⟨bytes, none⟩) => exact .received bytes none
      | some (.ok ⟨bytes, some message⟩) => exact .received bytes (some message)
  | fileTimer =>
      apply MainTurn.goesOn
      unfold mainLoop
      dsimp only
      split
      · exact closed false
      · exact ignored
  | webConsole listed =>
      cases listed with
      | true => exact .goesOn _ ((Prepared.start.noRetry _).closes env true)
      | false => exact .goesOn _ ignored
  | video => exact .goesOn _ (sent_goesOn env (Prepared.start.emit _))
  | queued message => exact .goesOn _ (onQueued_goesOn env world message)
  | fromAuthed => exact .goesOn _ ignored
  | secondTimer => exact .goesOn _ (onSecondTimer_goesOn env world)
  | testDelayTimer => exact .goesOn _ (onTestDelayTimer_goesOn env world)
  | clipFile =>
      apply MainTurn.goesOn
      unfold mainLoop
      dsimp only
      split
      · exact (Prepared.start.emit _).goes env
      · exact ignored
  | forwarded frame => exact .goesOn _ ignored
  | relayTimer => exact .goesOn _ ignored
  | hostChanged host => exact .hostChanged host

/-- One turn of the relay loop. -/
theorem relayLoop_turn (event : Event) :
    RelayTurn env world event (world.relayLoop env event) := by
  have ignored : RelayTurn env world event world := by
    have same := @RelayTurn.passes env world event world.lastRecvTime []
    rwa [List.append_nil] at same
  unfold relayLoop
  split
  · exact .bails _
  · exact .bails _
  · exact .bails _
  · exact .bails _
  · exact .passes _ env.now _
  · exact .bails _
  · exact .bails _
  · exact .passes _ env.now _
  · split
    · exact .bails _
    · exact ignored
  · split
    · exact .bails _
    · exact ignored
  · next host => exact .hostChanged host
  · exact ignored

/-- After a message the main loop goes on or ends. -/
theorem onReceived_cases (message : Message) :
    world.onReceived env message = (world.onMessage env message).1 ∨
      world.onReceived env message = (world.onMessage env message).1.afterLoop env := by
  unfold onReceived
  split
  next last equal =>
    rw [equal]
    exact .inr rfl
  next last equal =>
    rw [equal]
    split
    · exact .inr rfl
    · exact .inl rfl

end Cases

end World

end Server
end OneDesk
