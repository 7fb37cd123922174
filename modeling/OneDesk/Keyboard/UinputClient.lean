import OneDesk.Keyboard.Uinput
import OneDesk.Lib.Mailbox
import OneDesk.Lib.Run

/-!
# The client of the uinput service

The calls of a client are messages on one connection, and only the question for the state of a
key is answered.  An answer does not tell the key that it is about, and a call that has waited too
long leaves its answer to the next one.
-/

namespace OneDesk
namespace Keyboard
namespace Uinput

open OneDesk.Lib

/-- What the client gets from the connection, as far as it looks into it. -/
inductive IpcData
  | keyboardResponse (state : Bool)
  | other (debug : String)
  deriving DecidableEq

/-- `send_get_key_state` on what `next_timeout` returns. -/
def onKeyStateResponse : Except String (Option IpcData) → Except String Bool
  | .ok (some (.keyboardResponse state)) => .ok state
  | .ok (some (.other debug)) =>
      .error ("FATAL error, wait keyboard result other response: " ++ debug)
  | .ok none => .error "FATAL error, wait keyboard result, receive None"
  | .error error => .error ("FATAL error, wait keyboard result timeout " ++ error ++ ", 1000")

/-- The calls of `UInputKeyboard` that wait for nothing. -/
inductive KeyCall
  | keySequence (sequence : String)
  | keyDown (key : EnigoKey)
  | keyUp (key : EnigoKey)
  | keyClick (key : EnigoKey)
  deriving DecidableEq

/-- The message of a call. -/
def KeyCall.message : KeyCall → DataKeyboard
  | .keySequence sequence => .sequence sequence
  | .keyDown key => .keyDown key
  | .keyUp key => .keyUp key
  | .keyClick key => .keyClick key

/-- A call of `get_key_state`, with the number of calls before it. -/
structure StateCall where
  number : Nat
  key : EnigoKey
  deriving DecidableEq

/-- The message of a call, with the number of the call. -/
def StateCall.question (call : StateCall) : Nat × DataKeyboard :=
  (call.number, .getKeyState call.key)

/-- A client and the service with the connection between them. -/
structure Link where
  /-- The messages that the service has not handled and the answers that are not received. -/
  channel : Mailbox (Nat × DataKeyboard) Bool
  /-- The call that waits. -/
  waiting : Option StateCall
  calls : Nat
  keyboard : VirtualDevice
  /-- The calls that have stopped waiting without an answer. -/
  gaveUp : Nat

/-- What may happen on the connection. -/
inductive LinkEvent
  /-- A call that waits for nothing, and whether its message is sent. -/
  | post (call : KeyCall) (sent : Bool)
  /-- A call of `get_key_state`, with how sending its message ends. -/
  | ask (key : EnigoKey) (sent : Except String Unit)
  /-- The service handles its next message. -/
  | handle
  /-- The device changes on its own. -/
  | device (leds : Option Leds) (readable : Bool)
  /-- The call that waits receives the next answer. -/
  | receive
  /-- The call that waits has waited for too long, or the connection is closed. -/
  | fail (error : String)

namespace Link

/-- A new connection. -/
def new (keyboard : VirtualDevice) : Link := ⟨.empty, none, 0, keyboard, 0⟩

variable (evdev : Evdev) (link : Link)

/-- One event.  The calls of a client are made one after another. -/
def step : LinkEvent → Link
  | .post call sent =>
      match link.waiting with
      | some _ => link
      | none =>
          { link with
            channel :=
              if sent then link.channel.ask (link.calls, call.message) else link.channel
            calls := link.calls + 1 }
  | .ask key sent =>
      match link.waiting with
      | some _ => link
      | none =>
          match sent with
          | .error _ => { link with calls := link.calls + 1 }
          | .ok () =>
              let call : StateCall := ⟨link.calls, key⟩
              { link with
                channel := link.channel.ask call.question
                waiting := some call
                calls := link.calls + 1 }
  | .handle =>
      match link.channel.asked with
      | [] => link
      | (_, message) :: _ =>
          let handled := (handleKeyboard evdev link.keyboard message).value
          { link with
            channel := link.channel.reply 0 fun _ => handled.2.toList
            keyboard := handled.1 }
  | .device leds readable =>
      { link with keyboard := { link.keyboard with leds := leds, readable := readable } }
  | .receive =>
      match link.waiting, link.channel.arrived with
      | some _, _ :: _ => { link with channel := link.channel.read, waiting := none }
      | _, _ => link
  | .fail _ =>
      match link.waiting with
      | some _ => { link with waiting := none, gaveUp := link.gaveUp + 1 }
      | none => link

/-- What the call that waits, or the one that is made, returns at an event. -/
def returned : LinkEvent → Option (StateCall × Except String Bool)
  | .ask key sent =>
      match link.waiting, sent with
      | none, .error error => some (⟨link.calls, key⟩, .error error)
      | _, _ => none
  | .receive =>
      match link.waiting, link.channel.arrived with
      | some call, part :: _ =>
          some (call, onKeyStateResponse (.ok (some (.keyboardResponse part.2))))
      | _, _ => none
  | .fail error =>
      match link.waiting with
      | some call => some (call, onKeyStateResponse (.error error))
      | none => none
  | .post .. | .handle | .device .. => none

/-- The state that a call returns is the answer of the service to the message of this call. -/
def Own (event : LinkEvent) : Prop :=
  ∀ call state, link.returned event = some (call, .ok state) →
    link.channel.arrived.head? = some (call.question, state)

/-- A call receives an answer only if no earlier call has given up. -/
def InTime : LinkEvent → Prop
  | .receive => link.waiting ≠ none → link.channel.arrived ≠ [] → link.gaveUp = 0
  | .post .. | .ask .. | .handle | .device .. | .fail _ => True

/-- A message is a question for the state of a key. -/
def isQuestion : DataKeyboard → Bool
  | .getKeyState _ => true
  | _ => false

/-- The questions whose answers are not received, in the order in which they were asked. -/
def pending : List (Nat × DataKeyboard) :=
  link.channel.arrived.map Prod.fst ++
    link.channel.asked.filter fun question => isQuestion question.2

/-- The number that the questions of earlier calls are below. -/
def bound : Nat := (link.waiting.map StateCall.number).getD link.calls

/-- The questions that are pending are those of the calls that gave up, or of as many later
ones, and last that of the call that waits. -/
structure Orderly : Prop where
  split : ∃ earlier : List (Nat × DataKeyboard),
    link.pending = earlier ++ (link.waiting.map StateCall.question).toList ∧
      earlier.length = link.gaveUp ∧ ∀ question ∈ earlier, question.1 < link.bound
  waiting : ∀ call, link.waiting = some call → call.number < link.calls

variable {evdev link}

theorem orderly_new (keyboard : VirtualDevice) : (new keyboard).Orderly where
  split := ⟨[], rfl, rfl, fun _ member => absurd member List.not_mem_nil⟩
  waiting := by
    rintro call ⟨⟩

/-- Only a question is answered. -/
theorem answered_iff (keyboard : VirtualDevice) (message : DataKeyboard) :
    ((handleKeyboard evdev keyboard message).value.2).isSome = isQuestion message := by
  unfold handleKeyboard
  split
  · rfl
  · rfl
  · rfl
  · split <;> rfl
  · split <;> rfl
  · split <;> rfl
  · rfl

/-- What the service handles stays pending if it is a question. -/
theorem pending_handle : (link.step evdev .handle).pending = link.pending := by
  unfold step
  dsimp only
  split
  · rfl
  · next number message rest asked =>
      have answered : ((handleKeyboard evdev link.keyboard message).value.2).isSome =
          isQuestion message :=
        answered_iff link.keyboard message
      unfold pending Mailbox.reply
      simp only [asked, List.getElem?_cons_zero, List.eraseIdx_cons_zero, List.filter_cons]
      cases isAnswer : (handleKeyboard evdev link.keyboard message).value.2 with
      | none =>
          rw [isAnswer] at answered
          simp [← answered]
      | some answer =>
          rw [isAnswer] at answered
          simp [← answered]

theorem pending_of_ask
    {next : Link}
    {question : Nat × DataKeyboard}
    (channel : next.channel = link.channel.ask question) :
    next.pending = link.pending ++ if isQuestion question.2 then [question] else [] := by
  simp [pending, channel, Mailbox.ask, List.filter_cons]

/-- A call that waits for nothing is not pending. -/
theorem Orderly.post
    (orderly : link.Orderly)
    (call : KeyCall)
    (sent : Bool) :
    (link.step evdev (.post call sent)).Orderly := by
  unfold Link.step
  dsimp only
  split
  · exact orderly
  · next idle =>
      obtain ⟨⟨earlier, isPending, count, below⟩, _⟩ := orderly
      refine ⟨⟨earlier, ?_, count, fun question member => ?_⟩, ?_⟩
      · cases sent with
        | false => exact isPending
        | true =>
            rw [pending_of_ask rfl, isPending]
            cases call <;> exact List.append_nil _
      · have before := below question member
        rw [bound, idle] at before ⊢
        exact before.trans (Nat.lt_succ_self _)
      · rintro call waits
        dsimp only at waits
        rw [idle] at waits
        cases waits

/-- A question that is sent is the last that is pending. -/
theorem Orderly.ask
    (orderly : link.Orderly)
    (key : EnigoKey)
    (sent : Except String Unit) :
    (link.step evdev (.ask key sent)).Orderly := by
  unfold Link.step
  dsimp only
  split
  · exact orderly
  · next idle =>
      obtain ⟨⟨earlier, isPending, count, below⟩, _⟩ := orderly
      rw [idle, Option.map_none, Option.toList_none, List.append_nil] at isPending
      rw [bound, idle, Option.map_none, Option.getD_none] at below
      cases sent with
      | error error =>
          refine ⟨⟨earlier, ?_, count, fun question member => ?_⟩, ?_⟩
          · dsimp only
            rw [idle, Option.map_none, Option.toList_none, List.append_nil]
            exact isPending
          · rw [bound, idle]
            exact (below question member).trans (Nat.lt_succ_self _)
          · rintro call waits
            dsimp only at waits
            rw [idle] at waits
            cases waits
      | ok done =>
          refine ⟨⟨earlier, ?_, count, below⟩, ?_⟩
          · rw [pending_of_ask rfl, isPending]
            rfl
          · rintro call ⟨⟩
            exact Nat.lt_succ_self _

/-- The first that is pending is not pending any more when its answer is received. -/
theorem Orderly.receive (orderly : link.Orderly) :
    (link.step evdev .receive).Orderly := by
  unfold Link.step
  dsimp only
  split
  · next call part rest waits arrived =>
      obtain ⟨⟨earlier, isPending, count, below⟩, numbered⟩ := orderly
      have isNumber := numbered call waits
      have rest_pending : link.pending.tail =
          rest.map Prod.fst ++ link.channel.asked.filter fun question => isQuestion question.2 := by
        rw [pending, arrived]
        rfl
      rw [bound, waits, Option.map_some, Option.getD_some] at below
      refine ⟨⟨link.pending.tail, ?_, ?_, fun question member => ?_⟩, ?_⟩
      · rw [rest_pending]
        simp [pending, Mailbox.read, arrived]
      · rw [isPending, waits, List.length_tail, List.length_append, count]
        exact Nat.add_sub_cancel _ _
      · have isMember := List.mem_of_mem_tail member
        rw [isPending, waits] at isMember
        rw [bound, Option.map_none, Option.getD_none]
        rcases List.mem_append.mp isMember with isEarlier | isLast
        · exact (below question isEarlier).trans isNumber
        · rw [List.mem_singleton.mp isLast]
          exact isNumber
      · rintro other ⟨⟩
  · exact orderly

/-- The question of a call that gives up stays pending. -/
theorem Orderly.fail
    (orderly : link.Orderly)
    (error : String) :
    (link.step evdev (.fail error)).Orderly := by
  unfold Link.step
  dsimp only
  split
  · next call waits =>
      obtain ⟨⟨earlier, isPending, count, below⟩, numbered⟩ := orderly
      have isNumber := numbered call waits
      rw [waits] at isPending
      rw [bound, waits, Option.map_some, Option.getD_some] at below
      refine ⟨⟨earlier ++ [call.question], ?_, ?_, fun question member => ?_⟩, ?_⟩
      · rw [Option.map_none, Option.toList_none, List.append_nil]
        exact isPending
      · rw [List.length_append, count]
        rfl
      · rw [bound, Option.map_none, Option.getD_none]
        rcases List.mem_append.mp member with isEarlier | isLast
        · exact (below question isEarlier).trans isNumber
        · rw [List.mem_singleton.mp isLast]
          exact isNumber
      · rintro other ⟨⟩
  · exact orderly

theorem Orderly.step (orderly : link.Orderly) (event : LinkEvent) :
    (link.step evdev event).Orderly := by
  cases event with
  | post call sent => exact orderly.post call sent
  | ask key sent => exact orderly.ask key sent
  | handle =>
      have same : (link.step evdev .handle).waiting = link.waiting ∧
          (link.step evdev .handle).calls = link.calls ∧
          (link.step evdev .handle).gaveUp = link.gaveUp := by
        unfold Link.step
        dsimp only
        split
        · exact ⟨rfl, rfl, rfl⟩
        · exact ⟨rfl, rfl, rfl⟩
      obtain ⟨⟨earlier, isPending, count, below⟩, numbered⟩ := orderly
      refine ⟨⟨earlier, ?_, ?_, ?_⟩, ?_⟩
      · rw [pending_handle, same.1]
        exact isPending
      · rw [same.2.2]
        exact count
      · rw [bound, same.1, same.2.1]
        exact below
      · rw [same.1, same.2.1]
        exact numbered
  | device leds readable => exact ⟨orderly.split, orderly.waiting⟩
  | receive => exact orderly.receive
  | fail error => exact orderly.fail error

/-- In order, the answer that a call receives is its own exactly if no earlier call gave up. -/
theorem Orderly.own_iff (orderly : link.Orderly) (event : LinkEvent) :
    link.Own event ↔ link.InTime event := by
  cases event with
  | receive =>
      obtain ⟨⟨earlier, isPending, count, below⟩, _⟩ := orderly
      unfold Own InTime returned
      cases waits : link.waiting with
      | none => simp
      | some call =>
          cases arrived : link.channel.arrived with
          | nil => simp
          | cons part rest =>
              have isFirst : link.pending.head? = some part.1 := by
                rw [pending, arrived]
                rfl
              rw [isPending, waits] at isFirst
              rw [bound, waits] at below
              simp only [onKeyStateResponse, Option.some.injEq, Prod.mk.injEq, Except.ok.injEq,
                List.head?_cons, ne_eq, reduceCtorEq, not_false_eq_true, forall_const]
              rw [← count, List.length_eq_zero_iff]
              constructor
              · intro own
                have isOwn : part.1 = call.question :=
                  congrArg Prod.fst (own call part.2 ⟨rfl, rfl⟩)
                cases earlier with
                | nil => rfl
                | cons first others =>
                    cases isFirst
                    have less := below part.1 List.mem_cons_self
                    rw [isOwn] at less
                    exact absurd less (Nat.lt_irrefl _)
              · rintro rfl _ _ ⟨rfl, rfl⟩
                have isOwn : call.question = part.1 := Option.some.inj isFirst
                rw [isOwn]
  | ask key sent =>
      simp only [Own, InTime, iff_true]
      rintro call state returns
      unfold returned at returns
      dsimp only at returns
      split at returns
      · cases returns
      · cases returns
  | fail error =>
      simp only [Own, InTime, iff_true]
      rintro call state returns
      unfold returned at returns
      dsimp only at returns
      split at returns
      · cases returns
      · cases returns
  | post call sent => simp [Own, InTime, returned]
  | handle => simp [Own, InTime, returned]
  | device leds readable => simp [Own, InTime, returned]

theorem orderly_run (keyboard : VirtualDevice) (events : List LinkEvent) :
    (run (step evdev) (new keyboard) events).Orderly :=
  run_invariant_always Orderly (fun _ event orderly => orderly.step event) events
    (orderly_new keyboard)

/-- In a run, every state that is returned answers the message of its own call exactly if no
call receives an answer after an earlier one gave up. -/
theorem along_own_iff
    (evdev : Evdev)
    (keyboard : VirtualDevice)
    (events : List LinkEvent) :
    Along (step evdev) Own (new keyboard) events ↔
      Along (step evdev) InTime (new keyboard) events := by
  rw [along_iff_forall_split, along_iff_forall_split]
  constructor
  · intro own before event after split
    exact ((orderly_run keyboard before).own_iff event).mp (own before event after split)
  · intro inTime before event after split
    exact ((orderly_run keyboard before).own_iff event).mpr (inTime before event after split)

/-- The answer to a first call comes too late, and is received by a second call. -/
def lateAnswer : List LinkEvent :=
  [.ask (.key .capsLock) (.ok ()), .fail "deadline has elapsed", .handle,
    .ask (.key .shift) (.ok ()), .receive]

/-- The state of Caps Lock is returned for that of Shift. -/
theorem late_answer_is_taken :
    ¬Along (step someCodes) Own (new (.idle (some ⟨true, false⟩) true)) lateAnswer ∧
      (run (step someCodes) (new (.idle (some ⟨true, false⟩) true)) (lateAnswer.take 4)).returned
        .receive = some (⟨1, .key .shift⟩, .ok true) := by
  refine ⟨fun own => ?_, rfl⟩
  have last := along_iff_forall_split.mp own (lateAnswer.take 4) .receive [] rfl
  have head := last ⟨1, .key .shift⟩ true rfl
  cases head

end Link

end Uinput
end Keyboard
end OneDesk
