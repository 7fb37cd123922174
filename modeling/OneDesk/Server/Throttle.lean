import OneDesk.Server.Failures

/-!
# Concurrent login attempts against the failure table

Any number of connections make login attempts; each attempt reads the table in
its check, validates the password and writes the table in its update, and the
attempts of different connections interleave freely between the two.
-/

namespace OneDesk
namespace Server

/-- An attempt between its check and its update.  `seen` counts the wrong
passwords from this address that were complete when the check was made. -/
structure Attempt where
  ip : IpAddr
  failure : Failure
  time : Int
  seen : Nat
  deriving DecidableEq

/-- The failure table, the attempts between check and update, and the addresses
of the attempts completed so far. -/
structure Throttle where
  failures : Failures
  pending : Nat → Option Attempt
  wrong : List IpAddr
  right : List IpAddr

/-- What the connections do; a connection makes one attempt at a time. -/
inductive ThrottleEvent
  /-- A connection checks the table for a new attempt. -/
  | check (connection : Nat) (ip : IpAddr) (time : Int)
  /-- The password of the attempt was wrong and the table is updated. -/
  | wrong (connection : Nat)
  /-- The password of the attempt was right and the table is updated. -/
  | right (connection : Nat)

namespace Throttle

/-- The table of a fresh process. -/
def start : Throttle where
  failures := fun _ => none
  pending := fun _ => none
  wrong := []
  right := []

/-- Completed wrong passwords counted under a key. -/
def wrongUnder (throttle : Throttle) (key : FailureKey) : Nat :=
  throttle.wrong.countP fun ip => key ∈ failureKeys ip

/-- One critical section. -/
def step (throttle : Throttle) : ThrottleEvent → Throttle
  | .check connection ip time =>
      match throttle.pending connection with
      | some _ => throttle
      | none =>
          let checked := throttle.failures.checkFailure ip time
          match checked.refusal with
          | some _ => throttle
          | none =>
              { throttle with
                pending := Function.update throttle.pending connection
                  (some ⟨ip, checked.failure, checked.time,
                    throttle.wrongUnder (.address ip)⟩) }
  | .wrong connection =>
      match throttle.pending connection with
      | none => throttle
      | some attempt =>
          { throttle with
            failures := throttle.failures.updateFailure attempt.ip
              attempt.failure attempt.time false
            pending := Function.update throttle.pending connection none
            wrong := throttle.wrong ++ [attempt.ip] }
  | .right connection =>
      match throttle.pending connection with
      | none => throttle
      | some attempt =>
          { throttle with
            failures := throttle.failures.updateFailure attempt.ip
              attempt.failure attempt.time true
            pending := Function.update throttle.pending connection none
            right := throttle.right ++ [attempt.ip] }

/-- No attempt counted under a key had the right password so far. -/
def NoneRight (throttle : Throttle) (key : FailureKey) : Prop :=
  ∀ ip ∈ throttle.right, key ∉ failureKeys ip

/-- No failed attempt is lost: under every address and netblock without a
right password, the recorded total is at least the number of wrong passwords,
so a check lets an attempt through only after at most thirty of them. -/
def LosesNone (throttle : Throttle) : Prop :=
  (∀ key, throttle.NoneRight key →
    (throttle.wrongUnder key : Int) ≤ throttle.failures.total key) ∧
  ∀ ip time, throttle.NoneRight (.address ip) →
    (throttle.failures.checkFailure ip time).refusal = none →
      throttle.wrongUnder (.address ip) ≤ 30

/-- A wrong password is not overtaken: while its address has no right password,
no other attempt from there completed with a wrong one since its check. -/
def NotOvertaken (throttle : Throttle) : ThrottleEvent → Prop
  | .wrong connection =>
      ∀ attempt, throttle.pending connection = some attempt →
        throttle.NoneRight (.address attempt.ip) →
          throttle.wrongUnder (.address attempt.ip) = attempt.seen
  | _ => True

/-- What an event does: nothing, a new attempt, or one attempt completed. -/
theorem step_cases
    (throttle : Throttle)
    (event : ThrottleEvent) :
    step throttle event = throttle ∨
      (∃ connection ip time,
        (throttle.failures.checkFailure ip time).refusal = none ∧
        step throttle event =
          { throttle with
            pending := Function.update throttle.pending connection
              (some ⟨ip, throttle.failures.entry (.address ip), time,
                throttle.wrongUnder (.address ip)⟩) }) ∨
      (∃ connection attempt, throttle.pending connection = some attempt ∧
        event = .wrong connection ∧
        step throttle event =
          { throttle with
            failures := throttle.failures.updateFailure attempt.ip
              attempt.failure attempt.time false
            pending := Function.update throttle.pending connection none
            wrong := throttle.wrong ++ [attempt.ip] }) ∨
      (∃ connection attempt, throttle.pending connection = some attempt ∧
        step throttle event =
          { throttle with
            failures := throttle.failures.updateFailure attempt.ip
              attempt.failure attempt.time true
            pending := Function.update throttle.pending connection none
            right := throttle.right ++ [attempt.ip] }) := by
  cases event with
  | check connection ip time =>
      cases pending : throttle.pending connection with
      | some attempt => exact .inl (by simp [step, pending])
      | none =>
          cases refusal : (throttle.failures.checkFailure ip time).refusal with
          | some refusal => exact .inl (by simp [step, pending, refusal])
          | none =>
              refine .inr (.inl ⟨connection, ip, time, refusal, ?_⟩)
              obtain ⟨failure_eq, time_eq, -⟩ :=
                Failures.checkFailure_allowed refusal
              simp [step, pending, refusal, failure_eq, time_eq]
  | wrong connection =>
      cases pending : throttle.pending connection with
      | none => exact .inl (by simp [step, pending])
      | some attempt =>
          exact .inr (.inr (.inl
            ⟨connection, attempt, pending, rfl, by simp [step, pending]⟩))
  | right connection =>
      cases pending : throttle.pending connection with
      | none => exact .inl (by simp [step, pending])
      | some attempt =>
          exact .inr (.inr (.inr
            ⟨connection, attempt, pending, by simp [step, pending]⟩))

/-- Counting one more wrong password. -/
theorem wrongUnder_append
    (throttle : Throttle)
    (ip : IpAddr)
    (key : FailureKey)
    {after : Throttle}
    (wrong_eq : after.wrong = throttle.wrong ++ [ip]) :
    after.wrongUnder key =
      throttle.wrongUnder key + if key ∈ failureKeys ip then 1 else 0 := by
  unfold wrongUnder
  rw [wrong_eq, List.countP_append, List.countP_singleton]
  simp

/-- What holds in every reachable state: totals of netblocks are exact, totals
of addresses are at most the number of wrong passwords, and an attempt read at
most what was complete at its check. -/
structure Bounded (throttle : Throttle) : Prop where
  netblock : ∀ length block, throttle.NoneRight (.netblock length block) →
    throttle.failures.total (.netblock length block) =
      throttle.wrongUnder (.netblock length block)
  address : ∀ ip, throttle.NoneRight (.address ip) →
    throttle.failures.total (.address ip) ≤ throttle.wrongUnder (.address ip)
  pending : ∀ connection attempt,
    throttle.pending connection = some attempt →
      throttle.NoneRight (.address attempt.ip) →
        attempt.failure.total ≤ attempt.seen ∧
          attempt.seen ≤ throttle.wrongUnder (.address attempt.ip)

/-- What also holds as long as no wrong password is overtaken. -/
structure Exact (throttle : Throttle) : Prop where
  address : ∀ ip, throttle.NoneRight (.address ip) →
    throttle.failures.total (.address ip) = throttle.wrongUnder (.address ip)
  pending : ∀ connection attempt,
    throttle.pending connection = some attempt →
      throttle.NoneRight (.address attempt.ip) →
        attempt.failure.total = attempt.seen

theorem start_bounded : start.Bounded where
  netblock := fun _ _ _ => rfl
  address := fun _ _ => Int.le_refl _
  pending := fun _ _ pending => by cases pending

theorem start_exact : start.Exact where
  address := fun _ _ => rfl
  pending := fun _ _ pending => by cases pending

/-- A key without a right password had none before one more. -/
theorem NoneRight.of_append
    {throttle after : Throttle}
    {key : FailureKey}
    {ip : IpAddr}
    (right_eq : after.right = throttle.right ++ [ip])
    (noneRight : after.NoneRight key) :
    throttle.NoneRight key ∧ key ∉ failureKeys ip := by
  unfold NoneRight at noneRight
  rw [right_eq] at noneRight
  exact ⟨fun other member => noneRight other (by simp [member]),
    noneRight ip (by simp)⟩

/-- What is read after an entry was cleared was there before. -/
theorem of_update_none
    {Key Value : Type}
    [DecidableEq Key]
    {entries : Key → Option Value}
    {cleared key : Key}
    {value : Value}
    (isEntry : Function.update entries cleared none key = some value) :
    entries key = some value := by
  by_cases same : key = cleared
  · simp [same] at isEntry
  · simpa [same] using isEntry

/-- Every event keeps the totals bounded. -/
theorem step_bounded
    {throttle : Throttle}
    (bounded : throttle.Bounded)
    (event : ThrottleEvent) :
    (step throttle event).Bounded := by
  obtain unchanged | ⟨connection, ip, time, -, after_eq⟩ |
    ⟨connection, attempt, current, -, after_eq⟩ |
    ⟨connection, attempt, current, after_eq⟩ := step_cases throttle event
  · rw [unchanged]
    exact bounded
  · rw [after_eq]
    refine ⟨bounded.netblock, bounded.address, ?_⟩
    intro other later pending noneRight
    simp only [Function.update_apply] at pending
    split at pending
    · cases pending
      exact ⟨bounded.address ip noneRight, Nat.le_refl _⟩
    · exact bounded.pending other later pending noneRight
  · have count := fun key =>
      wrongUnder_append throttle attempt.ip key
        (show (step throttle event).wrong = throttle.wrong ++ [attempt.ip] by
          rw [after_eq])
    rw [after_eq] at count ⊢
    refine ⟨?_, ?_, ?_⟩
    · intro length block noneRight
      have before := bounded.netblock length block noneRight
      rw [count, Failures.total_updateFailure_wrong, before]
      simp only [failureKeys, List.mem_append, List.mem_singleton, reduceCtorEq,
        or_false, if_false]
      split <;> simp
    · intro ip noneRight
      rw [count, Failures.total_updateFailure_wrong]
      by_cases same : ip = attempt.ip
      · subst same
        have read := bounded.pending connection attempt current noneRight
        simp only [address_mem_failureKeys, if_true]
        omega
      · have before := bounded.address ip noneRight
        simp only [FailureKey.address.injEq, same, if_false,
          address_notMem_netblocks, address_mem_failureKeys]
        omega
    · intro other later pending noneRight
      have before := bounded.pending other later (of_update_none pending) noneRight
      rw [count]
      exact ⟨before.1, by omega⟩
  · have fresh : ∀ key, (step throttle event).NoneRight key →
        throttle.NoneRight key ∧ key ∉ failureKeys attempt.ip :=
      fun key => NoneRight.of_append (by rw [after_eq])
    rw [after_eq] at fresh ⊢
    refine ⟨?_, ?_, ?_⟩
    · intro length block noneRight
      obtain ⟨before, foreign⟩ := fresh _ noneRight
      rw [Failures.total_updateFailure_right _ _ _ foreign]
      exact bounded.netblock length block before
    · intro ip noneRight
      obtain ⟨before, foreign⟩ := fresh _ noneRight
      rw [Failures.total_updateFailure_right _ _ _ foreign]
      exact bounded.address ip before
    · intro other later pending noneRight
      exact bounded.pending other later (of_update_none pending) (fresh _ noneRight).1

/-- An event that overtakes no wrong password keeps the totals exact. -/
theorem step_exact
    {throttle : Throttle}
    (exact' : throttle.Exact)
    {event : ThrottleEvent}
    (notOvertaken : NotOvertaken throttle event) :
    (step throttle event).Exact := by
  obtain unchanged | ⟨connection, ip, time, -, after_eq⟩ |
    ⟨connection, attempt, current, rfl, after_eq⟩ |
    ⟨connection, attempt, current, after_eq⟩ := step_cases throttle event
  · rw [unchanged]
    exact exact'
  · rw [after_eq]
    refine ⟨exact'.address, ?_⟩
    intro other later pending noneRight
    simp only [Function.update_apply] at pending
    split at pending
    · cases pending
      exact exact'.address ip noneRight
    · exact exact'.pending other later pending noneRight
  · have count := fun key =>
      wrongUnder_append throttle attempt.ip key
        (show (step throttle (.wrong connection)).wrong =
          throttle.wrong ++ [attempt.ip] by rw [after_eq])
    rw [after_eq] at count ⊢
    refine ⟨?_, ?_⟩
    · intro ip noneRight
      rw [count, Failures.total_updateFailure_wrong]
      by_cases same : ip = attempt.ip
      · subst same
        have read := exact'.pending connection attempt current noneRight
        have inPlace := notOvertaken attempt current noneRight
        simp only [address_mem_failureKeys, if_true]
        omega
      · have before := exact'.address ip noneRight
        simp only [FailureKey.address.injEq, same, if_false,
          address_notMem_netblocks, address_mem_failureKeys]
        omega
    · intro other later pending noneRight
      exact exact'.pending other later (of_update_none pending) noneRight
  · have fresh : ∀ key, (step throttle event).NoneRight key →
        throttle.NoneRight key ∧ key ∉ failureKeys attempt.ip :=
      fun key => NoneRight.of_append (by rw [after_eq])
    rw [after_eq] at fresh ⊢
    refine ⟨?_, ?_⟩
    · intro ip noneRight
      obtain ⟨before, foreign⟩ := fresh _ noneRight
      rw [Failures.total_updateFailure_right _ _ _ foreign]
      exact exact'.address ip before
    · intro other later pending noneRight
      exact exact'.pending other later (of_update_none pending) (fresh _ noneRight).1

/-- Exact totals lose no attempt. -/
theorem losesNone_of_exact
    {throttle : Throttle}
    (bounded : throttle.Bounded)
    (exact' : throttle.Exact) :
    throttle.LosesNone := by
  refine ⟨?_, ?_⟩
  · intro key noneRight
    cases key with
    | address ip => exact Int.le_of_eq (exact'.address ip noneRight).symm
    | netblock length block =>
        exact Int.le_of_eq (bounded.netblock length block noneRight).symm
  · intro ip time noneRight allowed
    have few := (Failures.checkFailure_allowed allowed).2.2
    have counted := exact'.address ip noneRight
    omega

/-- Throttling loses no failed attempt, in every state of a run, exactly when
no wrong password is overtaken by another one from the same address between
its check and its update. -/
theorem losesNone_iff_notOvertaken
    (events : List ThrottleEvent) :
    (∀ before, before <+: events → (Lib.run step start before).LosesNone) ↔
      Lib.Along step NotOvertaken start events := by
  have bounded : ∀ before, (Lib.run step start before).Bounded := fun before =>
    Lib.run_invariant_always Bounded
      (fun _ event holds => step_bounded holds event) before start_bounded
  constructor
  · intro losesNone
    rw [Lib.along_iff_forall_split]
    rintro before event after rfl
    obtain ⟨connection, rfl⟩ | other :
        (∃ connection, event = .wrong connection) ∨
          NotOvertaken (Lib.run step start before) event := by
      cases event with
      | check connection ip time => exact .inr trivial
      | wrong connection => exact .inl ⟨connection, rfl⟩
      | right connection => exact .inr trivial
    · intro attempt current noneRight
      have recorded := (losesNone (before ++ [.wrong connection]) (by simp)).1
        (.address attempt.ip)
      have read := (bounded before).pending connection attempt current noneRight
      simp only [Lib.run_concat] at recorded
      generalize Lib.run step start before = throttle at *
      have after_eq : step throttle (.wrong connection) =
          { throttle with
            failures := throttle.failures.updateFailure attempt.ip
              attempt.failure attempt.time false
            pending := Function.update throttle.pending connection none
            wrong := throttle.wrong ++ [attempt.ip] } := by
        simp [step, current]
      have count := wrongUnder_append throttle attempt.ip (.address attempt.ip)
        (show (step throttle (.wrong connection)).wrong =
          throttle.wrong ++ [attempt.ip] by rw [after_eq])
      rw [count, after_eq, Failures.total_updateFailure_wrong] at recorded
      have enough := recorded noneRight
      simp only [address_mem_failureKeys, if_true] at enough
      omega
    · exact other
  · intro along before isPrefix
    have exact' := Lib.run_invariant Exact
      (fun _ _ holds admissible => step_exact holds admissible)
      start_exact (along.restrict isPrefix)
    exact losesNone_of_exact (bounded before) exact'

/-- Two connections from one address check before either updates. -/
def overtaking : List ThrottleEvent :=
  [.check 1 (.v4 3232235777) 28000000, .check 2 (.v4 3232235777) 28000000,
    .wrong 1, .wrong 2]

/-- Two overlapping wrong passwords leave a total of one. -/
theorem overtaking_loses_one :
    ¬(Lib.run step start overtaking).LosesNone := by
  intro losesNone
  have recorded := losesNone.1 (.address (.v4 3232235777)) (by
    intro ip member
    simp [overtaking, step, start, Failures.checkFailure, getIpv6Prefixes,
      Failures.checkAddress, Failures.entry, Failure.none] at member)
  revert recorded
  decide

end Throttle

end Server
end OneDesk
