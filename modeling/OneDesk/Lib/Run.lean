import Mathlib.Data.List.Infix

/-!
# Runs of a deterministic machine

A machine is a step function on a state type.  A run feeds it a list of
events, so nondeterminism (schedulers, peers, clocks) lives in the choice of
the events.  The two modalities of this module speak about the steps of one
run: `Along` says that every step meets a condition on the state before it and
its event, `Occurs` that some step does.
-/

namespace OneDesk
namespace Lib

variable {State Event : Type*} (step : State → Event → State)

/-- State reached after a list of events. -/
def run (state : State) (events : List Event) : State :=
  events.foldl step state

@[simp] theorem run_nil (state : State) : run step state [] = state := rfl

@[simp] theorem run_cons
    (state : State)
    (event : Event)
    (events : List Event) :
    run step state (event :: events) = run step (step state event) events := rfl

theorem run_append
    (state : State)
    (before after : List Event) :
    run step state (before ++ after) =
      run step (run step state before) after :=
  List.foldl_append

@[simp] theorem run_concat
    (state : State)
    (before : List Event)
    (event : Event) :
    run step state (before ++ [event]) =
      step (run step state before) event := by
  rw [run_append]
  rfl

/-- Every step of a run meets a condition on its state and its event. -/
def Along (condition : State → Event → Prop) : State → List Event → Prop
  | _, [] => True
  | state, event :: events =>
      condition state event ∧ Along condition (step state event) events

instance Along.decidable
    (condition : State → Event → Prop)
    [∀ state event, Decidable (condition state event)] :
    (state : State) → (events : List Event) → Decidable (Along step condition state events)
  | _, [] => .isTrue trivial
  | state, event :: events =>
      @instDecidableAnd _ _ _ (Along.decidable condition (step state event) events)

/-- Some step of a run meets a condition on its state and its event. -/
def Occurs (condition : State → Event → Prop) : State → List Event → Prop
  | _, [] => False
  | state, event :: events =>
      condition state event ∨ Occurs condition (step state event) events

variable {step}

@[simp] theorem along_nil
    {condition : State → Event → Prop}
    (state : State) :
    Along step condition state [] :=
  trivial

@[simp] theorem along_cons
    {condition : State → Event → Prop}
    (state : State)
    (event : Event)
    (events : List Event) :
    Along step condition state (event :: events) ↔
      condition state event ∧
        Along step condition (step state event) events :=
  Iff.rfl

theorem along_append
    {condition : State → Event → Prop}
    (state : State)
    (before after : List Event) :
    Along step condition state (before ++ after) ↔
      Along step condition state before ∧
        Along step condition (run step state before) after := by
  induction before generalizing state with
  | nil => simp
  | cons event events inductionHypothesis =>
      simp [inductionHypothesis, and_assoc]

/-- The condition holds at every split of the run. -/
theorem along_iff_forall_split
    {condition : State → Event → Prop}
    {state : State}
    {events : List Event} :
    Along step condition state events ↔
      ∀ before event after, events = before ++ event :: after →
        condition (run step state before) event := by
  constructor
  · rintro along before event after rfl
    exact ((along_append state before (event :: after)).mp along).2.1
  · intro everySplit
    induction events generalizing state with
    | nil => trivial
    | cons event events inductionHypothesis =>
        refine ⟨everySplit [] event events rfl, inductionHypothesis ?_⟩
        rintro before current after rfl
        exact everySplit (event :: before) current after rfl

/-- Two conditions hold along a run together. -/
theorem Along.and
    {left right : State → Event → Prop}
    {state : State}
    {events : List Event}
    (alongLeft : Along step left state events)
    (alongRight : Along step right state events) :
    Along step (fun current event => left current event ∧ right current event)
      state events := by
  induction events generalizing state with
  | nil => trivial
  | cons event events inductionHypothesis =>
      exact ⟨⟨alongLeft.1, alongRight.1⟩,
        inductionHypothesis alongLeft.2 alongRight.2⟩

/-- A condition that holds along a run holds along its prefixes. -/
theorem Along.restrict
    {condition : State → Event → Prop}
    {state : State}
    {before events : List Event}
    (along : Along step condition state events)
    (isPrefix : before <+: events) :
    Along step condition state before := by
  obtain ⟨after, rfl⟩ := isPrefix
  exact ((along_append state before after).mp along).1

/-- Conditions that agree on every step hold along the same runs. -/
theorem along_congr
    {left right : State → Event → Prop}
    (agree : ∀ state event, left state event ↔ right state event)
    (state : State)
    (events : List Event) :
    Along step left state events ↔ Along step right state events := by
  induction events generalizing state with
  | nil => exact Iff.rfl
  | cons event events inductionHypothesis =>
      rw [along_cons, along_cons, agree, inductionHypothesis]

@[simp] theorem not_occurs_nil
    {condition : State → Event → Prop}
    (state : State) :
    ¬Occurs step condition state [] :=
  id

@[simp] theorem occurs_cons
    {condition : State → Event → Prop}
    (state : State)
    (event : Event)
    (events : List Event) :
    Occurs step condition state (event :: events) ↔
      condition state event ∨
        Occurs step condition (step state event) events :=
  Iff.rfl

theorem occurs_append
    {condition : State → Event → Prop}
    (state : State)
    (before after : List Event) :
    Occurs step condition state (before ++ after) ↔
      Occurs step condition state before ∨
        Occurs step condition (run step state before) after := by
  induction before generalizing state with
  | nil => simp
  | cons event events inductionHypothesis =>
      simp [inductionHypothesis, or_assoc]

/-- Invariant rule: a property that every admissible step preserves holds at
the end of every run whose steps are all admissible. -/
theorem run_invariant
    {admissible : State → Event → Prop}
    (invariant : State → Prop)
    (preserved : ∀ state event,
      invariant state → admissible state event → invariant (step state event))
    {state : State}
    {events : List Event}
    (initially : invariant state)
    (along : Along step admissible state events) :
    invariant (run step state events) := by
  induction events generalizing state with
  | nil => exact initially
  | cons event events inductionHypothesis =>
      exact inductionHypothesis
        (preserved state event initially along.1) along.2

/-- Invariant rule for a property that every step preserves. -/
theorem run_invariant_always
    (invariant : State → Prop)
    (preserved : ∀ state event, invariant state → invariant (step state event))
    {state : State}
    (events : List Event)
    (initially : invariant state) :
    invariant (run step state events) := by
  induction events generalizing state with
  | nil => exact initially
  | cons event events inductionHypothesis =>
      exact inductionHypothesis (preserved state event initially)

/-- Onset rule: if a property is false at the start and true at the end of a
run, some step of the run made it true. -/
theorem exists_onset
    {property : State → Prop}
    {state : State}
    {events : List Event}
    (absent : ¬property state)
    (present : property (run step state events)) :
    ∃ before event after, events = before ++ event :: after ∧
      ¬property (run step state before) ∧
      property (run step state (before ++ [event])) := by
  classical
  induction events generalizing state with
  | nil => exact absurd present absent
  | cons event events inductionHypothesis =>
      by_cases reached : property (step state event)
      · exact ⟨[], event, events, rfl, absent, reached⟩
      · obtain ⟨before, current, after, rfl, early, late⟩ :=
          inductionHypothesis reached present
        exact ⟨event :: before, current, after, rfl, early, late⟩

/-- Precedence rule: a property arises from a cause or from a shortcut.  It is
preceded by a cause in every prefix of a run if and only if every shortcut of
the run is. -/
theorem preceded_iff
    {property : State → Prop}
    {cause shortcut : State → Event → Prop}
    {state : State}
    {events : List Event}
    (absent : ¬property state)
    (onset : ∀ before event after, events = before ++ event :: after →
      ¬property (run step state before) →
      property (step (run step state before) event) →
      cause (run step state before) event ∨ shortcut (run step state before) event)
    (arises : ∀ current event, shortcut current event →
      property (step current event) ∧ ¬cause current event) :
    (∀ before, before <+: events → property (run step state before) →
        Occurs step cause state before) ↔
      ∀ before event after, events = before ++ event :: after →
        shortcut (run step state before) event → Occurs step cause state before := by
  constructor
  · rintro preceded before event after rfl cut
    have reached : property (run step state (before ++ [event])) := by
      rw [run_concat]
      exact (arises _ event cut).1
    have caused := preceded (before ++ [event]) ⟨after, by simp⟩ reached
    rw [occurs_append] at caused
    rcases caused with early | late | never
    · exact early
    · exact absurd late (arises _ event cut).2
    · exact absurd never id
  · rintro preceded before ⟨rest, rfl⟩ present
    obtain ⟨first, event, after, rfl, early, late⟩ := exists_onset absent present
    rw [run_concat] at late
    rw [occurs_append]
    rcases onset first event (after ++ rest) (by simp) early late with caused | cut
    · exact .inr (.inl caused)
    · exact .inl (preceded first event (after ++ rest) (by simp) cut)

/-- Absence rule: a property that arises from a shortcut only never holds in a
run if and only if the run takes no shortcut. -/
theorem never_iff
    {property : State → Prop}
    {shortcut : State → Event → Prop}
    {state : State}
    {events : List Event}
    (absent : ¬property state)
    (onset : ∀ before event after, events = before ++ event :: after →
      ¬property (run step state before) →
      property (step (run step state before) event) →
      shortcut (run step state before) event)
    (arises : ∀ current event, ¬property current → shortcut current event →
      property (step current event)) :
    (∀ before, before <+: events → ¬property (run step state before)) ↔
      Along step (fun current event => ¬shortcut current event) state events := by
  constructor
  · intro never
    rw [along_iff_forall_split]
    rintro before event after rfl cut
    apply never (before ++ [event]) ⟨after, by simp⟩
    rw [run_concat]
    exact arises _ event (never before ⟨event :: after, rfl⟩) cut
  · rintro along before ⟨rest, rfl⟩ present
    obtain ⟨first, event, after, rfl, early, late⟩ := exists_onset absent present
    rw [run_concat] at late
    have cut := onset first event (after ++ rest) (by simp) early late
    exact along_iff_forall_split.mp along first event (after ++ rest) (by simp) cut

/-- Safety rule: where each step from a good state leads to a good state exactly
if it meets a condition, a run stays good exactly if all its steps meet it. -/
theorem always_iff
    {good : State → Prop}
    {condition : State → Event → Prop}
    (invariant : State → Prop)
    (preserved : ∀ state event, invariant state → invariant (step state event))
    (decides : ∀ state event, invariant state → good state →
      (good (step state event) ↔ condition state event))
    {state : State}
    {events : List Event}
    (initially : invariant state)
    (good_initially : good state) :
    (∀ before, before <+: events → good (run step state before)) ↔
      Along step condition state events := by
  induction events generalizing state with
  | nil =>
      simp only [List.prefix_nil, forall_eq, run_nil, along_nil, iff_true]
      exact good_initially
  | cons event events inductionHypothesis =>
      have next := decides state event initially good_initially
      constructor
      · intro always
        have good_next : good (step state event) :=
          always [event] ⟨events, rfl⟩
        refine ⟨next.mp good_next, ?_⟩
        refine (inductionHypothesis (preserved state event initially)
          good_next).mp ?_
        rintro before ⟨after, rfl⟩
        exact always (event :: before) ⟨after, rfl⟩
      · rintro ⟨meets, along⟩ before isPrefix
        cases before with
        | nil => exact good_initially
        | cons first before =>
            obtain ⟨after, split⟩ := isPrefix
            obtain ⟨rfl, rfl⟩ := List.cons.inj split
            exact (inductionHypothesis (preserved state first initially)
              (next.mpr meets)).mpr along before ⟨after, rfl⟩

end Lib
end OneDesk
