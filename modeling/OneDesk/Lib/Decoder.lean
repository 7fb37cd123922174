import Mathlib.Data.List.Basic

/-!
# Resumable decoders

A decoder is handed a growing buffer and asked for frames until it waits for more
input or fails.  Its state may remember part of a frame between two calls.  When
more input never changes an answer already given, what comes out of a stream does
not depend on how the stream was cut.
-/

namespace OneDesk
namespace Lib

variable {State Symbol Frame Failure : Type}

/-- One call of a decoder: its answer, its next state and what is left of the
buffer.  Every frame makes the rest smaller, so asking for frames ends. -/
structure Decoder (State Symbol Frame Failure : Type) where
  decode : State → List Symbol →
    Except Failure (Option Frame) × State × List Symbol
  size : State → List Symbol → Nat
  size_lt : ∀ {state buffer frame next rest},
    decode state buffer = (.ok (some frame), next, rest) →
      size next rest < size state buffer

namespace Decoder

variable (decoder : Decoder State Symbol Frame Failure)

/-- Where asking for frames stopped: at a failure, or waiting in a state over a
buffer. -/
abbrev Outcome (State Symbol Failure : Type) :=
  Except Failure (State × List Symbol)

/-- Ask for frames until the decoder waits or fails. -/
def drain
    (state : State)
    (buffer : List Symbol) :
    List Frame × Outcome State Symbol Failure :=
  match _answer : decoder.decode state buffer with
  | (.ok (some frame), next, rest) =>
      (frame :: (drain next rest).1, (drain next rest).2)
  | (.ok none, next, rest) => ([], .ok (next, rest))
  | (.error failure, _, _) => ([], .error failure)
termination_by decoder.size state buffer
decreasing_by all_goals exact decoder.size_lt _answer

/-- Append each chunk to the buffer and drain it, until a failure. -/
def feed
    (state : State)
    (buffer : List Symbol) :
    List (List Symbol) → List Frame × Outcome State Symbol Failure
  | [] => ([], .ok (state, buffer))
  | chunk :: chunks =>
      match decoder.drain state (buffer ++ chunk) with
      | (frames, .ok (next, rest)) =>
          (frames ++ (feed next rest chunks).1, (feed next rest chunks).2)
      | (frames, .error failure) => (frames, .error failure)

/-- More input never changes an answer: frames and failures stay, and a decoder
that waited goes on from where it waited. -/
structure Resumable (valid : State → Prop) : Prop where
  valid_next : ∀ {state} buffer,
    valid state → valid (decoder.decode state buffer).2.1
  frame_append : ∀ {state buffer frame next rest} more,
    valid state →
    decoder.decode state buffer = (.ok (some frame), next, rest) →
      decoder.decode state (buffer ++ more) =
        (.ok (some frame), next, rest ++ more)
  error_append : ∀ {state buffer failure} more,
    valid state →
    (decoder.decode state buffer).1 = .error failure →
      (decoder.decode state (buffer ++ more)).1 = .error failure
  wait_append : ∀ {state buffer next rest} more,
    valid state →
    decoder.decode state buffer = (.ok none, next, rest) →
      decoder.decode state (buffer ++ more) = decoder.decode next (rest ++ more)

variable {decoder}
variable {state next : State}
variable {buffer rest : List Symbol}

theorem drain_of_frame
    {frame : Frame}
    (answer : decoder.decode state buffer = (.ok (some frame), next, rest)) :
    decoder.drain state buffer =
      (frame :: (decoder.drain next rest).1, (decoder.drain next rest).2) := by
  conv =>
    lhs
    unfold drain
  split
  · next other =>
      rw [answer] at other
      cases other
      rfl
  · next other =>
      rw [answer] at other
      cases other
  · next other =>
      rw [answer] at other
      cases other

theorem drain_of_wait
    (answer : decoder.decode state buffer = (.ok none, next, rest)) :
    decoder.drain state buffer = ([], .ok (next, rest)) := by
  unfold drain
  split
  · next other =>
      rw [answer] at other
      cases other
  · next other =>
      rw [answer] at other
      cases other
      rfl
  · next other =>
      rw [answer] at other
      cases other

theorem drain_of_error
    {failure : Failure}
    (answer : (decoder.decode state buffer).1 = .error failure) :
    decoder.drain state buffer = ([], .error failure) := by
  unfold drain
  split
  · next other =>
      rw [other] at answer
      cases answer
  · next other =>
      rw [other] at answer
      cases answer
  · next other =>
      rw [other] at answer
      cases answer
      rfl

/-- Induction along the frames a decoder gives. -/
theorem drain_induction
    {motive : State → List Symbol → Prop}
    (frame : ∀ state buffer frame next rest,
      decoder.decode state buffer = (.ok (some frame), next, rest) →
        motive next rest → motive state buffer)
    (wait : ∀ state buffer next rest,
      decoder.decode state buffer = (.ok none, next, rest) →
        motive state buffer)
    (error : ∀ state buffer failure,
      (decoder.decode state buffer).1 = .error failure →
        motive state buffer)
    (state : State)
    (buffer : List Symbol) :
    motive state buffer := by
  match answer : decoder.decode state buffer with
  | (.ok (some item), next, rest) =>
      exact frame state buffer item next rest answer
        (drain_induction frame wait error next rest)
  | (.ok none, next, rest) => exact wait state buffer next rest answer
  | (.error failure, next, rest) =>
      exact error state buffer failure (by rw [answer])
termination_by decoder.size state buffer
decreasing_by all_goals exact decoder.size_lt answer

section Resumable

variable {valid : State → Prop}

/-- A drained decoder that waits has nothing to give before more input. -/
theorem Resumable.settled
    (resumable : decoder.Resumable valid) :
    ∀ state buffer, valid state → ∀ next rest,
      (decoder.drain state buffer).2 = .ok (next, rest) →
        valid next ∧ decoder.drain next rest = ([], .ok (next, rest)) := by
  apply drain_induction
  · intro state buffer frame following remaining answer inductionHypothesis
      validState next rest waits
    rw [drain_of_frame answer] at waits
    have validFollowing := resumable.valid_next buffer validState
    rw [answer] at validFollowing
    exact inductionHypothesis validFollowing next rest waits
  · intro state buffer following remaining answer validState next rest waits
    rw [drain_of_wait answer] at waits
    cases waits
    have validNext := resumable.valid_next buffer validState
    rw [answer] at validNext
    have again := resumable.wait_append [] validState answer
    rw [List.append_nil, List.append_nil, answer] at again
    exact ⟨validNext, drain_of_wait again.symm⟩
  · intro state buffer failure answer validState next rest waits
    rw [drain_of_error answer] at waits
    cases waits

/-- Draining a longer buffer is draining its first part and going on from there. -/
theorem Resumable.drain_append
    (resumable : decoder.Resumable valid)
    (more : List Symbol) :
    ∀ state buffer, valid state →
      decoder.drain state (buffer ++ more) =
        match decoder.drain state buffer with
        | (frames, .ok (next, rest)) =>
            (frames ++ (decoder.drain next (rest ++ more)).1,
              (decoder.drain next (rest ++ more)).2)
        | (frames, .error failure) => (frames, .error failure) := by
  apply drain_induction
  · intro state buffer frame next rest answer inductionHypothesis validState
    have validNext := resumable.valid_next buffer validState
    rw [answer] at validNext
    rw [drain_of_frame (resumable.frame_append more validState answer),
      drain_of_frame answer, inductionHypothesis validNext]
    rcases decoder.drain next rest with ⟨frames, failure | ⟨following, remaining⟩⟩
    · rfl
    · rfl
  · intro state buffer next rest answer validState
    rw [drain_of_wait answer]
    have goesOn := resumable.wait_append more validState answer
    unfold drain
    rw [goesOn]
    rfl
  · intro state buffer failure answer validState
    rw [drain_of_error answer,
      drain_of_error (resumable.error_append more validState answer)]

/-- However a stream is cut, feeding the pieces is draining the whole. -/
theorem Resumable.feed_eq_drain
    (resumable : decoder.Resumable valid)
    (chunks : List (List Symbol))
    (state : State)
    (buffer : List Symbol)
    (validState : valid state)
    (settled : decoder.drain state buffer = ([], .ok (state, buffer))) :
    decoder.feed state buffer chunks =
      decoder.drain state (buffer ++ chunks.flatten) := by
  induction chunks generalizing state buffer with
  | nil =>
      rw [List.flatten_nil, List.append_nil, settled]
      rfl
  | cons chunk chunks inductionHypothesis =>
      rw [List.flatten_cons, ← List.append_assoc,
        resumable.drain_append chunks.flatten state (buffer ++ chunk) validState]
      unfold feed
      have waiting := resumable.settled state (buffer ++ chunk) validState
      rcases drained : decoder.drain state (buffer ++ chunk) with
        ⟨frames, failure | ⟨next, rest⟩⟩
      · rfl
      · obtain ⟨validNext, settledNext⟩ :=
          waiting next rest (congrArg Prod.snd drained)
        simp only
        rw [inductionHypothesis next rest validNext settledNext]

/-- What holds of every failure of one call holds of every failure of a drain. -/
theorem Resumable.drain_error
    (resumable : decoder.Resumable valid)
    (expected : Failure → Prop)
    (fails : ∀ state buffer failure,
      valid state →
      (decoder.decode state buffer).1 = .error failure → expected failure) :
    ∀ state buffer, valid state → ∀ failure,
      (decoder.drain state buffer).2 = .error failure → expected failure := by
  apply drain_induction
  · intro state buffer frame next rest answer inductionHypothesis validState
      failure failed
    have validNext := resumable.valid_next buffer validState
    rw [answer] at validNext
    rw [drain_of_frame answer] at failed
    exact inductionHypothesis validNext failure failed
  · intro state buffer next rest answer validState failure failed
    rw [drain_of_wait answer] at failed
    cases failed
  · intro state buffer failure answer validState other failed
    rw [drain_of_error answer] at failed
    cases failed
    exact fails state buffer failure validState answer

end Resumable

end Decoder

end Lib
end OneDesk
