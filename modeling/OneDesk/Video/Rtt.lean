import OneDesk.Lib.Window
import OneDesk.Video.VideoQoS
import Mathlib.Data.Rat.Floor

/-!
# Round trip times

What `RttCalculator` keeps of the delays it was given.  The smoothed time is an average of two
minima; here the average is a parameter, and then the one over the rationals.
-/

namespace OneDesk
namespace Video
namespace RttCalculator

open OneDesk.Lib

/-- `RttCalculator::update`, with the way two times are averaged. -/
def updateWith
    (average : UInt32 → UInt32 → UInt32)
    (calculator : RttCalculator)
    (delay : UInt32) : RttCalculator :=
  let minRtt := match calculator.minRtt with
    | some minRtt => if delay < minRtt then some delay else some minRtt
    | none => some delay
  let kept :=
    if calculator.samples.length ≥ windowSamples then calculator.samples.tail
    else calculator.samples
  let samples := kept ++ [delay]
  let windowMinRtt := samples.min?
  let smoothedRtt :=
    if samples.length ≥ windowSamples then
      match minRtt, windowMinRtt with
      | some min, some windowMin => some (average min windowMin)
      | _, _ => calculator.smoothedRtt
    else calculator.smoothedRtt
  { minRtt, windowMinRtt, smoothedRtt, samples }

/-- `update` averages numbers of type `f32`. -/
theorem update_eq_updateWith :
    update = updateWith fun min windowMin =>
      ((1.0 - alpha) * min.toFloat32 + alpha * windowMin.toFloat32).toUInt32 := rfl

/-- The weighted average over the rationals, without its fraction. -/
def exactAverage (min windowMin : UInt32) : UInt32 :=
  UInt32.ofNat ⌊(1 - 1 / 2) * (min.toNat : ℚ) + 1 / 2 * windowMin.toNat⌋₊

/-- An average of two times lies between them. -/
def Between (average : UInt32 → UInt32 → UInt32) : Prop :=
  ∀ min windowMin, min ≤ windowMin →
    min ≤ average min windowMin ∧ average min windowMin ≤ windowMin

/-- What is kept of some delays. -/
structure Keeps (delays : List UInt32) (calculator : RttCalculator) : Prop where
  samples : calculator.samples = delays.rtake windowSamples
  minRtt : calculator.minRtt = delays.min?
  windowMinRtt : calculator.windowMinRtt = calculator.samples.min?
  ordered : ∀ least leastOfWindow, calculator.minRtt = some least →
    calculator.windowMinRtt = some leastOfWindow → least ≤ leastOfWindow
  unknown : calculator.getRtt = none ↔ calculator.samples.length < minSamples
  /-- The estimate was computed with what is kept now. -/
  estimate : ∀ rtt, calculator.getRtt = some rtt →
    ∃ least leastOfWindow, calculator.minRtt = some least ∧
      calculator.windowMinRtt = some leastOfWindow ∧ least ≤ rtt ∧ rtt ≤ leastOfWindow

theorem exactAverage_between : Between exactAverage := by
  intro min windowMin atMost
  have less : (min.toNat : ℚ) ≤ windowMin.toNat :=
    Nat.cast_le.mpr (UInt32.le_iff_toNat_le.mp atMost)
  have low : min.toNat ≤ ⌊(1 - 1 / 2) * (min.toNat : ℚ) + 1 / 2 * windowMin.toNat⌋₊ := by
    apply Nat.le_floor
    linarith
  have high : ⌊(1 - 1 / 2) * (min.toNat : ℚ) + 1 / 2 * windowMin.toNat⌋₊ ≤ windowMin.toNat := by
    apply Nat.floor_le_of_le
    linarith
  have fits := high.trans_lt windowMin.toNat_lt
  have number : (exactAverage min windowMin).toNat =
      ⌊(1 - 1 / 2) * (min.toNat : ℚ) + 1 / 2 * windowMin.toNat⌋₊ :=
    UInt32.toNat_ofNat_of_lt' fits
  rw [UInt32.le_iff_toNat_le, UInt32.le_iff_toNat_le, number]
  exact ⟨low, high⟩

theorem minRtt_updateWith
    (average : UInt32 → UInt32 → UInt32)
    (calculator : RttCalculator)
    (delay : UInt32) :
    (updateWith average calculator delay).minRtt = lower calculator.minRtt delay := by
  unfold updateWith lower
  cases calculator.minRtt with
  | none => rfl
  | some least => rfl

theorem smoothedRtt_updateWith
    (average : UInt32 → UInt32 → UInt32)
    (calculator : RttCalculator)
    (delay : UInt32) :
    (updateWith average calculator delay).smoothedRtt =
      if (updateWith average calculator delay).samples.length ≥ windowSamples then
        match (updateWith average calculator delay).minRtt,
          (updateWith average calculator delay).windowMinRtt with
        | some least, some leastOfWindow => some (average least leastOfWindow)
        | _, _ => calculator.smoothedRtt
      else calculator.smoothedRtt := rfl

theorem isSome_minRtt_updateWith
    (average : UInt32 → UInt32 → UInt32)
    (calculator : RttCalculator)
    (delay : UInt32) :
    (updateWith average calculator delay).minRtt.isSome = true := by
  rw [minRtt_updateWith]
  unfold lower
  split
  · split <;> rfl
  · rfl

theorem isSome_windowMinRtt_updateWith
    (average : UInt32 → UInt32 → UInt32)
    (calculator : RttCalculator)
    (delay : UInt32) :
    (updateWith average calculator delay).windowMinRtt.isSome = true := by
  change (List.min? (_ ++ [delay])).isSome = true
  rw [List.isSome_min?_iff]
  simp

/-- The estimate is the smoothed time of a full window, and else the least delay. -/
theorem getRtt_of_smoothed
    {average : UInt32 → UInt32 → UInt32}
    {calculator : RttCalculator}
    (between : Between average)
    (ordered : ∀ least leastOfWindow, calculator.minRtt = some least →
      calculator.windowMinRtt = some leastOfWindow → least ≤ leastOfWindow)
    (minima : calculator.samples ≠ [] → ∃ least leastOfWindow,
      calculator.minRtt = some least ∧ calculator.windowMinRtt = some leastOfWindow)
    (smoothed : calculator.smoothedRtt =
      if windowSamples ≤ calculator.samples.length then
        calculator.minRtt.bind fun least => calculator.windowMinRtt.map (average least)
      else none) :
    (calculator.getRtt = none ↔ calculator.samples.length < minSamples) ∧
      ∀ rtt, calculator.getRtt = some rtt →
        ∃ least leastOfWindow, calculator.minRtt = some least ∧
          calculator.windowMinRtt = some leastOfWindow ∧ least ≤ rtt ∧ rtt ≤ leastOfWindow := by
  by_cases enough : minSamples ≤ calculator.samples.length
  · obtain ⟨least, leastOfWindow, isLeast, isLeastOfWindow⟩ :=
      minima (List.ne_nil_of_length_pos (Nat.lt_of_lt_of_le (by decide) enough))
    have atMost := ordered least leastOfWindow isLeast isLeastOfWindow
    have given : ∃ rtt, calculator.getRtt = some rtt ∧ least ≤ rtt ∧ rtt ≤ leastOfWindow := by
      rw [isLeast, isLeastOfWindow, Option.bind_some, Option.map_some] at smoothed
      unfold getRtt
      split at smoothed
      · rw [smoothed]
        exact ⟨_, rfl, between least leastOfWindow atMost⟩
      · rw [smoothed]
        dsimp only
        rw [if_pos enough]
        exact ⟨least, isLeast, Std.le_refl least, atMost⟩
    obtain ⟨rtt, isRtt, low, high⟩ := given
    refine ⟨?_, fun other isOther => ?_⟩
    · rw [isRtt]
      exact iff_of_false (Option.some_ne_none rtt) (Nat.not_lt.mpr enough)
    · obtain rfl := Option.some.inj (isRtt.symm.trans isOther)
      exact ⟨least, leastOfWindow, isLeast, isLeastOfWindow, low, high⟩
  · have none_ : calculator.getRtt = none := by
      have notFull : ¬windowSamples ≤ calculator.samples.length := fun full =>
        enough (Nat.le_trans (by decide) full)
      rw [if_neg notFull] at smoothed
      unfold getRtt
      rw [smoothed]
      dsimp only
      rw [if_neg enough]
    rw [none_]
    refine ⟨iff_of_true rfl (Nat.not_le.mp enough), ?_⟩
    intro rtt given
    cases given

section Run

variable (average : UInt32 → UInt32 → UInt32) (delays : List UInt32)

theorem samples_run :
    (delays.foldl (updateWith average) default).samples = delays.rtake windowSamples := by
  rw [← foldl_slide (by decide)]
  exact (List.foldl_hom samples fun _ _ => rfl).symm

theorem minRtt_run : (delays.foldl (updateWith average) default).minRtt = delays.min? := by
  rw [← foldl_lower]
  exact (List.foldl_hom minRtt fun calculator delay =>
    (minRtt_updateWith average calculator delay).symm).symm

theorem windowMinRtt_run :
    (delays.foldl (updateWith average) default).windowMinRtt =
      (delays.foldl (updateWith average) default).samples.min? := by
  cases delays using List.reverseRecOn with
  | nil => rfl
  | append_singleton delays delay => rw [List.foldl_concat]; rfl

/-- Once the window is full, every update computes the smoothed time anew. -/
theorem smoothedRtt_run :
    (delays.foldl (updateWith average) default).smoothedRtt =
      if windowSamples ≤ (delays.foldl (updateWith average) default).samples.length then
        (delays.foldl (updateWith average) default).minRtt.bind fun least =>
          (delays.foldl (updateWith average) default).windowMinRtt.map (average least)
      else none := by
  induction delays using List.reverseRecOn with
  | nil => rfl
  | append_singleton delays delay inductionHypothesis =>
      rw [List.foldl_concat]
      generalize delays.foldl (updateWith average) default = calculator at *
      rw [smoothedRtt_updateWith]
      split
      next full =>
        obtain ⟨least, isLeast⟩ := Option.isSome_iff_exists.mp
          (isSome_minRtt_updateWith average calculator delay)
        obtain ⟨leastOfWindow, isLeastOfWindow⟩ := Option.isSome_iff_exists.mp
          (isSome_windowMinRtt_updateWith average calculator delay)
        rw [isLeast, isLeastOfWindow]
        rfl
      next few =>
        have before : calculator.samples.length ≤
            (updateWith average calculator delay).samples.length :=
          length_le_slide windowSamples calculator.samples delay
        rw [inductionHypothesis, if_neg fun full => few (full.trans before)]

end Run

/-- What is kept of any delays, however two times are averaged, as long as the average lies
between them. -/
theorem keeps_run
    {average : UInt32 → UInt32 → UInt32}
    (between : Between average)
    (delays : List UInt32) :
    Keeps delays (delays.foldl (updateWith average) default) := by
  have isSamples := samples_run average delays
  have isMin := minRtt_run average delays
  have isWindowMin := windowMinRtt_run average delays
  have smoothed := smoothedRtt_run average delays
  have ordered : ∀ least leastOfWindow,
      (delays.foldl (updateWith average) default).minRtt = some least →
      (delays.foldl (updateWith average) default).windowMinRtt = some leastOfWindow →
      least ≤ leastOfWindow := by
    intro least leastOfWindow isLeast isLeastOfWindow
    refine min?_le_of_subset (isMin.symm.trans isLeast) (isWindowMin.symm.trans isLeastOfWindow) ?_
    rw [isSamples]
    exact List.drop_subset _ _
  have minima : (delays.foldl (updateWith average) default).samples ≠ [] →
      ∃ least leastOfWindow,
        (delays.foldl (updateWith average) default).minRtt = some least ∧
        (delays.foldl (updateWith average) default).windowMinRtt = some leastOfWindow := by
    intro someSamples
    have someDelays : delays ≠ [] := by
      rintro rfl
      exact someSamples rfl
    rw [isMin, isWindowMin]
    obtain ⟨least, isLeast⟩ := Option.isSome_iff_exists.mp (List.isSome_min?_iff.mpr someDelays)
    obtain ⟨leastOfWindow, isLeastOfWindow⟩ :=
      Option.isSome_iff_exists.mp (List.isSome_min?_iff.mpr someSamples)
    exact ⟨least, leastOfWindow, isLeast, isLeastOfWindow⟩
  generalize delays.foldl (updateWith average) default = calculator at *
  obtain ⟨unknown, estimate⟩ := getRtt_of_smoothed between ordered minima smoothed
  exact ⟨isSamples, isMin, isWindowMin, ordered, unknown, estimate⟩

/-- What the calculator keeps of any delays, with averages over the rationals. -/
theorem rttCalculator_keeps (delays : List UInt32) :
    Keeps delays (delays.foldl (updateWith exactAverage) default) :=
  keeps_run exactAverage_between delays

end RttCalculator
end Video
end OneDesk
