import OneDesk.Lib.Run
import OneDesk.Video.VideoQoS

/-!
# The frame rate over a run

Any sequence of operations keeps the frame rate in its range, and each
measurement leaves it below the caps of the users.  The only fault that a step
can note is a sum of delays that does not fit in 32 bits, and it notes it exactly
if it averages a window of delays with such a sum.
-/

namespace OneDesk
namespace Video

open OneDesk.Lib (Checked Along run)
open OneDesk.Lib.Checked (ensure forEach)

/-- The sum of a window of delays fits in 32 bits. -/
def Fits (delays : List UInt32) : Prop :=
  (delays.map UInt32.toNat).sum < 4294967296

/-- The frame rates that a user may ask for. -/
def InRange (fps : UInt32) : Prop :=
  minFps ≤ fps ∧ fps ≤ maxFps

/-- A quality whose ratio is not below the least one. -/
def Quality.Sound : Quality → Prop
  | .custom value => brMin ≤ value
  | _ => True

/-- What every user keeps. -/
structure UserData.Sound (user : UserData) : Prop where
  window : user.delay.delayHistory.length ≤ historyDelayLen + 1
  customFps : ∀ fps ∈ user.customFps, InRange fps
  autoAdjustFps : ∀ fps ∈ user.autoAdjustFps, InRange fps
  quality : ∀ quality ∈ user.quality, quality.2.Sound

/-- The frame rate that a user wants at most. -/
def UserData.cap (user : UserData) : UInt32 :=
  match user.autoAdjustFps with
  | some autoAdjustFps => min (user.customFps.getD defaultFps) autoAdjustFps
  | none => user.customFps.getD defaultFps

theorem clamp_bounds
    {low high : UInt32}
    (number : UInt32)
    (ordered : low ≤ high) :
    (clamp number low high).faults = [] ∧
      low ≤ (clamp number low high).value ∧ (clamp number low high).value ≤ high := by
  refine ⟨?_, ?_⟩
  · simpa [clamp] using ordered
  · simp only [clamp, Checked.value_ensure]
    grind

/-- Clamping does not lift a number that is above the lower bound. -/
theorem clamp_le
    {number low bound : UInt32}
    (high : UInt32)
    (number_le : number ≤ bound)
    (low_le : low ≤ bound) :
    (clamp number low high).value ≤ bound := by
  simp only [clamp, Checked.value_ensure]
  grind

theorem sumDelays_faults
    (delays : List UInt32) :
    (sumDelays delays).faults = [] ↔ Fits delays := by
  simp [sumDelays, Fits]

theorem divide_faults
    (number divisor : UInt32) :
    (divide number divisor).faults = [] ↔ divisor ≠ 0 := by
  simp [divide]

theorem divideFloat_faults
    (number divisor : Float32) :
    (divideFloat number divisor).faults = [] ↔ (divisor == 0.0) = false := by
  simp [divideFloat]

/-- An average notes a fault exactly if the sum of the window does not fit. -/
theorem avgDelay_faults
    {user : UserDelay}
    (window : user.delayHistory.length ≤ historyDelayLen + 1) :
    user.avgDelay.faults = [] ↔ Fits user.delayHistory := by
  unfold UserDelay.avgDelay
  by_cases some : user.delayHistory.length > 0
  · have count : UInt32.ofNat user.delayHistory.length ≠ 0 := by
      rw [historyDelayLen] at window
      have small : user.delayHistory.length < UInt32.size :=
        lt_of_le_of_lt window (by decide)
      rw [Ne, ← UInt32.toNat_inj, UInt32.toNat_ofNat_of_lt' small]
      exact some.ne'
    simp [some, sumDelays_faults, divide_faults, count]
  · have none : user.delayHistory = [] := List.eq_nil_of_length_eq_zero (by omega)
    simp [none, Fits]

theorem remembered_length
    {user : UserDelay}
    (window : user.delayHistory.length ≤ historyDelayLen + 1)
    (delay : UInt32) :
    (user.remembered delay).length ≤ historyDelayLen + 1 := by
  unfold UserDelay.remembered
  split_ifs with full
  · rw [List.length_append, List.length_tail, List.length_singleton]
    omega
  · rw [List.length_append, List.length_singleton]
    omega

theorem userFps_eq_cap
    {user : UserData}
    (sound : user.Sound) :
    userFps user = user.cap := by
  have custom : user.customFps.getD defaultFps ≠ 0 := by
    cases chosen : user.customFps with
    | none => decide
    | some fps =>
        have inRange := (sound.customFps fps chosen).1
        rw [minFps] at inRange
        simp only [Option.getD_some]
        grind
  unfold userFps UserData.cap
  cases user.autoAdjustFps with
  | none => rfl
  | some fps =>
      simp only [custom, false_or]
      change _ = if user.customFps.getD defaultFps ≤ fps then _ else _
      grind

theorem minFps_le_cap
    {user : UserData}
    (sound : user.Sound) :
    minFps ≤ user.cap := by
  have custom : minFps ≤ user.customFps.getD defaultFps := by
    cases chosen : user.customFps with
    | none => decide
    | some fps => exact (sound.customFps fps chosen).1
  unfold UserData.cap
  cases auto : user.autoAdjustFps with
  | none => exact custom
  | some fps =>
      exact Std.le_min_iff.mpr ⟨custom, (sound.autoAdjustFps fps auto).1⟩

/-- The least of some frame rates, or another one if there are none. -/
theorem min?_getD_le
    {list : List UInt32}
    {fps : UInt32}
    (member : fps ∈ list)
    (other : UInt32) :
    list.min?.getD other ≤ fps := by
  cases least : list.min? with
  | none => simp [List.min?_eq_none_iff.mp least] at member
  | some fps => exact (List.min?_eq_some_iff.mp least).2 _ member

namespace VideoQoS

variable {qos : VideoQoS}

theorem highestFps_inRange
    (qos : VideoQoS) :
    qos.highestFps.faults = [] ∧ InRange qos.highestFps.value := by
  unfold highestFps
  exact clamp_bounds _ (by decide)

/-- The highest frame rate is not above the cap of any user. -/
theorem highestFps_le_cap
    (sound : ∀ entry ∈ qos.users, entry.2.Sound)
    {entry : ℤ × UserData}
    (member : entry ∈ qos.users) :
    qos.highestFps.value ≤ entry.2.cap := by
  have minFps_le := minFps_le_cap (sound entry member)
  unfold highestFps
  apply clamp_le _ _ minFps_le
  apply min?_getD_le
  simp only [List.mem_filter, List.mem_map, decide_eq_true_eq]
  refine ⟨⟨entry, member, userFps_eq_cap (sound entry member)⟩, minFps_le⟩

theorem adjustFps_faults
    (now : ℕ) :
    (qos.adjustFps now).faults = [] := by
  have highest := highestFps_inRange qos
  have clamped := clamp_bounds (qos.calmFps now) highest.2.1
  simp [adjustFps, highest.1, clamped.1]

theorem adjustFps_value
    (now : ℕ) :
    (qos.adjustFps now).value =
      { qos with fps := (clamp (qos.calmFps now) minFps qos.highestFps.value).value } :=
  rfl

theorem adjustFps_inRange
    (now : ℕ) :
    InRange (qos.adjustFps now).value.fps := by
  have highest := highestFps_inRange qos
  have clamped := clamp_bounds (qos.calmFps now) highest.2.1
  rw [adjustFps_value]
  exact ⟨clamped.2.1, UInt32.le_trans clamped.2.2 highest.2.2⟩

theorem calmFps_le_of_responseDelayed
    {entry : ℤ × UserData}
    (member : entry ∈ qos.users)
    (delayed : entry.2.delay.responseDelayed = true)
    (now : ℕ) :
    qos.calmFps now ≤ minFps + 1 := by
  have anyDelayed : (qos.users.any fun entry => entry.2.delay.responseDelayed) = true :=
    List.any_eq_true.mpr ⟨entry, member, delayed⟩
  unfold calmFps
  simp only [anyDelayed, if_true, minFps, initFps]
  grind

theorem calmFps_le_initFps
    {now : ℕ}
    (young : elapsedSecs now qos.newUserInstant < 1) :
    qos.calmFps now ≤ initFps := by
  unfold calmFps
  simp only [young, if_true]
  grind

/-- A frame rate below the caps in force at an instant. -/
structure Calm (now : ℕ) (qos : VideoQoS) : Prop where
  users : ∀ entry ∈ qos.users, qos.fps ≤ entry.2.cap
  newUser : elapsedSecs now qos.newUserInstant < 1 → qos.fps ≤ initFps
  responseDelayed : ∀ entry ∈ qos.users,
    entry.2.delay.responseDelayed = true → qos.fps ≤ minFps + 1

/-- Adjusting the frame rate takes it below the caps. -/
theorem adjustFps_calm
    (sound : ∀ entry ∈ qos.users, entry.2.Sound)
    (now : ℕ) :
    Calm now (qos.adjustFps now).value where
  users := by
    intro entry member
    have highest := highestFps_le_cap sound member
    have clamped := clamp_bounds (qos.calmFps now) (highestFps_inRange qos).2.1
    exact UInt32.le_trans clamped.2.2 highest
  newUser young := clamp_le _ (calmFps_le_initFps young) (by decide)
  responseDelayed _ member delayed :=
    clamp_le _ (calmFps_le_of_responseDelayed member delayed now) (by decide)

theorem mem_latest
    {qualities : List (ℤ × Quality)}
    {quality : ℤ × Quality}
    (chosen : latest qualities = some quality) :
    quality ∈ qualities := by
  cases qualities with
  | nil => cases chosen
  | cons first rest =>
      obtain rfl := Option.some_inj.mp chosen
      clear chosen
      induction rest generalizing first with
      | nil => simp
      | cons next rest inductionHypothesis =>
          have member := inductionHypothesis (if first.1 > next.1 then first else next)
          rw [List.foldl_cons]
          split_ifs at member ⊢ <;> grind

theorem latestQuality_sound
    (sound : ∀ entry ∈ qos.users, entry.2.Sound)
    (iteration : Iteration) :
    (qos.latestQuality iteration).Sound := by
  unfold latestQuality
  split
  · rename_i quality chosen
    obtain ⟨entry, member, is_quality⟩ := List.mem_filterMap.mp (mem_latest chosen)
    have user := (iteration.perm qos.users).mem_iff.mp member
    exact (sound entry user).quality quality is_quality
  · trivial

theorem maxFloat_le
    {first second bound : Float32}
    (first_le : first ≤ bound)
    (second_le : second ≤ bound) :
    maxFloat first second ≤ bound := by
  unfold maxFloat
  split_ifs <;> assumption

theorem lowerTo_le
    {min bound : Float32}
    (min_le : min ≤ bound)
    (ratio1mbps : Option Float32) :
    lowerTo ratio1mbps min ≤ bound := by
  cases ratio1mbps with
  | none => exact min_le
  | some ratio =>
      unfold lowerTo
      dsimp only
      split_ifs with lower
      · exact Lib.Single.le_of_lt_of_le lower min_le
      · exact min_le

/-- The lower bound for the ratio of a sound quality is below the upper one. -/
theorem minRatio_le
    {quality : Quality}
    (sound : quality.Sound)
    (ratio1mbps : Option Float32) :
    (minRatio quality ratio1mbps).faults = [] ∧
      (minRatio quality ratio1mbps).value ≤ quality.ratio * maxBrMultiple := by
  cases quality with
  | best =>
      refine ⟨?_, maxFloat_le (lowerTo_le ?_ ratio1mbps) ?_⟩
      · simp only [minRatio, Checked.faults_bind, Checked.faults_pure, List.append_nil,
          divideFloat_faults]
        decide
      · decide
      · decide
  | balanced =>
      refine ⟨?_, maxFloat_le (lowerTo_le ?_ ratio1mbps) ?_⟩
      · simp only [minRatio, Checked.faults_bind, Checked.faults_pure, List.append_nil,
          divideFloat_faults]
        decide
      · decide
      · decide
  | low =>
      have above : brMinHighResolution ≤ brSpeed * maxBrMultiple := by decide
      exact ⟨rfl, above⟩
  | custom value =>
      have above : brMinHighResolution ≤ value :=
        Lib.Single.le_trans (by decide : brMinHighResolution ≤ brMin) sound
      exact ⟨rfl, (Lib.Single.le_mul_one_iff _ _).mpr above⟩

theorem perBitrate_faults
    (ratio : Float32) :
    (qos.perBitrate ratio).faults = [] := by
  unfold perBitrate
  split_ifs with positive
  · have notZero : qos.bitrateStore ≠ 0 := by grind
    simp only [Checked.faults_bind, Checked.faults_pure, List.append_nil, divideFloat_faults]
    exact Lib.Single.beq_zero_of_normal (Lib.Single.normal_toFloat32 notZero)
  · rfl

/-- Adjusting the ratio averages the delays of all users. -/
theorem adjustRatio_faults
    (sound : ∀ entry ∈ qos.users, entry.2.Sound)
    (iteration : Iteration)
    (now : ℕ)
    (dynamicScreen : Bool) :
    (qos.adjustRatio iteration now dynamicScreen).faults = [] ↔
      (qos.inVbrState = true → ∀ entry ∈ qos.users, Fits entry.2.delay.delayHistory) := by
  unfold adjustRatio
  by_cases vbr : qos.inVbrState = true
  · have averages : (forEach (fun entry => entry.2.delay.avgDelay) qos.users).faults = [] ↔
        ∀ entry ∈ qos.users, Fits entry.2.delay.delayHistory := by
      rw [Lib.Checked.faults_forEach_eq_nil]
      exact forall₂_congr fun entry member =>
        avgDelay_faults (sound entry member).window
    simp only [vbr, Bool.not_true, Bool.false_eq_true, if_false, Checked.faults_bind,
      List.append_eq_nil_iff, averages, forall_const, and_iff_left_iff_imp]
    intro fit
    split
    · rfl
    · have ordered := minRatio_le (latestQuality_sound sound iteration)
      simp [perBitrate_faults, clampFloat, ordered]
  · simp [vbr]

theorem adjustFps_adjustRatio_faults
    (sound : ∀ entry ∈ qos.users, entry.2.Sound)
    (iteration : Iteration)
    (now : ℕ)
    (dynamicScreen : Bool) :
    ((qos.adjustFps now).value.adjustRatio iteration now dynamicScreen).faults = [] ↔
      (qos.inVbrState = true → ∀ entry ∈ qos.users, Fits entry.2.delay.delayHistory) :=
  @adjustRatio_faults (qos.adjustFps now).value sound iteration now dynamicScreen

theorem inVbrState_countSends
    (name : String)
    (sendCounter : UInt64) :
    (qos.countSends name sendCounter).inVbrState = qos.inVbrState := by
  unfold inVbrState countSends
  congr 1
  rw [List.all_map]
  refine List.all_congr rfl fun entry => ?_
  dsimp only [Function.comp_apply]
  split_ifs <;> rfl

theorem inVbrState_resetSends :
    qos.resetSends.inVbrState = qos.inVbrState := by
  unfold inVbrState resetSends
  rw [List.all_map]
  rfl

theorem adjustRatio_value
    (iteration : Iteration)
    (now : ℕ)
    (dynamicScreen : Bool) :
    ∃ ratio adjustRatioInstant,
      (qos.adjustRatio iteration now dynamicScreen).value =
        { qos with ratio, adjustRatioInstant } := by
  unfold adjustRatio
  split_ifs
  · exact ⟨qos.ratio, qos.adjustRatioInstant, rfl⟩
  · rw [Checked.value_bind]
    dsimp only
    split
    · exact ⟨qos.ratio, qos.adjustRatioInstant, rfl⟩
    · exact ⟨_, now, rfl⟩

theorem Calm.adjustRatio
    {now : ℕ}
    (calm : Calm now qos)
    (iteration : Iteration)
    (instant : ℕ)
    (dynamicScreen : Bool) :
    Calm now (qos.adjustRatio iteration instant dynamicScreen).value := by
  obtain ⟨ratio, adjusted, value⟩ := qos.adjustRatio_value iteration instant dynamicScreen
  rw [value]
  exact ⟨calm.users, calm.newUser, calm.responseDelayed⟩

/-- Lowering the frame rate divides by a delay from the threshold on. -/
theorem lowerFps_faults
    {avgDelay : UInt32}
    (slow : ¬avgDelay < delayThreshold150ms)
    (fps minFps : UInt32) :
    (lowerFps fps minFps avgDelay).faults = [] := by
  have notZero : avgDelay ≠ 0 := by
    rw [delayThreshold150ms] at slow
    grind
  have threshold := @Lib.Single.normal_toFloat32 delayThreshold150ms (by decide)
  have delay := Lib.Single.normal_toFloat32 notZero
  have times := Lib.Single.normal_div delay threshold (by decide) (by decide)
  have first := Lib.Single.beq_zero_of_normal threshold
  have second := Lib.Single.beq_zero_of_normal times
  unfold lowerFps
  simp only [Checked.faults_bind, (divideFloat_faults _ _).mpr first, List.nil_append]
  have quotient : ∀ number, (divideFloat number
      (divideFloat avgDelay.toFloat32 delayThreshold150ms.toFloat32).value).faults = [] :=
    fun number => (divideFloat_faults _ _).mpr second
  rw [quotient, List.nil_append]
  have share : ∀ number, (divide number avgDelay).faults = [] :=
    fun number => (divide_faults _ _).mpr notZero
  split_ifs <;> simp [share]

theorem adaptFps_faults
    (user : UserDelay)
    (fps least normalFps avgDelay oldAvgDelay : UInt32) :
    (adaptFps user fps least normalFps avgDelay oldAvgDelay).faults = [] := by
  unfold adaptFps
  split_ifs with quick
  · rfl
  · simp [lowerFps_faults quick]

/-- A network delay averages the window of its user before and after it. -/
theorem delayedUser_faults
    (qos : VideoQoS)
    {user : UserDelay}
    (window : user.delayHistory.length ≤ historyDelayLen + 1)
    {highestFps : UInt32}
    (highest : minFps ≤ highestFps)
    (least normalFps delay : UInt32) :
    (qos.delayedUser highestFps least normalFps delay user).faults = [] ↔
      Fits user.delayHistory ∧ Fits (user.remembered (max delay 10)) := by
  have remembers := remembered_length window (max delay 10)
  have second : (user.addDelay (max delay 10)).avgDelay.faults = [] ↔
      Fits (user.remembered (max delay 10)) :=
    @avgDelay_faults (user.addDelay (max delay 10)) remembers
  have clamped : ∀ fps, (clamp fps minFps highestFps).faults = [] :=
    fun fps => (clamp_bounds fps highest).1
  simp [delayedUser, avgDelay_faults window, second, adaptFps_faults, clamped]

theorem delayHistory_delayedUser
    (qos : VideoQoS)
    (user : UserDelay)
    (highestFps least normalFps delay : UInt32) :
    (qos.delayedUser highestFps least normalFps delay user).value.delayHistory =
      user.remembered (max delay 10) :=
  rfl

/-- What a network delay leaves: it adjusts the frame rate, with the delay of the user if
there is one, and then perhaps the ratio. -/
theorem userNetworkDelay_cases
    (qos : VideoQoS)
    (iteration : Iteration)
    (linux : Bool)
    (now : ℕ)
    (id : ℤ)
    (delay : UInt32) :
    (qos.userNetworkDelay iteration linux now id delay).value = (qos.adjustFps now).value ∨
      ∃ user changed, qos.users.lookup id = some user ∧
        changed.delayHistory = user.delay.remembered (max delay 10) ∧
        ((qos.userNetworkDelay iteration linux now id delay).value =
            ((qos.setDelay id changed).adjustFps now).value ∨
          (qos.userNetworkDelay iteration linux now id delay).value =
            (((qos.setDelay id changed).adjustFps now).value.adjustRatio
              iteration now false).value) := by
  unfold userNetworkDelay
  rw [Checked.value_bind]
  generalize qos.highestFps.value = highestFps
  dsimp only
  generalize fpsLevels (qos.latestQuality iteration).ratio = levels
  split
  · exact .inl rfl
  · next user found =>
      rw [Checked.value_bind, Checked.value_bind]
      have remembers := qos.delayHistory_delayedUser user.delay highestFps levels.1 levels.2 delay
      generalize (qos.delayedUser highestFps levels.1 levels.2 delay user.delay).value = changed
        at remembers ⊢
      refine .inr ⟨user, changed, found, remembers, ?_⟩
      split_ifs
      · exact .inr rfl
      · exact .inl rfl

theorem clampFloat_ge
    {number low high : Float32}
    (isNumber : number.toModel.unpack ≠ .notANumber)
    (ordered : low ≤ high)
    (reflexive : low ≤ low) :
    low ≤ (clampFloat number low high).value := by
  have raised : low ≤ if number < low then low else number := by
    split_ifs with below
    · exact reflexive
    · exact Lib.Single.le_of_not_lt isNumber (Lib.Single.isNumber_of_le ordered).1 below
  simp only [clampFloat, Checked.value_ensure]
  generalize (if number < low then low else number) = value at raised
  split_ifs
  · exact ordered
  · exact raised

/-- Every quality that a client can ask for is sound. -/
theorem convertQuality_sound
    (imageQuality : Int32) :
    (convertQuality imageQuality).faults = [] ∧
      (convertQuality imageQuality).value.Sound := by
  have hundred : Lib.Single.Normal (-17) (-17) (100.0 : Float32).toModel.unpack :=
    ⟨by decide, by decide, by decide, by decide⟩
  have ordered : brMin ≤ brMax := by decide
  have reflexive : brMin ≤ brMin := by decide
  unfold convertQuality
  split_ifs
  · exact ⟨rfl, trivial⟩
  · exact ⟨rfl, trivial⟩
  · exact ⟨rfl, trivial⟩
  · generalize ((imageQuality >>> 8) &&& 0xFFF) * 2 = number
    have divisor := (divideFloat_faults (Lib.Single.ofInt32 number) 100.0).mpr (by decide)
    have isNumber :=
      Lib.Single.isNumber_div (Lib.Single.isNumber_ofInt32 number) hundred
    refine ⟨?_, clampFloat_ge isNumber ordered reflexive⟩
    simp [divisor, clampFloat, ordered]

end VideoQoS

theorem modifyUser_sound
    {users : List (ℤ × UserData)}
    (sound : ∀ entry ∈ users, entry.2.Sound)
    (id : ℤ)
    (change : UserData → UserData)
    (kept : ∀ entry ∈ users, (change entry.2).Sound) :
    ∀ entry ∈ modifyUser id change users, entry.2.Sound := by
  intro entry member
  obtain ⟨before, before_mem, rfl⟩ := List.mem_map.mp member
  split_ifs
  · exact kept before before_mem
  · exact sound before before_mem

theorem mem_of_lookup
    {users : List (ℤ × UserData)}
    {id : ℤ}
    {user : UserData}
    (found : users.lookup id = some user) :
    (id, user) ∈ users := by
  obtain ⟨before, after, rfl, -⟩ := List.lookup_eq_some_iff.mp found
  simp

/-- A user stays sound with a delay whose window is not too long. -/
theorem UserData.Sound.withDelay
    {user : UserData}
    (sound : user.Sound)
    {delay : UserDelay}
    (window : delay.delayHistory.length ≤ historyDelayLen + 1) :
    { user with delay }.Sound :=
  { sound with window }

theorem default_sound : UserData.default.Sound where
  window := by decide
  customFps := by simp [UserData.default]
  autoAdjustFps := by simp [UserData.default]
  quality := by simp [UserData.default]

theorem insertEntry_sound
    {users : List (ℤ × UserData)}
    (sound : ∀ entry ∈ users, entry.2.Sound)
    (id : ℤ) :
    ∀ entry ∈ insertEntry id .default users, entry.2.Sound := by
  intro entry member
  rcases List.mem_append.mp member with old | new
  · exact sound entry (List.mem_of_mem_filter old)
  · obtain rfl := List.mem_singleton.mp new
    exact default_sound

/-- An operation on the service, or the passing of time. -/
inductive Event
  | onConnectionOpen (id : ℤ) (enableAbr : String)
  | onConnectionClose (id : ℤ)
  | userCustomFps (id : ℤ) (fps : UInt32)
  | userAutoAdjustFps (id : ℤ) (fps : UInt32)
  | userImageQuality (id : ℤ) (imageQuality : Int32) (time : ℤ)
  | userRecord (id : ℤ) (value : Bool)
  | userNetworkDelay (id : ℤ) (delay : UInt32)
  | userDelayResponseElapsed (id : ℤ) (elapsed : ℕ)
  | newDisplay (name : String)
  | removeDisplay (name : String)
  | updateDisplayData (name : String) (sendCounter : UInt64)
  | setSupportChangingQuality (name : String) (support : Bool)
  | storeBitrate (bitrate : UInt32)
  | ratio
  | pass (nanoseconds : ℕ)

/-- Whether the frame rate is measured against the caps last of all. -/
def Event.measures : Event → Bool
  | .userNetworkDelay _ _ => true
  | .updateDisplayData _ _ => true
  | _ => false

/-- The quality of service over time. -/
structure Service where
  qos : VideoQoS
  now : ℕ
  /-- When users connected. -/
  opened : List ℕ
  /-- Whether the last event measured the frame rate. -/
  measured : Bool
  faults : List Fault

namespace Service

variable (iteration : Iteration) (linux : Bool) (service : Service)

/-- A service that starts at an instant. -/
def start (now : ℕ) : Service :=
  { qos := .default now, now, opened := [], measured := false, faults := [] }

/-- The operation of an event. -/
def perform : Event → Checked Fault VideoQoS
  | .onConnectionOpen id enableAbr =>
      return service.qos.onConnectionOpen service.now id enableAbr
  | .onConnectionClose id => return service.qos.onConnectionClose service.now id
  | .userCustomFps id fps => return service.qos.userCustomFps id fps
  | .userAutoAdjustFps id fps => return service.qos.userAutoAdjustFps id fps
  | .userImageQuality id imageQuality time =>
      service.qos.userImageQuality iteration id imageQuality time
  | .userRecord id value => return service.qos.userRecord id value
  | .userNetworkDelay id delay =>
      service.qos.userNetworkDelay iteration linux service.now id delay
  | .userDelayResponseElapsed id elapsed =>
      service.qos.userDelayResponseElapsed service.now id elapsed
  | .newDisplay name => return service.qos.newDisplay name
  | .removeDisplay name => return service.qos.removeDisplay name
  | .updateDisplayData name sendCounter =>
      service.qos.updateDisplayData iteration service.now name sendCounter
  | .setSupportChangingQuality name support =>
      return service.qos.setSupportChangingQuality name support
  | .storeBitrate bitrate => return service.qos.storeBitrate bitrate
  | .ratio => return service.qos.checkRatio
  | .pass _ => return service.qos

/-- One event. -/
def step (event : Event) : Service :=
  let performed := service.perform iteration linux event
  { qos := performed.value
    now := match event with
      | .pass nanoseconds => service.now + nanoseconds
      | _ => service.now
    opened := match event with
      | .onConnectionOpen _ _ => service.now :: service.opened
      | _ => service.opened
    measured := event.measures
    faults := service.faults ++ performed.faults }

/-- The frame rate is below every cap in force. -/
structure Capped : Prop where
  users : ∀ entry ∈ service.qos.users, service.qos.fps ≤ entry.2.cap
  newUser : ∀ instant ∈ service.opened, service.now - instant < 1000000000 →
    service.qos.fps ≤ initFps
  responseDelayed : ∀ entry ∈ service.qos.users,
    entry.2.delay.responseDelayed = true → service.qos.fps ≤ minFps + 1

/-- The frame rate is where it should be and nothing went wrong. -/
structure Good : Prop where
  inRange : InRange service.qos.fps
  capped : service.measured = true → service.Capped
  faultless : service.faults = []

/-- The windows of delays that an event averages. -/
def averaged : Event → List (List UInt32)
  | .userNetworkDelay id delay =>
      match service.qos.users.lookup id with
      | none => []
      | some user =>
          user.delay.delayHistory :: user.delay.remembered (max delay 10) ::
            if user.delay.fps.isNone ∧ !linux ∧ service.qos.inVbrState then
              (removeEntry id service.qos.users).map fun entry =>
                entry.2.delay.delayHistory
            else []
  | .updateDisplayData _ _ =>
      if service.qos.ratioIsDue service.now then
        service.qos.users.map fun entry => entry.2.delay.delayHistory
      else []
  | _ => []

/-- Every window of delays that an event averages has a sum that fits. -/
def SumsFit (event : Event) : Prop :=
  ∀ window ∈ service.averaged linux event, Fits window

/-- What every event keeps. -/
structure Sound : Prop where
  inRange : InRange service.qos.fps
  users : ∀ entry ∈ service.qos.users, entry.2.Sound
  opened : ∀ instant ∈ service.opened, instant ≤ service.qos.newUserInstant
  newUserInstant : service.qos.newUserInstant ≤ service.now

/-- What an operation keeps of a service. -/
structure Kept (qos : VideoQoS) : Prop where
  inRange : InRange qos.fps
  users : ∀ entry ∈ qos.users, entry.2.Sound
  newUserInstant :
    qos.newUserInstant = service.qos.newUserInstant ∨ qos.newUserInstant = service.now

variable {service}

theorem Sound.kept
    (sound : service.Sound) :
    service.Kept service.qos :=
  ⟨sound.inRange, sound.users, .inl rfl⟩

/-- Changing a user soundly keeps the service sound. -/
theorem Kept.modifyUser
    {qos : VideoQoS}
    (kept : service.Kept qos)
    (id : ℤ)
    (change : UserData → UserData)
    (sound : ∀ entry ∈ qos.users, (change entry.2).Sound) :
    service.Kept { qos with users := modifyUser id change qos.users } :=
  ⟨kept.inRange, modifyUser_sound kept.users id change sound, kept.newUserInstant⟩

theorem Kept.adjustFps
    {qos : VideoQoS}
    (kept : service.Kept qos)
    (now : ℕ) :
    service.Kept (qos.adjustFps now).value :=
  ⟨qos.adjustFps_inRange now, kept.users, kept.newUserInstant⟩

theorem Kept.adjustRatio
    {qos : VideoQoS}
    (kept : service.Kept qos)
    (now : ℕ)
    (dynamicScreen : Bool) :
    service.Kept (qos.adjustRatio iteration now dynamicScreen).value := by
  obtain ⟨ratio, instant, value⟩ := qos.adjustRatio_value iteration now dynamicScreen
  rw [value]
  exact ⟨kept.inRange, kept.users, kept.newUserInstant⟩

/-- The users stay sound when one of them gets a longer window. -/
theorem delayed_sound
    (sound : service.Sound)
    {id : ℤ}
    {user : UserData}
    (found : service.qos.users.lookup id = some user)
    (delay : UInt32)
    (changed : UserDelay)
    (remembers : changed.delayHistory = user.delay.remembered (max delay 10)) :
    ∀ entry ∈ (service.qos.setDelay id changed).users, entry.2.Sound := by
  have window := remembered_length (sound.users _ (mem_of_lookup found)).window
    (max delay 10)
  unfold VideoQoS.setDelay
  refine modifyUser_sound sound.users id (fun user => { user with delay := changed }) ?_
  intro entry member
  exact (sound.users entry member).withDelay (remembers ▸ window)

theorem kept_userNetworkDelay
    (sound : service.Sound)
    (id : ℤ)
    (delay : UInt32) :
    service.Kept
      (service.qos.userNetworkDelay iteration linux service.now id delay).value := by
  obtain same | ⟨user, changed, found, remembers, leaves⟩ :=
    service.qos.userNetworkDelay_cases iteration linux service.now id delay
  · rw [same]
    exact sound.kept.adjustFps service.now
  · have set : service.Kept (service.qos.setDelay id changed) :=
      ⟨sound.inRange, delayed_sound sound found delay changed remembers, .inl rfl⟩
    have adjusted := set.adjustFps service.now
    rcases leaves with same | same
    · rw [same]
      exact adjusted
    · rw [same]
      exact adjusted.adjustRatio iteration service.now false

theorem kept_userDelayResponseElapsed
    (sound : service.Sound)
    (id : ℤ)
    (elapsed : ℕ) :
    service.Kept
      (service.qos.userDelayResponseElapsed service.now id elapsed).value := by
  unfold VideoQoS.userDelayResponseElapsed
  split
  · exact sound.kept
  · dsimp only
    split_ifs with late
    · refine Kept.adjustFps (sound.kept.modifyUser id _ fun entry member => ?_) _
      exact (sound.users entry member).withDelay
        (remembered_length (sound.users entry member).window _)
    · refine sound.kept.modifyUser id _ fun entry member => ?_
      exact { sound.users entry member with }

theorem kept_updateDisplayData
    (sound : service.Sound)
    (name : String)
    (sendCounter : UInt64) :
    service.Kept
      (service.qos.updateDisplayData iteration service.now name sendCounter).value := by
  unfold VideoQoS.updateDisplayData
  have counted : service.Kept (service.qos.countSends name sendCounter) :=
    ⟨sound.inRange, sound.users, .inl rfl⟩
  have adjusted := counted.adjustFps service.now
  rw [Checked.value_bind]
  split_ifs
  · have reset :
        service.Kept ((service.qos.countSends name sendCounter).adjustFps
          service.now).value.resetSends :=
      ⟨adjusted.inRange, adjusted.users, adjusted.newUserInstant⟩
    exact reset.adjustRatio iteration service.now _
  · exact adjusted
  · exact ⟨adjusted.inRange, adjusted.users, adjusted.newUserInstant⟩

/-- Every operation keeps the service sound. -/
theorem perform_kept
    (sound : service.Sound)
    (event : Event) :
    service.Kept (service.perform iteration linux event).value := by
  have kept := sound.kept
  cases event with
  | onConnectionOpen id enableAbr =>
      exact ⟨sound.inRange, insertEntry_sound sound.users id, .inr rfl⟩
  | onConnectionClose id =>
      simp only [perform, Checked.value_pure, VideoQoS.onConnectionClose]
      split_ifs
      · have inRange : InRange defaultFps := by
          unfold InRange
          decide
        exact ⟨inRange, by simp [VideoQoS.default], .inr rfl⟩
      · exact ⟨sound.inRange,
          fun entry member => sound.users entry (List.mem_of_mem_filter member), .inl rfl⟩
  | userCustomFps id fps =>
      simp only [perform, Checked.value_pure, VideoQoS.userCustomFps]
      split_ifs with outside
      · exact kept
      · refine kept.modifyUser id _ fun entry member => ?_
        have inRange : InRange fps := by
          unfold InRange
          grind
        exact { sound.users entry member with customFps := by simpa using inRange }
  | userAutoAdjustFps id fps =>
      simp only [perform, Checked.value_pure, VideoQoS.userAutoAdjustFps]
      split_ifs with outside
      · exact kept
      · refine kept.modifyUser id _ fun entry member => ?_
        have inRange : InRange fps := by
          unfold InRange
          grind
        exact { sound.users entry member with autoAdjustFps := by simpa using inRange }
  | userImageQuality id imageQuality time =>
      simp only [perform, VideoQoS.userImageQuality, Checked.value_bind]
      split
      · exact kept
      · have chosen := (VideoQoS.convertQuality_sound imageQuality).2
        have changed := kept.modifyUser id
          (fun user =>
            { user with quality := some (time, (convertQuality imageQuality).value) })
          fun entry member => { sound.users entry member with quality := by simpa using chosen }
        exact ⟨changed.inRange, changed.users, changed.newUserInstant⟩
  | userRecord id value =>
      exact kept.modifyUser id _ fun entry member => { sound.users entry member with }
  | userNetworkDelay id delay => exact kept_userNetworkDelay iteration linux sound id delay
  | userDelayResponseElapsed id elapsed => exact kept_userDelayResponseElapsed sound id elapsed
  | newDisplay name => exact ⟨sound.inRange, sound.users, .inl rfl⟩
  | removeDisplay name => exact ⟨sound.inRange, sound.users, .inl rfl⟩
  | updateDisplayData name sendCounter =>
      exact kept_updateDisplayData iteration sound name sendCounter
  | setSupportChangingQuality name support => exact ⟨sound.inRange, sound.users, .inl rfl⟩
  | storeBitrate bitrate => exact ⟨sound.inRange, sound.users, .inl rfl⟩
  | ratio =>
      simp only [perform, Checked.value_pure, VideoQoS.checkRatio]
      split_ifs
      · exact ⟨sound.inRange, sound.users, .inl rfl⟩
      · exact kept
  | pass nanoseconds => exact kept

theorem step_sound
    (sound : service.Sound)
    (event : Event) :
    (service.step iteration linux event).Sound := by
  have kept := perform_kept iteration linux sound event
  have later : service.now ≤ (service.step iteration linux event).now := by
    cases event <;> simp [step]
  have instant : service.qos.newUserInstant ≤
      (service.step iteration linux event).qos.newUserInstant := by
    rcases kept.newUserInstant with same | now
    · exact same.ge
    · exact sound.newUserInstant.trans now.ge
  refine ⟨kept.inRange, kept.users, ?_, ?_⟩
  · intro time member
    cases event with
    | onConnectionOpen id enableAbr =>
        rcases List.mem_cons.mp member with rfl | earlier
        · exact le_rfl
        · exact (sound.opened time earlier).trans sound.newUserInstant
    | _ => exact (sound.opened time member).trans instant
  · rcases kept.newUserInstant with same | now
    · exact (same.le.trans sound.newUserInstant).trans later
    · exact now.le.trans later

/-- The windows of all users, one of which has got a new one. -/
theorem fits_setDelay
    {id : ℤ}
    {user : UserData}
    {qos : VideoQoS}
    (found : qos.users.lookup id = some user)
    (changed : UserDelay) :
    (∀ entry ∈ (qos.setDelay id changed).users, Fits entry.2.delay.delayHistory) ↔
      Fits changed.delayHistory ∧
        ∀ entry ∈ removeEntry id qos.users, Fits entry.2.delay.delayHistory := by
  have member := mem_of_lookup found
  simp only [VideoQoS.setDelay, modifyUser, removeEntry, List.forall_mem_map,
    List.mem_filter, decide_eq_true_eq]
  constructor
  · intro fit
    refine ⟨by simpa using fit _ member, fun entry other => ?_⟩
    simpa [other.2] using fit entry other.1
  · rintro ⟨fits, others⟩ entry user_mem
    by_cases same : entry.1 = id
    · simpa [same] using fits
    · simpa [same] using others entry ⟨user_mem, same⟩

theorem faults_userNetworkDelay
    (sound : service.Sound)
    (id : ℤ)
    (delay : UInt32) :
    (service.qos.userNetworkDelay iteration linux service.now id delay).faults = [] ↔
      service.SumsFit linux (.userNetworkDelay id delay) := by
  have highest := VideoQoS.highestFps_inRange service.qos
  unfold VideoQoS.userNetworkDelay SumsFit averaged
  simp only [Checked.faults_bind, highest.1, List.nil_append]
  cases found : service.qos.users.lookup id with
  | none => simp [VideoQoS.adjustFps_faults]
  | some user =>
      have window := (sound.users _ (mem_of_lookup found)).window
      generalize VideoQoS.fpsLevels (service.qos.latestQuality iteration).ratio = levels
      have averages :=
        service.qos.delayedUser_faults window highest.2.1 levels.1 levels.2 delay
      have remembers := service.qos.delayHistory_delayedUser user.delay
        service.qos.highestFps.value levels.1 levels.2 delay
      simp only [Checked.faults_bind, VideoQoS.adjustFps_faults, List.nil_append,
        List.append_eq_nil_iff, averages, List.forall_mem_cons]
      rw [and_assoc]
      refine and_congr_right fun _ => and_congr_right fun fits => ?_
      by_cases first : user.delay.fps.isNone ∧ !linux
      · have users := delayed_sound sound found delay _ remembers
        rw [if_pos first, VideoQoS.adjustFps_adjustRatio_faults users,
          fits_setDelay found, remembers]
        change (service.qos.inVbrState = true → _) ↔ _
        by_cases vbr : service.qos.inVbrState = true
        · rw [if_pos ⟨first.1, first.2, vbr⟩, List.forall_mem_map]
          simp [vbr, fits]
        · simp [vbr]
      · have notDue : ¬(user.delay.fps.isNone ∧ !linux ∧ service.qos.inVbrState) :=
          fun due => first ⟨due.1, due.2.1⟩
        rw [if_neg first, if_neg notDue]
        simp

theorem faults_updateDisplayData
    (sound : service.Sound)
    (name : String)
    (sendCounter : UInt64) :
    (service.qos.updateDisplayData iteration service.now name sendCounter).faults = [] ↔
      service.SumsFit linux (.updateDisplayData name sendCounter) := by
  have vbr : ((service.qos.countSends name sendCounter).adjustFps
      service.now).value.inVbrState = service.qos.inVbrState :=
    @VideoQoS.inVbrState_countSends service.qos name sendCounter
  have instant : ((service.qos.countSends name sendCounter).adjustFps
      service.now).value.adjustRatioInstant = service.qos.adjustRatioInstant := rfl
  unfold VideoQoS.updateDisplayData SumsFit
  dsimp only [averaged]
  rw [Checked.faults_bind, VideoQoS.adjustFps_faults, List.nil_append, vbr, instant]
  by_cases due : service.qos.ratioIsDue service.now = true
  · obtain ⟨isVbr, old⟩ := Bool.and_eq_true_iff.mp due
    have old := of_decide_eq_true old
    have reset := @VideoQoS.adjustRatio_faults
      ((service.qos.countSends name sendCounter).adjustFps service.now).value.resetSends
      sound.users iteration service.now
    rw [if_pos isVbr, if_pos old, if_pos due, List.forall_mem_map, reset,
      VideoQoS.inVbrState_resetSends, vbr]
    exact forall_prop_of_true isVbr
  · have notBoth : service.qos.inVbrState = true →
        ¬elapsedSecs service.now service.qos.adjustRatioInstant ≥ adjustRatioInterval :=
      fun isVbr old => due (Bool.and_eq_true_iff.mpr ⟨isVbr, decide_eq_true old⟩)
    rw [if_neg due]
    by_cases isVbr : service.qos.inVbrState = true
    · simp [isVbr, notBoth isVbr]
    · simp [isVbr]

/-- What an event averages decides whether it notes a fault. -/
theorem perform_faults
    (sound : service.Sound)
    (event : Event) :
    (service.perform iteration linux event).faults = [] ↔
      service.SumsFit linux event := by
  cases event with
  | userNetworkDelay id delay => exact faults_userNetworkDelay iteration linux sound id delay
  | updateDisplayData name sendCounter =>
      exact faults_updateDisplayData iteration linux sound name sendCounter
  | userImageQuality id imageQuality time =>
      have converted := (VideoQoS.convertQuality_sound imageQuality).1
      simp only [perform, VideoQoS.userImageQuality, Checked.faults_bind, converted,
        List.nil_append, SumsFit, averaged, List.not_mem_nil, false_implies, implies_true,
        iff_true]
      split <;> rfl
  | userDelayResponseElapsed id elapsed =>
      simp only [perform, VideoQoS.userDelayResponseElapsed, SumsFit, averaged,
        List.not_mem_nil, false_implies, implies_true, iff_true]
      split
      · rfl
      · split_ifs
        · exact VideoQoS.adjustFps_faults service.now
        · rfl
  | _ => simp [perform, SumsFit, averaged]

/-- An event that measures the frame rate leaves it below the caps. -/
theorem perform_calm
    (sound : service.Sound)
    (event : Event)
    (measures : event.measures = true) :
    (service.perform iteration linux event).value.Calm service.now := by
  cases event with
  | userNetworkDelay id delay =>
      change VideoQoS.Calm service.now
        (service.qos.userNetworkDelay iteration linux service.now id delay).value
      obtain same | ⟨user, changed, found, remembers, leaves⟩ :=
        service.qos.userNetworkDelay_cases iteration linux service.now id delay
      · rw [same]
        exact VideoQoS.adjustFps_calm sound.users service.now
      · have adjusted := VideoQoS.adjustFps_calm
          (delayed_sound sound found delay changed remembers) service.now
        rcases leaves with same | same
        · rw [same]
          exact adjusted
        · rw [same]
          exact adjusted.adjustRatio iteration service.now false
  | updateDisplayData name sendCounter =>
      have adjusted :=
        (service.qos.countSends name sendCounter).adjustFps_calm sound.users service.now
      simp only [perform, VideoQoS.updateDisplayData, Checked.value_bind]
      split_ifs
      · have reset : (((service.qos.countSends name sendCounter).adjustFps
            service.now).value.resetSends).Calm service.now :=
          ⟨adjusted.users, adjusted.newUser, adjusted.responseDelayed⟩
        exact reset.adjustRatio iteration service.now _
      · exact adjusted
      · exact ⟨adjusted.users, adjusted.newUser, adjusted.responseDelayed⟩
  | _ => cases measures

theorem step_capped
    (sound : service.Sound)
    (event : Event)
    (measures : event.measures = true) :
    (service.step iteration linux event).Capped := by
  have calm := perform_calm iteration linux sound event measures
  have next := step_sound iteration linux sound event
  have now_eq : (service.step iteration linux event).now = service.now := by
    cases event <;> first | rfl | cases measures
  refine ⟨calm.users, ?_, calm.responseDelayed⟩
  intro instant member young
  apply calm.newUser
  have earlier := next.opened instant member
  rw [now_eq] at young
  change instant ≤ (service.perform iteration linux event).value.newUserInstant at earlier
  unfold elapsedSecs
  omega

/-- From a good service, an event leads to a good one exactly if the windows it
averages fit. -/
theorem step_good_iff
    (sound : service.Sound)
    (good : service.Good)
    (event : Event) :
    (service.step iteration linux event).Good ↔ service.SumsFit linux event := by
  have faults_eq : (service.step iteration linux event).faults = [] ↔
      service.SumsFit linux event := by
    simp only [step, List.append_eq_nil_iff, good.faultless, true_and]
    exact perform_faults iteration linux sound event
  constructor
  · intro next
    exact faults_eq.mp next.faultless
  · intro fit
    exact ⟨(step_sound iteration linux sound event).inRange,
      step_capped iteration linux sound event, faults_eq.mpr fit⟩

theorem start_sound
    (now : ℕ) :
    (start now).Sound where
  inRange := by
    unfold InRange
    exact ⟨(by decide : minFps ≤ defaultFps), (by decide : defaultFps ≤ maxFps)⟩
  users := by simp [start, VideoQoS.default]
  opened := by simp [start]
  newUserInstant := le_rfl

theorem start_good
    (now : ℕ) :
    (start now).Good :=
  ⟨(start_sound now).inRange, fun measured => absurd measured (by simp [start]), rfl⟩

end Service

/-- The service stays good through a run exactly if every window of delays that a
step of the run averages has a sum that fits in 32 bits. -/
theorem frameRate_good_iff
    (iteration : Iteration)
    (linux : Bool)
    (now : ℕ)
    (events : List Event) :
    (∀ before, before <+: events →
      (run (Service.step iteration linux) (Service.start now) before).Good) ↔
      Along (Service.step iteration linux)
        (fun service event => service.SumsFit linux event) (Service.start now) events :=
  Lib.always_iff Service.Sound
    (fun _ event sound => Service.step_sound iteration linux sound event)
    (fun _ event sound good => Service.step_good_iff iteration linux sound good event)
    (Service.start_sound now) (Service.start_good now)

/-- Two delays of the greatest length overflow the sum of the window. -/
theorem long_delays_overflow :
    ¬(run (Service.step .inOrder true) (Service.start 0)
      [.onConnectionOpen 1 "", .userNetworkDelay 1 4294967295,
        .userNetworkDelay 1 4294967295]).Good := by
  intro good
  have faulty : (run (Service.step .inOrder true) (Service.start 0)
      [.onConnectionOpen 1 "", .userNetworkDelay 1 4294967295,
        .userNetworkDelay 1 4294967295]).faults = [.delaySum] := by
    decide
  rw [good.faultless] at faulty
  cases faulty

end Video
end OneDesk
