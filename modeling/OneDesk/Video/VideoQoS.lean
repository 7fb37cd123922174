import OneDesk.Lib.Checked
import OneDesk.Lib.Single

/-!
# Quality of service

The frame rate and the bitrate ratio of the video service, adjusted by what the
connected users ask for and by the delays of their networks.  Sums, divisions
and clamps are checked: they note a fault where the operation has no answer.
Additions to counters and to the frame rate wrap around.
-/

namespace OneDesk
namespace Video

open OneDesk.Lib (Checked)
open OneDesk.Lib.Checked (ensure forEach)

/-- What a step can get wrong. -/
inductive Fault
  /-- A sum of delays does not fit in 32 bits. -/
  | delaySum
  | divisionByZero
  /-- The lower bound of a clamp is not below the upper one. -/
  | crossedClamp
  deriving DecidableEq

/-- `FPS` -/
def defaultFps : UInt32 := 30

/-- `MIN_FPS` -/
def minFps : UInt32 := 1

/-- `MAX_FPS` -/
def maxFps : UInt32 := 120

/-- `INIT_FPS` -/
def initFps : UInt32 := 15

/-- `BR_MAX` -/
def brMax : Float32 := 40.0

/-- `BR_MIN` -/
def brMin : Float32 := 0.2

/-- `BR_MIN_HIGH_RESOLUTION` -/
def brMinHighResolution : Float32 := 0.1

/-- `MAX_BR_MULTIPLE` -/
def maxBrMultiple : Float32 := 1.0

/-- `BR_BEST` -/
def brBest : Float32 := 1.5

/-- `BR_BALANCED` -/
def brBalanced : Float32 := 0.67

/-- `BR_SPEED` -/
def brSpeed : Float32 := 0.5

/-- `HISTORY_DELAY_LEN` -/
def historyDelayLen : ℕ := 2

/-- `ADJUST_RATIO_INTERVAL` -/
def adjustRatioInterval : ℕ := 3

/-- `DYNAMIC_SCREEN_THRESHOLD` -/
def dynamicScreenThreshold : ℕ := 2

/-- `DELAY_THRESHOLD_150MS` -/
def delayThreshold150ms : UInt32 := 150

/-- Sum of delays. -/
def sumDelays (delays : List UInt32) : Checked Fault UInt32 :=
  ensure ((delays.map UInt32.toNat).sum < 4294967296) .delaySum delays.sum

/-- Integer division. -/
def divide (number divisor : UInt32) : Checked Fault UInt32 :=
  ensure (divisor ≠ 0) .divisionByZero (number / divisor)

/-- Division of numbers of type `f32`. -/
def divideFloat (number divisor : Float32) : Checked Fault Float32 :=
  ensure ((divisor == 0.0) = false) .divisionByZero (number / divisor)

/-- `Ord::clamp` -/
def clamp (number low high : UInt32) : Checked Fault UInt32 :=
  ensure (low ≤ high) .crossedClamp
    (if number < low then low else if number > high then high else number)

/-- `f32::clamp` -/
def clampFloat (number low high : Float32) : Checked Fault Float32 :=
  let raised := if number < low then low else number
  ensure (low ≤ high) .crossedClamp (if raised > high then high else raised)

/-- `f32::max`, which ignores a NaN. -/
def maxFloat (first second : Float32) : Float32 :=
  if first.isNaN then second else if first < second then second else first

/-- `f32::min`, which ignores a NaN. -/
def minFloat (first second : Float32) : Float32 :=
  if first.isNaN then second else if second < first then second else first

/-- `RttCalculator` -/
structure RttCalculator where
  minRtt : Option UInt32
  windowMinRtt : Option UInt32
  smoothedRtt : Option UInt32
  samples : List UInt32

namespace RttCalculator

/-- `WINDOW_SAMPLES` -/
def windowSamples : ℕ := 60

/-- `MIN_SAMPLES` -/
def minSamples : ℕ := 10

/-- `ALPHA` -/
def alpha : Float32 := 0.5

/-- `RttCalculator::default` -/
def default : RttCalculator :=
  { minRtt := none, windowMinRtt := none, smoothedRtt := none, samples := [] }

/-- `RttCalculator::update` -/
def update (calculator : RttCalculator) (delay : UInt32) : RttCalculator :=
  let minRtt := match calculator.minRtt with
    | some minRtt => if delay < minRtt then some delay else some minRtt
    | none => some delay
  let kept :=
    if calculator.samples.length ≥ windowSamples then calculator.samples.tail
    else calculator.samples
  let samples := kept ++ [delay]
  let windowMinRtt := samples.min?
  let smoothedRtt :=
    if samples.length ≥ windowSamples then
      match minRtt, windowMinRtt with
      | some min, some windowMin =>
          some ((1.0 - alpha) * min.toFloat32 + alpha * windowMin.toFloat32).toUInt32
      | _, _ => calculator.smoothedRtt
    else calculator.smoothedRtt
  { minRtt, windowMinRtt, smoothedRtt, samples }

/-- `RttCalculator::get_rtt` -/
def getRtt (calculator : RttCalculator) : Option UInt32 :=
  match calculator.smoothedRtt with
  | some rtt => some rtt
  | none =>
      if calculator.samples.length ≥ minSamples then calculator.minRtt else none

end RttCalculator

/-- `UserDelay` -/
structure UserDelay where
  responseDelayed : Bool
  delayHistory : List UInt32
  fps : Option UInt32
  rttCalculator : RttCalculator
  quickIncreaseFpsCount : ℕ
  increaseFpsCount : ℕ

namespace UserDelay

/-- `UserDelay::default` -/
def default : UserDelay :=
  { responseDelayed := false
    delayHistory := []
    fps := none
    rttCalculator := .default
    quickIncreaseFpsCount := 0
    increaseFpsCount := 0 }

/-- The delays remembered after one more. -/
def remembered (user : UserDelay) (delay : UInt32) : List UInt32 :=
  let kept :=
    if user.delayHistory.length > historyDelayLen then user.delayHistory.tail
    else user.delayHistory
  kept ++ [delay]

/-- `UserDelay::add_delay` -/
def addDelay (user : UserDelay) (delay : UInt32) : UserDelay :=
  { user with
    rttCalculator := user.rttCalculator.update delay
    delayHistory := user.remembered delay }

/-- `UserDelay::avg_delay` -/
def avgDelay (user : UserDelay) : Checked Fault UInt32 :=
  let len := user.delayHistory.length
  if len > 0 then do
    let sum ← sumDelays user.delayHistory
    let avgDelay ← divide sum (UInt32.ofNat len)
    return match user.rttCalculator.getRtt with
      | some rtt => if avgDelay > rtt then avgDelay - rtt else avgDelay
      | none => avgDelay
  else return delayThreshold150ms

end UserDelay

/-- `Quality` -/
inductive Quality
  | best
  | balanced
  | low
  | custom (value : Float32)

/-- `Quality::ratio` -/
def Quality.ratio : Quality → Float32
  | .best => brBest
  | .balanced => brBalanced
  | .low => brSpeed
  | .custom value => value

/-- `UserData` -/
structure UserData where
  autoAdjustFps : Option UInt32
  customFps : Option UInt32
  /-- When the user chose a quality, and which one. -/
  quality : Option (ℤ × Quality)
  delay : UserDelay
  record : Bool

/-- `UserData::default` -/
def UserData.default : UserData :=
  { autoAdjustFps := none
    customFps := none
    quality := none
    delay := .default
    record := false }

/-- `DisplayData` -/
structure DisplayData where
  sendCounter : UInt64
  supportChangingQuality : Bool

/-- `DisplayData::default` -/
def DisplayData.default : DisplayData :=
  { sendCounter := 0, supportChangingQuality := false }

/-- `VideoQoS`.  Instants are in nanoseconds. -/
structure VideoQoS where
  fps : UInt32
  ratio : Float32
  users : List (ℤ × UserData)
  displays : List (String × DisplayData)
  bitrateStore : UInt32
  adjustRatioInstant : ℕ
  abrConfig : Bool
  newUserInstant : ℕ

/-- The order in which a hash map yields its entries. -/
structure Iteration where
  arrange : List (ℤ × UserData) → List (ℤ × UserData)
  perm : ∀ users, (arrange users).Perm users

/-- The order of insertion. -/
def Iteration.inOrder : Iteration where
  arrange users := users
  perm _ := .refl _

/-- `Duration::as_secs` of the time since an instant. -/
def elapsedSecs (now instant : ℕ) : ℕ :=
  (now - instant) / 1000000000

/-- `HashMap::get_mut` on the users, with what is done to the user. -/
def modifyUser (id : ℤ) (change : UserData → UserData) (users : List (ℤ × UserData)) :
    List (ℤ × UserData) :=
  users.map fun entry => if entry.1 = id then (entry.1, change entry.2) else entry

/-- `HashMap::insert` -/
def insertEntry {Key Value : Type} [DecidableEq Key] (key : Key) (value : Value)
    (entries : List (Key × Value)) : List (Key × Value) :=
  entries.filter (fun entry => entry.1 ≠ key) ++ [(key, value)]

/-- `HashMap::remove` -/
def removeEntry {Key Value : Type} [DecidableEq Key] (key : Key)
    (entries : List (Key × Value)) : List (Key × Value) :=
  entries.filter fun entry => entry.1 ≠ key

/-- The last of the qualities chosen latest. -/
def latest : List (ℤ × Quality) → Option (ℤ × Quality)
  | [] => none
  | first :: rest =>
      some (rest.foldl (fun best next => if best.1 > next.1 then best else next) first)

/-- The frame rate that a user allows. -/
def userFps (user : UserData) : UInt32 :=
  let fps := user.customFps.getD defaultFps
  match user.autoAdjustFps with
  | some autoAdjustFps =>
      if fps = 0 ∨ autoAdjustFps < fps then autoAdjustFps else fps
  | none => fps

/-- The conversion of an image quality that a client asks for. -/
def convertQuality (quality : Int32) : Checked Fault Quality :=
  if quality = 3 then return .balanced
  else if quality = 2 then return .low
  else if quality = 4 then return .best
  else do
    let ratio ← divideFloat
      (Lib.Single.ofInt32 (((quality >>> 8) &&& 0xFFF) * 2)) 100.0
    let clamped ← clampFloat ratio brMin brMax
    return .custom clamped

namespace VideoQoS

/-- `VideoQoS::default` at an instant. -/
def default (now : ℕ) : VideoQoS :=
  { fps := defaultFps
    ratio := brBalanced
    users := []
    displays := []
    bitrateStore := 0
    adjustRatioInstant := now
    abrConfig := true
    newUserInstant := now }

variable (iteration : Iteration) (linux : Bool) (now : ℕ) (qos : VideoQoS)

/-- `in_vbr_state` -/
def inVbrState : Bool :=
  qos.abrConfig && qos.displays.all fun display => display.2.supportChangingQuality

/-- `ratio` -/
def checkRatio : VideoQoS :=
  if qos.ratio < brMinHighResolution ∨ qos.ratio > brMax then
    { qos with ratio := brBalanced }
  else qos

/-- `store_bitrate` -/
def storeBitrate (bitrate : UInt32) : VideoQoS :=
  { qos with bitrateStore := bitrate }

/-- `set_support_changing_quality` -/
def setSupportChangingQuality (name : String) (support : Bool) : VideoQoS :=
  { qos with
    displays := qos.displays.map fun entry =>
      if entry.1 = name then (entry.1, { entry.2 with supportChangingQuality := support })
      else entry }

/-- `highest_fps` -/
def highestFps : Checked Fault UInt32 :=
  let allowed := (qos.users.map fun entry => userFps entry.2).filter (· ≥ minFps)
  clamp (allowed.min?.getD defaultFps) minFps maxFps

/-- `latest_quality` -/
def latestQuality : Quality :=
  match latest ((iteration.arrange qos.users).filterMap fun entry => entry.2.quality) with
  | some quality => quality.2
  | none => .balanced

/-- The least frame rate that suits every user, before the cap of the users. -/
def calmFps : UInt32 :=
  let slowest :=
    ((qos.users.map fun entry => entry.2.delay.fps.getD initFps).min?).getD initFps
  let patient :=
    if qos.users.any fun entry => entry.2.delay.responseDelayed then
      if slowest > minFps + 1 then minFps + 1 else slowest
    else slowest
  if elapsedSecs now qos.newUserInstant < 1 then
    if patient > initFps then initFps else patient
  else patient

/-- `adjust_fps` -/
def adjustFps : Checked Fault VideoQoS := do
  let highestFps ← qos.highestFps
  let fps ← clamp (qos.calmFps now) minFps highestFps
  return { qos with fps }

/-- A lower bound, or the ratio of 1 Mbps if that is less. -/
def lowerTo (ratio1mbps : Option Float32) (min : Float32) : Float32 :=
  match ratio1mbps with
  | some ratio1mbps => if min > ratio1mbps then ratio1mbps else min
  | none => min

/-- The least ratio that a quality allows. -/
def minRatio (quality : Quality) (ratio1mbps : Option Float32) : Checked Fault Float32 :=
  match quality with
  | .best => do
      let min ← divideFloat brBest 2.5
      return maxFloat (lowerTo ratio1mbps min) brMin
  | .balanced => do
      let half ← divideFloat brBalanced 2.0
      return maxFloat (lowerTo ratio1mbps (minFloat half 0.4)) brMinHighResolution
  | .low => return brMinHighResolution
  | .custom _ => return brMinHighResolution

/-- The ratio that a delay asks for. -/
def steerRatio (maxDelay : UInt32) (dynamicScreen : Bool) (currentRatio : Float32) :
    Float32 :=
  if maxDelay < 50 then
    if dynamicScreen then currentRatio * 1.15 else currentRatio
  else if maxDelay < 100 then
    if dynamicScreen then currentRatio * 1.1 else currentRatio
  else if maxDelay < delayThreshold150ms then
    if dynamicScreen then currentRatio * 1.05 else currentRatio
  else if maxDelay < 200 then currentRatio * 0.95
  else if maxDelay < 300 then currentRatio * 0.9
  else if maxDelay < 500 then currentRatio * 0.85
  else currentRatio * 0.8

/-- A ratio relative to the bitrate in use, if there is one. -/
def perBitrate (ratio : Float32) : Checked Fault (Option Float32) :=
  if qos.bitrateStore > 0 then do
    let quotient ← divideFloat ratio qos.bitrateStore.toFloat32
    return some quotient
  else return none

/-- `adjust_ratio` -/
def adjustRatio (dynamicScreen : Bool) : Checked Fault VideoQoS :=
  if !qos.inVbrState then return qos
  else do
    let delays : List UInt32 ← forEach (fun entry => entry.2.delay.avgDelay) qos.users
    match delays.max? with
    | none => return qos
    | some maxDelay => do
        let targetQuality := qos.latestQuality iteration
        let currentRatio := qos.ratio
        let quotient1mbps ← qos.perBitrate (currentRatio * 1000.0)
        let ratio1mbps := quotient1mbps.map fun ratio => maxFloat ratio brMinHighResolution
        let ratioAdd150kbps ← qos.perBitrate
          ((qos.bitrateStore + 150).toFloat32 * currentRatio)
        let min ← minRatio targetQuality ratio1mbps
        let max := targetQuality.ratio * maxBrMultiple
        let steered := steerRatio maxDelay dynamicScreen currentRatio
        let limited := match ratioAdd150kbps with
          | some ratioAdd150kbps =>
              if steered > ratioAdd150kbps ∧ ratioAdd150kbps > currentRatio ∧
                  currentRatio ≥ brSpeed then ratioAdd150kbps
              else steered
          | none => steered
        let ratio ← clampFloat limited min max
        return { qos with ratio, adjustRatioInstant := now }

/-- `on_connection_open` -/
def onConnectionOpen (id : ℤ) (enableAbr : String) : VideoQoS :=
  { qos with
    users := insertEntry id .default qos.users
    abrConfig := enableAbr ≠ "N"
    newUserInstant := now }

/-- `on_connection_close` -/
def onConnectionClose (id : ℤ) : VideoQoS :=
  let users := removeEntry id qos.users
  if users.isEmpty then .default now else { qos with users }

/-- `user_custom_fps` -/
def userCustomFps (id : ℤ) (fps : UInt32) : VideoQoS :=
  if fps < minFps ∨ fps > maxFps then qos
  else
    { qos with
      users := modifyUser id (fun user => { user with customFps := some fps }) qos.users }

/-- `user_auto_adjust_fps` -/
def userAutoAdjustFps (id : ℤ) (fps : UInt32) : VideoQoS :=
  if fps < minFps ∨ fps > maxFps then qos
  else
    { qos with
      users := modifyUser id (fun user => { user with autoAdjustFps := some fps })
        qos.users }

/-- `user_image_quality` -/
def userImageQuality (id : ℤ) (imageQuality : Int32) (time : ℤ) :
    Checked Fault VideoQoS := do
  let quality ← convertQuality imageQuality
  match qos.users.lookup id with
  | none => return qos
  | some _ =>
      let chosen :=
        { qos with
          users := modifyUser id (fun user => { user with quality := some (time, quality) })
            qos.users }
      return { chosen with ratio := (chosen.latestQuality iteration).ratio }

/-- `user_record` -/
def userRecord (id : ℤ) (value : Bool) : VideoQoS :=
  { qos with users := modifyUser id (fun user => { user with record := value }) qos.users }

/-- What `user_network_delay` does to the frame rate of a user. -/
structure Pace where
  fps : UInt32
  quickIncreaseFpsCount : ℕ

/-- The frame rate for an average delay below the threshold. -/
def raiseFps (user : UserDelay) (fps minFps normalFps avgDelay oldAvgDelay : UInt32) :
    Pace :=
  if avgDelay < 50 then
    let count := user.quickIncreaseFpsCount + 1
    if count ≥ 3 then { fps := max minFps (fps + 5), quickIncreaseFpsCount := 0 }
    else
      { fps := max minFps (fps + if fps < normalFps then 1 else 0)
        quickIncreaseFpsCount := count }
  else if avgDelay < 100 then
    let step := if avgDelay < oldAvgDelay then if fps < normalFps then 1 else 0 else 0
    { fps := max minFps (fps + step)
      quickIncreaseFpsCount := user.quickIncreaseFpsCount }
  else
    { fps := max minFps fps
      quickIncreaseFpsCount := user.quickIncreaseFpsCount }

/-- The frame rate for an average delay from the threshold on. -/
def lowerFps (fps minFps avgDelay : UInt32) : Checked Fault UInt32 := do
  let dividendMs := delayThreshold150ms * minFps
  let times ← divideFloat avgDelay.toFloat32 delayThreshold150ms.toFloat32
  let quotient ← divideFloat fps.toFloat32 times
  let devideFps := quotient.ceil.toUInt32
  if avgDelay < 200 then return max minFps devideFps
  else if avgDelay < 300 then return min minFps devideFps
  else if avgDelay < 600 then divide dividendMs avgDelay
  else do
    let share ← divide dividendMs avgDelay
    return min share devideFps

/-- The frame rate for an average delay. -/
def adaptFps (user : UserDelay) (fps minFps normalFps avgDelay oldAvgDelay : UInt32) :
    Checked Fault Pace :=
  if avgDelay < delayThreshold150ms then
    return raiseFps user fps minFps normalFps avgDelay oldAvgDelay
  else do
    let fps ← lowerFps fps minFps avgDelay
    return { fps, quickIncreaseFpsCount := user.quickIncreaseFpsCount }

/-- The user after a network delay. -/
def delayedUser (highestFps minFps normalFps delay : UInt32) (user : UserDelay) :
    Checked Fault UserDelay := do
  let delay := max delay 10
  let oldAvgDelay ← user.avgDelay
  let user := user.addDelay delay
  let average ← user.avgDelay
  let avgDelay := max average 10
  let pace ← adaptFps user qos.fps minFps normalFps avgDelay oldAvgDelay
  let increased := if avgDelay < delayThreshold150ms then user.increaseFpsCount + 1 else 0
  let fps := if increased ≥ 3 then pace.fps + 1 else pace.fps
  let fps ← clamp fps Video.minFps highestFps
  return { user with
    fps := some fps
    quickIncreaseFpsCount := if avgDelay > 50 then 0 else pace.quickIncreaseFpsCount
    increaseFpsCount := if increased ≥ 3 then 0 else increased }

/-- The least and the usual frame rate for a ratio. -/
def fpsLevels (targetRatio : Float32) : UInt32 × UInt32 :=
  if targetRatio ≥ brBest then (8, 16)
  else if targetRatio ≥ brBalanced then (10, 20)
  else (12, 24)

/-- A new delay of a user. -/
def setDelay (id : ℤ) (delay : UserDelay) : VideoQoS :=
  { qos with users := modifyUser id (fun user => { user with delay }) qos.users }

/-- `user_network_delay` -/
def userNetworkDelay (id : ℤ) (delay : UInt32) : Checked Fault VideoQoS := do
  let highestFps ← qos.highestFps
  let levels := fpsLevels (qos.latestQuality iteration).ratio
  match qos.users.lookup id with
  | none => qos.adjustFps now
  | some user => do
      let changed ← qos.delayedUser highestFps levels.1 levels.2 delay user.delay
      let adjusted ← (qos.setDelay id changed).adjustFps now
      -- The first delay of a user.
      if user.delay.fps.isNone ∧ !linux then adjusted.adjustRatio iteration now false
      else return adjusted

/-- `user_delay_response_elapsed` -/
def userDelayResponseElapsed (id : ℤ) (elapsed : ℕ) : Checked Fault VideoQoS :=
  match qos.users.lookup id with
  | none => return qos
  | some _ =>
      let responseDelayed := decide (elapsed > 2000)
      if responseDelayed then
        { qos with
          users := modifyUser id (fun user =>
            { user with
              delay := { user.delay with responseDelayed }.addDelay (UInt32.ofNat elapsed) })
            qos.users : VideoQoS }.adjustFps now
      else
        return { qos with
          users := modifyUser id (fun user =>
            { user with delay := { user.delay with responseDelayed } }) qos.users }

/-- `new_display` -/
def newDisplay (name : String) : VideoQoS :=
  { qos with displays := insertEntry name .default qos.displays }

/-- `remove_display` -/
def removeDisplay (name : String) : VideoQoS :=
  { qos with displays := removeEntry name qos.displays }

/-- Whether `update_display_data` adjusts the ratio to the delays. -/
def ratioIsDue : Bool :=
  qos.inVbrState && decide (elapsedSecs now qos.adjustRatioInstant ≥ adjustRatioInterval)

/-- More encodings of a display. -/
def countSends (name : String) (sendCounter : UInt64) : VideoQoS :=
  { qos with
    displays := qos.displays.map fun entry =>
      if entry.1 = name then
        (entry.1, { entry.2 with sendCounter := entry.2.sendCounter + sendCounter })
      else entry }

/-- The counters of the displays start anew. -/
def resetSends : VideoQoS :=
  { qos with
    displays := qos.displays.map fun entry => (entry.1, { entry.2 with sendCounter := 0 }) }

/-- `update_display_data` -/
def updateDisplayData (name : String) (sendCounter : UInt64) : Checked Fault VideoQoS := do
  let adjusted ← (qos.countSends name sendCounter).adjustFps now
  if adjusted.inVbrState then
    if elapsedSecs now adjusted.adjustRatioInstant ≥ adjustRatioInterval then
      let dynamicScreen := adjusted.displays.any fun display =>
        display.2.sendCounter.toNat ≥ adjustRatioInterval * dynamicScreenThreshold
      adjusted.resetSends.adjustRatio iteration now dynamicScreen
    else return adjusted
  else return { adjusted with ratio := (adjusted.latestQuality iteration).ratio }

end VideoQoS

end Video
end OneDesk
