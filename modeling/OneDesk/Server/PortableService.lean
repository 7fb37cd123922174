import OneDesk.Lib.Run
import OneDesk.Lib.WrapCounter

/-!
# The shared memory of the portable service

A process with more rights captures the screen and hands the frames over in a memory that it shares
with the main process.  Two counters say whether there is a frame that was not taken, and nothing
else keeps the processes apart: each step here is one access to the memory.
-/

namespace OneDesk
namespace Server
namespace PortableService

open OneDesk.Lib

/-! ## The memory -/

structure CapturerPara where
  recreate : Bool
  currentDisplay : Nat
  timeoutMs : Int32
  deriving DecidableEq

structure FrameInfo where
  length : Nat
  width : Nat
  height : Nat
  deriving DecidableEq

/-- What the processes share for the capture, each part at its own address. -/
structure SharedMemory where
  capturerPara : CapturerPara
  captureFrameInfo : FrameInfo
  captureWouldblock : Int32
  /-- The first of the two counters at `ADDR_CAPTURE_FRAME_COUNTER`. -/
  writeCounter : Int32
  readCounter : Int32
  captureFrame : List UInt8

namespace SharedMemory

variable (memory : SharedMemory)

/-- The memory is set to zero. -/
def clear : SharedMemory where
  capturerPara := ⟨false, 0, 0⟩
  captureFrameInfo := ⟨0, 0, 0⟩
  captureWouldblock := 0
  writeCounter := 0
  readCounter := 0
  captureFrame := List.replicate memory.captureFrame.length 0

/-- `set_para` -/
def setPara (para : CapturerPara) : SharedMemory := { memory with capturerPara := para }

/-- `set_frame_info` -/
def setFrameInfo (info : FrameInfo) : SharedMemory := { memory with captureFrameInfo := info }

/-- `write` at `ADDR_CAPTURE_FRAME`, which leaves what is behind the data. -/
def writeFrame (data : List UInt8) : SharedMemory :=
  { memory with captureFrame := data ++ memory.captureFrame.drop data.length }

/-- `write` at `ADDR_CAPTURE_WOULDBLOCK` -/
def writeWouldblock (wouldblock : Int32) : SharedMemory :=
  { memory with captureWouldblock := wouldblock }

/-- `counter_ready` -/
def counterReady : Bool × SharedMemory :=
  if memory.readCounter ≠ memory.writeCounter then
    (true, { memory with readCounter := memory.writeCounter })
  else (false, memory)

/-- `counter_equal` -/
def counterEqual : Bool := memory.writeCounter == memory.readCounter

/-- `increase_counter`, which reads the write counter for both. -/
def increaseCounter : SharedMemory :=
  let iw := memory.writeCounter
  let ir := memory.writeCounter
  let iwPlus1 := nextCount iw
  { memory with
    writeCounter := iwPlus1
    readCounter := if ir = iwPlus1 then iw else memory.readCounter }

end SharedMemory

/-! ## The capture process -/

structure Display where
  width : Nat
  height : Nat

/-- A frame as it was captured, with the size that is announced for it. -/
structure Captured where
  width : Nat
  height : Nat
  data : List UInt8
  deriving DecidableEq

/-- The frame info of a captured frame. -/
def Captured.info (frame : Captured) : FrameInfo := ⟨frame.data.length, frame.width, frame.height⟩

/-- Where `run_capture` is, by the access to the memory that comes next. -/
inductive CapturePhase
  /-- The parameters are read. -/
  | reading
  /-- There is no capturer: the displays are got and a capturer is made. -/
  | creating (currentDisplay : Nat)
  /-- The parameters are written back. -/
  | settingPara
  /-- The counters are compared, unless no frame was captured yet. -/
  | testing
  | capturing
  | settingInfo (frame : Captured)
  | writing (frame : Captured)
  | unblocking
  | increasing
  /-- Nothing was captured, which is reported. -/
  | reporting (wouldblock : Int32)
  | exited

/-- The variables of `run_capture`. -/
structure CaptureProcess where
  hasCapturer : Bool
  lastCurrentDisplay : Nat
  firstFrameCaptured : Bool
  dxgiFailedTimes : Nat
  displayWidth : Nat
  displayHeight : Nat
  phase : CapturePhase

/-- `MAX_DXGI_FAIL_TIME` -/
def maxDxgiFailTime : Nat := 5

/-- What the capture process is given by the system when it goes on. -/
inductive Finding
  | nothing
  /-- The displays, and whether a capturer can be made. -/
  | displays (displays : Option (List Display)) (created : Bool)
  | pixelBuffer (data : List UInt8)
  | texture
  /-- No frame, and what kind of failure it is. -/
  | failed (desktopChanged wouldBlock isGdi : Bool)

namespace CaptureProcess

/-- `run_capture` before its loop. -/
def new : CaptureProcess where
  hasCapturer := false
  lastCurrentDisplay := 18446744073709551615
  firstFrameCaptured := false
  dxgiFailedTimes := 0
  displayWidth := 0
  displayHeight := 0
  phase := .reading

variable (process : CaptureProcess)

/-- The parameters are compared with those of the capturer. -/
def read (para : CapturerPara) : CaptureProcess :=
  if !process.hasCapturer then { process with phase := .creating para.currentDisplay }
  else if para.recreate ∨ para.currentDisplay ≠ process.lastCurrentDisplay then
    { process with hasCapturer := false }
  else { process with phase := .testing }

/-- A capturer is made. -/
def create (currentDisplay : Nat) : Finding → CaptureProcess
  | .displays none _ => { process with phase := .exited }
  | .displays (some displays) created =>
      match displays[currentDisplay]? with
      | none => { process with phase := .exited }
      | some display =>
          let sized :=
            { process with displayWidth := display.width, displayHeight := display.height }
          if created then
            { sized with
              lastCurrentDisplay := currentDisplay
              firstFrameCaptured := false
              dxgiFailedTimes :=
                if process.dxgiFailedTimes > maxDxgiFailTime then 0 else process.dxgiFailedTimes
              phase := .settingPara }
          else { sized with phase := .reading }
  | _ => process

/-- A frame with the size of the display. -/
def captured (data : List UInt8) : Captured :=
  ⟨process.displayWidth, process.displayHeight, data⟩

/-- The capturer is asked for a frame. -/
def capture : Finding → CaptureProcess
  | .pixelBuffer data => { process with phase := .settingInfo (process.captured data) }
  | .texture => { process with phase := .reading }
  | .failed true _ _ => { process with hasCapturer := false, phase := .reading }
  | .failed false true _ => { process with phase := .reporting 1 }
  | .failed false false isGdi =>
      let times := if isGdi then process.dxgiFailedTimes else process.dxgiFailedTimes + 1
      if times > maxDxgiFailTime then
        { process with hasCapturer := false, dxgiFailedTimes := times, phase := .reporting 0 }
      else { process with dxgiFailedTimes := times, phase := .reading }
  | _ => process

/-- The frame is in the memory. -/
def finish : CaptureProcess :=
  { process with firstFrameCaptured := true, dxgiFailedTimes := 0, phase := .reading }

end CaptureProcess

/-! ## The main process -/

structure CapturerPortable where
  width : Nat
  height : Nat

inductive ErrorKind
  | wouldBlock
  | other
  deriving DecidableEq

/-- An error of a call of `frame`. -/
structure Error where
  kind : ErrorKind
  message : String
  deriving DecidableEq

/-- `WouldBlock` as `frame` returns it. -/
def wouldblockError : Error := ⟨.wouldBlock, "wouldblock error"⟩

/-- `Other` as `frame` returns it. -/
def otherError : Error := ⟨.other, "other error"⟩

/-- A frame that was returned: a slice of the memory, which had these bytes then. -/
structure Lent where
  length : Nat
  width : Nat
  height : Nat
  bytes : List UInt8
  deriving DecidableEq

/-- Where a call of `frame` is. -/
inductive MainPhase
  /-- There is no call. -/
  | idle
  | testing
  | readingInfo
  | readingWouldblock
  deriving DecidableEq

structure MainProcess where
  capturer : Option CapturerPortable
  phase : MainPhase
  /-- What the last call has returned, until the next one. -/
  returned : Option (Except Error Lent)

/-- The frame that the main process uses. -/
def MainProcess.lent (main : MainProcess) : Option Lent :=
  match main.returned with
  | some (.ok lent) => some lent
  | _ => none

/-! ## Both -/

structure System where
  memory : SharedMemory
  capture : CaptureProcess
  main : MainProcess
  /-- All frames that were captured. -/
  captures : List Captured
  /-- Frames written since the main process last took one or cleared the memory. -/
  unread : Nat
  /-- `counter_ready` was not true right after `increase_counter`. -/
  missed : Bool

inductive Event
  /-- The capture process goes on. -/
  | capture (finding : Finding)
  /-- `CapturerPortable::new`, with the displays that it finds. -/
  | new (currentDisplay : Nat) (displays : Option (List Display))
  /-- `CapturerPortable::frame` is called. -/
  | frame (timeoutMs : Nat)
  /-- The call goes on. -/
  | main

namespace System

/-- The processes when the memory of some size has just been made. -/
def new (size : Nat) : System where
  memory := ⟨⟨false, 0, 0⟩, ⟨0, 0, 0⟩, 0, 0, 0, List.replicate size 0⟩
  capture := .new
  main := ⟨none, .idle, none⟩
  captures := []
  unread := 0
  missed := false

variable (system : System)

/-- The next step of `run_capture`. -/
def captureStep (finding : Finding) : System :=
  let process := system.capture
  let memory := system.memory
  match process.phase with
  | .reading => { system with capture := process.read memory.capturerPara }
  | .creating currentDisplay => { system with capture := process.create currentDisplay finding }
  | .settingPara =>
      { system with
        memory := memory.setPara { memory.capturerPara with recreate := false }
        capture := { process with hasCapturer := true, phase := .testing } }
  | .testing =>
      let waits := process.firstFrameCaptured && !memory.counterEqual
      { system with capture := { process with phase := if waits then .reading else .capturing } }
  | .capturing =>
      { system with
        capture := process.capture finding
        captures :=
          match finding with
          | .pixelBuffer data => system.captures ++ [process.captured data]
          | _ => system.captures }
  | .settingInfo frame =>
      { system with
        memory := memory.setFrameInfo frame.info
        capture := { process with phase := .writing frame } }
  | .writing frame =>
      { system with
        memory := memory.writeFrame frame.data
        capture := { process with phase := .unblocking } }
  | .unblocking =>
      { system with
        memory := memory.writeWouldblock 1
        capture := { process with phase := .increasing } }
  | .increasing =>
      { system with
        memory := memory.increaseCounter
        capture := process.finish
        unread := system.unread + 1
        missed := system.missed || !memory.increaseCounter.counterReady.1 }
  | .reporting wouldblock =>
      { system with
        memory := memory.writeWouldblock wouldblock
        capture := { process with phase := .reading } }
  | .exited => system

/-- `CapturerPortable::new` -/
def newCapturer (currentDisplay : Nat) (displays : Option (List Display)) : System :=
  let display := (displays.bind (·[currentDisplay]?)).getD ⟨0, 0⟩
  { system with
    memory := (system.memory.clear.setPara ⟨true, currentDisplay, 33⟩).writeWouldblock 1
    main := { system.main with capturer := some ⟨display.width, display.height⟩ }
    unread := 0 }

/-- The head of `frame`, which tells the capture process another timeout. -/
def callFrame (timeoutMs : Nat) : System :=
  let para := system.memory.capturerPara
  { system with
    memory :=
      if (timeoutMs : Int) ≠ para.timeoutMs.toInt then
        system.memory.setPara { para with timeoutMs := Int32.ofNat timeoutMs }
      else system.memory
    main := { system.main with phase := .testing, returned := none } }

/-- A call of `frame` returns. -/
def finishCall (result : Except Error Lent) : System :=
  { system with main := { system.main with phase := .idle, returned := some result } }

/-- The next step of a call of `frame`. -/
def mainStep (capturer : CapturerPortable) : System :=
  let memory := system.memory
  match system.main.phase with
  | .idle => system
  | .testing =>
      if memory.counterReady.1 then
        { system with
          memory := memory.counterReady.2
          main := { system.main with phase := .readingInfo }
          unread := 0 }
      else { system with main := { system.main with phase := .readingWouldblock } }
  | .readingInfo =>
      let info := memory.captureFrameInfo
      if info.width ≠ capturer.width ∨ info.height ≠ capturer.height then
        system.finishCall (.error wouldblockError)
      else
        system.finishCall (.ok ⟨info.length, capturer.width, capturer.height,
          memory.captureFrame.take info.length⟩)
  | .readingWouldblock =>
      system.finishCall
        (.error (if memory.captureWouldblock = 1 then wouldblockError else otherError))

/-- One step.  A capturer is not made while a call of `frame` holds the lock of the memory. -/
def step : Event → System
  | .capture finding => system.captureStep finding
  | .new currentDisplay displays =>
      if system.main.phase = .idle then system.newCapturer currentDisplay displays else system
  | .frame timeoutMs =>
      if system.main.phase = .idle ∧ system.main.capturer.isSome then system.callFrame timeoutMs
      else system
  | .main =>
      match system.main.capturer with
      | some capturer => system.mainStep capturer
      | none => system

end System

/-! ## Frames that are whole -/

/-- The memory shows a captured frame, by its frame info. -/
def SharedMemory.Shows (memory : SharedMemory) (frame : Captured) : Prop :=
  memory.captureFrame.take memory.captureFrameInfo.length = frame.data ∧
    frame.width = memory.captureFrameInfo.width ∧ frame.height = memory.captureFrameInfo.height

namespace System

variable (system : System)

/-- Another memory has the same bytes where a frame is used. -/
def Keeps (memory : SharedMemory) : Prop :=
  ∀ lent ∈ system.main.lent,
    memory.captureFrame.take lent.length = system.memory.captureFrame.take lent.length

/-- The frame that is used is a captured one of the size that was announced, and not changed. -/
def Whole : Prop :=
  ∀ lent ∈ system.main.lent,
    system.memory.captureFrame.take lent.length = lent.bytes ∧
      ∃ frame ∈ system.captures,
        frame.data = lent.bytes ∧ frame.width = lent.width ∧ frame.height = lent.height

/-- What is promised in every state. -/
def Good : Prop := system.Whole ∧ system.missed = false

/-- A frame is about to be written, and its frame info is there already. -/
def isWriting : Bool :=
  match system.capture.phase with
  | .writing _ => true
  | _ => false

/-- The frame info does not belong to what is in the memory. -/
def isTorn : Bool :=
  system.isWriting || decide (system.memory.captureFrameInfo = ⟨0, 0, 0⟩)

/-- The frame info is what the main process has been told to expect. -/
def Fits (capturer : CapturerPortable) : Prop :=
  system.memory.captureFrameInfo.width = capturer.width ∧
    system.memory.captureFrameInfo.height = capturer.height

/--
No frame is written and no memory is cleared under a frame that is used, no frame info is read
before its frame is there, and a frame is taken before all values of the counter have passed.
-/
def Undisturbed : Event → Prop
  | .capture _ =>
      match system.capture.phase with
      | .writing frame => system.Keeps (system.memory.writeFrame frame.data)
      | .increasing => (system.unread + 1) % 2147483648 ≠ 0
      | _ => True
  | .new _ _ => system.main.phase = .idle → system.Keeps system.memory.clear
  | .frame _ => True
  | .main =>
      system.main.phase = .readingInfo → system.isTorn →
        ∀ capturer ∈ system.main.capturer, system.Fits capturer →
          ∃ frame ∈ system.captures, system.memory.Shows frame

end System

namespace SharedMemory

variable (memory : SharedMemory)

/-- The read counter stays: the write counter is not what it will be. -/
theorem increaseCounter_eq :
    memory.increaseCounter = { memory with writeCounter := nextCount memory.writeCounter } := by
  have different : memory.writeCounter ≠ nextCount memory.writeCounter :=
    (nextCount_ne memory.writeCounter).symm
  simp [increaseCounter, different]

theorem counterReady_fst :
    memory.counterReady.1 = true ↔ memory.writeCounter ≠ memory.readCounter := by
  unfold counterReady
  split
  case isTrue ready => exact iff_of_true rfl ready.symm
  case isFalse equal => exact iff_of_false (by simp) fun ready => equal ready.symm

theorem counterReady_snd (ready : memory.counterReady.1 = true) :
    memory.counterReady.2 = { memory with readCounter := memory.writeCounter } := by
  rw [counterReady_fst] at ready
  rw [counterReady, if_pos ready.symm]

/-- Behind the data, the frame keeps what was there. -/
@[simp] theorem take_writeFrame (data : List UInt8) :
    (memory.writeFrame data).captureFrame.take data.length = data := by
  simp [writeFrame]

end SharedMemory

/-! ## What is kept anyway -/

/-- The memory shows a captured frame unless it is torn, and the counters count. -/
structure Orderly (system : System) : Prop where
  shown : system.isTorn = false → ∃ frame ∈ system.captures, system.memory.Shows frame
  written : ∀ frame, system.capture.phase = .writing frame →
    system.memory.captureFrameInfo = frame.info ∨ system.memory.captureFrameInfo = ⟨0, 0, 0⟩
  pending : ∀ frame, system.capture.phase = .settingInfo frame ∨
    system.capture.phase = .writing frame → frame ∈ system.captures
  counted : Ahead system.unread system.memory.writeCounter system.memory.readCounter

namespace Orderly

variable {system : System}

theorem new (size : Nat) : Orderly (.new size) where
  shown := by intro untorn; cases untorn
  written := by intro frame impossible; cases impossible
  pending := by rintro frame (impossible | impossible) <;> cases impossible
  counted := .same (Int.le_refl 0)

/-- A step that neither writes a frame nor its info. -/
theorem of_same
    (orderly : Orderly system)
    {after : System}
    (frame_eq : after.memory.captureFrame = system.memory.captureFrame)
    (info_eq : after.memory.captureFrameInfo = system.memory.captureFrameInfo)
    (captures : system.captures ⊆ after.captures)
    (phase : after.capture.phase = system.capture.phase ∨
      system.isWriting = false ∧ ∀ frame, after.capture.phase ≠ .writing frame ∧
        (after.capture.phase = .settingInfo frame → frame ∈ after.captures))
    (counted : Ahead after.unread after.memory.writeCounter after.memory.readCounter) :
    Orderly after where
  shown := by
    intro untorn
    have before : system.isTorn = false := by
      rcases phase with same | ⟨notWriting, _⟩
      · simpa [System.isTorn, System.isWriting, same, info_eq] using untorn
      · simp only [System.isTorn, Bool.or_eq_false_iff, info_eq] at untorn ⊢
        exact ⟨notWriting, untorn.2⟩
    obtain ⟨frame, member, shows⟩ := orderly.shown before
    refine ⟨frame, captures member, ?_⟩
    simpa only [SharedMemory.Shows, frame_eq, info_eq] using shows
  written := by
    intro frame writing
    rcases phase with same | ⟨_, other⟩
    · rw [info_eq]
      exact orderly.written frame (same ▸ writing)
    · exact absurd writing (other frame).1
  pending := by
    intro frame isPending
    rcases phase with same | ⟨_, other⟩
    · exact captures (orderly.pending frame (same ▸ isPending))
    · rcases isPending with setting | writing
      · exact (other frame).2 setting
      · exact absurd writing (other frame).1
  counted := counted

end Orderly

namespace Orderly

variable {system : System}

/-- The capture process is not about to write a frame or its info. -/
def Aside (phase : CapturePhase) : Prop :=
  ∀ frame, phase ≠ .writing frame ∧ phase ≠ .settingInfo frame

theorem aside_read
    (process : CaptureProcess)
    (para : CapturerPara)
    (aside : Aside process.phase) :
    Aside (process.read para).phase := by
  unfold CaptureProcess.read
  split
  · intro frame
    simp
  · split
    · exact aside
    · intro frame
      simp

theorem aside_create
    (process : CaptureProcess)
    (currentDisplay : Nat)
    (finding : Finding)
    (aside : Aside process.phase) :
    Aside (process.create currentDisplay finding).phase := by
  unfold CaptureProcess.create
  split
  · intro frame
    simp
  · split
    · intro frame
      simp
    · dsimp only
      split
      · intro frame
        simp
      · intro frame
        simp
  · exact aside

/-- What the capturer gives is about to be written only if it is a frame. -/
theorem phase_capture
    (process : CaptureProcess)
    (finding : Finding)
    (aside : Aside process.phase) :
    Aside (process.capture finding).phase ∨
      ∃ data, finding = .pixelBuffer data ∧
        (process.capture finding).phase = .settingInfo (process.captured data) := by
  unfold CaptureProcess.capture
  split
  case h_1 data => exact .inr ⟨data, rfl, rfl⟩
  case h_5 =>
    refine .inl ?_
    have reports (times : Nat) : Aside (if times > maxDxgiFailTime then
        { process with hasCapturer := false, dxgiFailedTimes := times, phase := .reporting 0 }
      else { process with dxgiFailedTimes := times, phase := .reading }).phase := by
      split
      · intro frame
        simp
      · intro frame
        simp
    exact reports _
  case h_6 => exact .inl aside
  all_goals
    refine .inl fun frame => ?_
    simp

/-- A step of the capture process that leaves the memory's frame, from and to somewhere aside. -/
theorem aside
    (orderly : Orderly system)
    (process : CaptureProcess)
    (memory : SharedMemory)
    (frame_eq : memory.captureFrame = system.memory.captureFrame)
    (info_eq : memory.captureFrameInfo = system.memory.captureFrameInfo)
    (before : ∀ frame, system.capture.phase ≠ .writing frame)
    (after : Aside process.phase)
    {unread : Nat}
    {missed : Bool}
    (counted : Ahead unread memory.writeCounter memory.readCounter) :
    Orderly { system with memory, capture := process, unread, missed } := by
  refine orderly.of_same frame_eq info_eq (List.Subset.refl _) (.inr ⟨?_, fun frame => ?_⟩) counted
  · unfold System.isWriting
    split
    case h_1 frame writing => exact absurd writing (before frame)
    case h_2 => rfl
  · exact ⟨(after frame).1, fun setting => absurd setting (after frame).2⟩

/-- The info of a frame is there before its bytes. -/
theorem setFrameInfo
    (orderly : Orderly system)
    {frame : Captured}
    (phase_eq : system.capture.phase = .settingInfo frame) :
    Orderly { system with
      memory := system.memory.setFrameInfo frame.info
      capture := { system.capture with phase := .writing frame } } where
  shown := by intro untorn; cases untorn
  written := by
    intro other writing
    obtain rfl := CapturePhase.writing.inj writing
    exact .inl rfl
  pending := by
    rintro other (setting | writing)
    · cases setting
    · obtain rfl := CapturePhase.writing.inj writing
      exact orderly.pending frame (.inl phase_eq)
  counted := orderly.counted

/-- With the bytes of a frame the memory shows it, unless its info was cleared meanwhile. -/
theorem writeFrame
    (orderly : Orderly system)
    {frame : Captured}
    (phase_eq : system.capture.phase = .writing frame) :
    Orderly { system with
      memory := system.memory.writeFrame frame.data
      capture := { system.capture with phase := .unblocking } } where
  shown := by
    intro untorn
    refine ⟨frame, orderly.pending frame (.inr phase_eq), ?_⟩
    have present : system.memory.captureFrameInfo ≠ ⟨0, 0, 0⟩ := by
      intro cleared
      simp [System.isTorn, SharedMemory.writeFrame, cleared] at untorn
    have info_eq := (orderly.written frame phase_eq).resolve_right present
    have length_eq : (system.memory.writeFrame frame.data).captureFrameInfo.length =
        frame.data.length := congrArg FrameInfo.length info_eq
    refine ⟨?_, (congrArg FrameInfo.width info_eq).symm, (congrArg FrameInfo.height info_eq).symm⟩
    dsimp only
    rw [length_eq, SharedMemory.take_writeFrame]
  written := by intro other writing; cases writing
  pending := by rintro other (setting | writing) <;> contradiction
  counted := orderly.counted

theorem captureStep (orderly : Orderly system) (finding : Finding) :
    Orderly (system.captureStep finding) := by
  have counted := orderly.counted
  unfold System.captureStep
  dsimp only
  cases phase_eq : system.capture.phase with
  | reading =>
      refine orderly.aside _ _ rfl rfl (by simp [phase_eq]) (aside_read _ _ ?_) counted
      simp [Aside, phase_eq]
  | creating currentDisplay =>
      refine orderly.aside _ _ rfl rfl (by simp [phase_eq]) (aside_create _ _ _ ?_) counted
      simp [Aside, phase_eq]
  | settingPara =>
      refine orderly.aside _
        (system.memory.setPara { system.memory.capturerPara with recreate := false }) rfl rfl
        (by simp [phase_eq]) ?_ counted
      simp [Aside]
  | testing =>
      refine orderly.aside _ _ rfl rfl (by simp [phase_eq]) (fun frame => ?_) counted
      dsimp only
      split <;> simp
  | capturing =>
      have notWriting : system.isWriting = false := by simp [System.isWriting, phase_eq]
      rcases phase_capture system.capture finding (by simp [Aside, phase_eq]) with
        aside | ⟨data, rfl, setting⟩
      · refine orderly.of_same rfl rfl ?_ (.inr ⟨notWriting, fun frame => ?_⟩) counted
        · dsimp only
          split
          · exact List.subset_append_left _ _
          · exact List.Subset.refl _
        · exact ⟨(aside frame).1, fun setting => absurd setting (aside frame).2⟩
      · refine orderly.of_same rfl rfl (List.subset_append_left _ _)
          (.inr ⟨notWriting, fun frame => ?_⟩) counted
        dsimp only
        rw [setting]
        refine ⟨by simp, fun same => ?_⟩
        obtain rfl := CapturePhase.settingInfo.inj same
        exact List.mem_append_right _ List.mem_cons_self
  | settingInfo frame => exact orderly.setFrameInfo phase_eq
  | writing frame => exact orderly.writeFrame phase_eq
  | unblocking =>
      refine orderly.aside _
        (system.memory.writeWouldblock 1) rfl rfl (by simp [phase_eq]) ?_ counted
      simp [Aside]
  | increasing =>
      refine orderly.aside _ _ ?_ ?_ (by simp [phase_eq])
        (by simp [Aside, CaptureProcess.finish]) ?_
      · rw [SharedMemory.increaseCounter_eq]
      · rw [SharedMemory.increaseCounter_eq]
      · rw [SharedMemory.increaseCounter_eq]
        exact counted.next
  | reporting wouldblock =>
      refine orderly.aside _
        (system.memory.writeWouldblock wouldblock) rfl rfl (by simp [phase_eq]) ?_ counted
      simp [Aside]
  | exited => exact orderly

theorem mainStep (orderly : Orderly system) (capturer : CapturerPortable) :
    Orderly (system.mainStep capturer) := by
  have same {after : System} (memory_eq : after.memory = system.memory)
      (captures_eq : after.captures = system.captures) (capture_eq : after.capture = system.capture)
      (unread_eq : after.unread = system.unread) : Orderly after := by
    refine orderly.of_same (by rw [memory_eq]) (by rw [memory_eq]) (by simp [captures_eq])
      (.inl (by rw [capture_eq])) ?_
    rw [unread_eq, memory_eq]
    exact orderly.counted
  unfold System.mainStep
  cases system.main.phase with
  | idle => exact orderly
  | testing =>
      dsimp only
      split
      case isTrue ready =>
        refine orderly.of_same ?_ ?_ (List.Subset.refl _) (.inl rfl) ?_
        · rw [SharedMemory.counterReady_snd _ ready]
        · rw [SharedMemory.counterReady_snd _ ready]
        · rw [SharedMemory.counterReady_snd _ ready]
          exact .same orderly.counted.front_nonneg
      case isFalse => exact same rfl rfl rfl rfl
  | readingInfo =>
      dsimp only
      split
      · exact same rfl rfl rfl rfl
      · exact same rfl rfl rfl rfl
  | readingWouldblock => exact same rfl rfl rfl rfl

/-- A new capturer clears the memory: there is no frame info, and all counters are zero. -/
theorem newCapturer
    (orderly : Orderly system)
    (currentDisplay : Nat)
    (displays : Option (List Display)) :
    Orderly (system.newCapturer currentDisplay displays) where
  shown := by
    intro untorn
    simp [System.isTorn, System.newCapturer, SharedMemory.writeWouldblock, SharedMemory.setPara,
      SharedMemory.clear] at untorn
  written := fun _ _ => .inr rfl
  pending := orderly.pending
  counted := .same (Int.le_refl 0)

theorem callFrame (orderly : Orderly system) (timeoutMs : Nat) :
    Orderly (system.callFrame timeoutMs) := by
  unfold System.callFrame
  dsimp only
  split
  · exact orderly.of_same rfl rfl (List.Subset.refl _) (.inl rfl) orderly.counted
  · exact orderly.of_same rfl rfl (List.Subset.refl _) (.inl rfl) orderly.counted

theorem step (orderly : Orderly system) (event : Event) : Orderly (system.step event) := by
  cases event with
  | capture finding => exact orderly.captureStep finding
  | new currentDisplay displays =>
      simp only [System.step]
      split
      · exact orderly.newCapturer currentDisplay displays
      · exact orderly
  | frame timeoutMs =>
      simp only [System.step]
      split
      · exact orderly.callFrame timeoutMs
      · exact orderly
  | main =>
      simp only [System.step]
      split
      case h_1 capturer _ => exact orderly.mainStep capturer
      case h_2 => exact orderly

end Orderly

/-! ## Which steps disturb -/

namespace System

variable {system : System}

/-- The frame that is used is as it was if its bytes are. -/
theorem whole_iff_keeps
    (whole : system.Whole)
    (after : System)
    (lent_eq : after.main.lent = system.main.lent)
    (captures : system.captures ⊆ after.captures) :
    after.Whole ↔ system.Keeps after.memory := by
  constructor
  · intro afterWhole lent member
    rw [(afterWhole lent (lent_eq ▸ member)).1, (whole lent member).1]
  · intro keeps lent member
    rw [lent_eq] at member
    obtain ⟨bytes_eq, frame, isCaptured, fits⟩ := whole lent member
    exact ⟨(keeps lent member).trans bytes_eq, frame, captures isCaptured, fits⟩

theorem keeps_of_eq
    {memory : SharedMemory}
    (frame_eq : memory.captureFrame = system.memory.captureFrame) :
    system.Keeps memory :=
  fun _ _ => by rw [frame_eq]

/-- A step that leaves the frame in the memory alone. -/
theorem Good.of_same
    (good : system.Good)
    {after : System}
    (frame_eq : after.memory.captureFrame = system.memory.captureFrame)
    (lent_eq : after.main.lent = system.main.lent)
    (captures : system.captures ⊆ after.captures)
    (missed_eq : after.missed = system.missed) :
    after.Good :=
  ⟨(whole_iff_keeps good.1 after lent_eq captures).mpr (keeps_of_eq frame_eq), missed_eq ▸ good.2⟩

/-- When nothing is used, nothing can be changed. -/
theorem Good.of_unused
    (good : system.Good)
    {after : System}
    (unused : after.main.lent = none)
    (missed_eq : after.missed = system.missed) :
    after.Good := by
  refine ⟨fun lent member => ?_, missed_eq ▸ good.2⟩
  rw [unused] at member
  cases member

theorem good_captureStep_iff
    (orderly : Orderly system)
    (good : system.Good)
    (finding : Finding) :
    (system.captureStep finding).Good ↔ system.Undisturbed (.capture finding) := by
  unfold System.captureStep System.Undisturbed
  dsimp only
  cases phase_eq : system.capture.phase with
  | writing frame =>
      have whole_iff := whole_iff_keeps good.1
        { system with
          memory := system.memory.writeFrame frame.data
          capture := { system.capture with phase := .unblocking } } rfl (List.Subset.refl _)
      exact ⟨fun afterGood => whole_iff.mp afterGood.1, fun keeps => ⟨whole_iff.mpr keeps, good.2⟩⟩
  | increasing =>
      have ahead := orderly.counted.next
      have ready_iff : system.memory.increaseCounter.counterReady.1 = true ↔
          (system.unread + 1) % 2147483648 ≠ 0 := by
        rw [SharedMemory.counterReady_fst, SharedMemory.increaseCounter_eq]
        exact not_congr ahead.eq_iff
      have frame_eq :
          system.memory.increaseCounter.captureFrame = system.memory.captureFrame := by
        rw [SharedMemory.increaseCounter_eq]
      dsimp only
      rw [← ready_iff]
      constructor
      · intro afterGood
        have seen := afterGood.2
        simp only [good.2, Bool.false_or, Bool.not_eq_false'] at seen
        exact seen
      · intro ready
        exact ⟨(whole_iff_keeps good.1 _ rfl (List.Subset.refl _)).mpr (keeps_of_eq frame_eq),
          by simp [good.2, ready]⟩
  | capturing =>
      refine iff_of_true (good.of_same rfl rfl ?_ rfl) trivial
      dsimp only
      split
      · exact List.subset_append_left _ _
      · exact List.Subset.refl _
  | exited => exact iff_of_true good trivial
  | reading => exact iff_of_true (good.of_same rfl rfl (List.Subset.refl _) rfl) trivial
  | creating => exact iff_of_true (good.of_same rfl rfl (List.Subset.refl _) rfl) trivial
  | settingPara => exact iff_of_true (good.of_same rfl rfl (List.Subset.refl _) rfl) trivial
  | testing => exact iff_of_true (good.of_same rfl rfl (List.Subset.refl _) rfl) trivial
  | settingInfo => exact iff_of_true (good.of_same rfl rfl (List.Subset.refl _) rfl) trivial
  | unblocking => exact iff_of_true (good.of_same rfl rfl (List.Subset.refl _) rfl) trivial
  | reporting => exact iff_of_true (good.of_same rfl rfl (List.Subset.refl _) rfl) trivial

/-- A call lends a whole frame if the memory shows one. -/
theorem good_lend_iff
    (good : system.Good)
    {capturer : CapturerPortable}
    (fits : system.Fits capturer) :
    (system.finishCall (.ok ⟨system.memory.captureFrameInfo.length, capturer.width,
        capturer.height,
        system.memory.captureFrame.take system.memory.captureFrameInfo.length⟩)).Good ↔
      ∃ frame ∈ system.captures, system.memory.Shows frame := by
  obtain ⟨width_eq, height_eq⟩ := fits
  constructor
  · intro afterGood
    obtain ⟨_, frame, member, data_eq, fits⟩ := afterGood.1 _ rfl
    exact ⟨frame, member, data_eq.symm, fits.1.trans width_eq.symm, fits.2.trans height_eq.symm⟩
  · rintro ⟨frame, member, data_eq, fits⟩
    refine ⟨fun lent isLent => ?_, good.2⟩
    obtain rfl := Option.some.inj isLent
    exact ⟨rfl, frame, member, data_eq.symm, fits.1.trans width_eq, fits.2.trans height_eq⟩

/-- A frame that is returned is what the memory shows then. -/
theorem good_mainStep_iff
    (orderly : Orderly system)
    (good : system.Good)
    {capturer : CapturerPortable}
    (isCapturer : system.main.capturer = some capturer) :
    (system.mainStep capturer).Good ↔ system.Undisturbed .main := by
  unfold System.mainStep System.Undisturbed
  cases phase_eq : system.main.phase with
  | idle => exact iff_of_true good (by rintro ⟨⟩)
  | testing =>
      refine iff_of_true ?_ (by rintro ⟨⟩)
      dsimp only
      split
      case isTrue ready =>
        refine good.of_same ?_ rfl (List.Subset.refl _) rfl
        rw [SharedMemory.counterReady_snd _ ready]
      case isFalse => exact good.of_same rfl rfl (List.Subset.refl _) rfl
  | readingWouldblock => exact iff_of_true (good.of_unused rfl rfl) (by rintro ⟨⟩)
  | readingInfo =>
      dsimp only
      split
      case isTrue other =>
        refine iff_of_true (good.of_unused rfl rfl) fun _ _ found isFound fits => ?_
        obtain rfl := Option.some.inj (isCapturer.symm.trans isFound)
        rcases other with width | height
        · exact absurd fits.1 width
        · exact absurd fits.2 height
      case isFalse same =>
        have fits : system.Fits capturer := by
          simpa [System.Fits] using same
        rw [good_lend_iff good fits]
        constructor
        · intro shown _ _ _ _ _
          exact shown
        · intro undisturbed
          cases torn : system.isTorn with
          | false => exact orderly.shown torn
          | true => exact undisturbed rfl torn capturer isCapturer fits

theorem good_step_iff
    (orderly : Orderly system)
    (good : system.Good)
    (event : Event) :
    (system.step event).Good ↔ system.Undisturbed event := by
  cases event with
  | capture finding => exact good_captureStep_iff orderly good finding
  | new currentDisplay displays =>
      simp only [System.step, System.Undisturbed]
      split
      case isTrue idle =>
        have whole_iff := whole_iff_keeps good.1
          (system.newCapturer currentDisplay displays) rfl (List.Subset.refl _)
        constructor
        · intro afterGood _
          exact whole_iff.mp afterGood.1
        · intro keeps
          exact ⟨whole_iff.mpr (keeps idle), good.2⟩
      case isFalse busy => exact iff_of_true good fun idle => absurd idle busy
  | frame timeoutMs =>
      refine iff_of_true ?_ trivial
      simp only [System.step]
      split
      · exact good.of_unused rfl rfl
      · exact good
  | main =>
      simp only [System.step]
      split
      case h_1 capturer isCapturer => exact good_mainStep_iff orderly good isCapturer
      case h_2 isNone =>
        refine iff_of_true good fun _ _ capturer isCapturer => ?_
        rw [isNone] at isCapturer
        cases isCapturer

theorem good_new (size : Nat) : (System.new size).Good :=
  ⟨fun _ isLent => (Option.not_mem_none _ isLent).elim, rfl⟩

end System

/-- A frame is captured, returned, and the next one is captured. -/
def secondFrame : List Event :=
  let goOn : Event := .capture .nothing
  [.new 0 (some [⟨1, 1⟩]),
    goOn, .capture (.displays (some [⟨1, 1⟩]) true), goOn, goOn,
    .capture (.pixelBuffer [1, 1, 1, 1]), goOn, goOn, goOn, goOn,
    .frame 33, .main, .main,
    goOn, goOn, .capture (.pixelBuffer [2, 2, 2, 2]), goOn, goOn]

end PortableService
end Server
end OneDesk
