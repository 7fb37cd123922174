import OneDesk.Lib.Run
import OneDesk.Video.Codec

/-!
# Recordings

`libs/scrap/src/common/record.rs`: frames are written to a file until their size, their codec or
the direction of time changes, which begins a new file.  The times are chosen by the peer and are
counted in nanoseconds in a file.
-/

namespace OneDesk
namespace Video

open OneDesk.Lib

/-- `EncodedVideoFrame` -/
structure EncodedVideoFrame where
  data : List UInt8
  key : Bool
  /-- In milliseconds. -/
  pts : Int64
  deriving DecidableEq

/-- `video_frame::Union`; what is not encoded is `raw`. -/
inductive FrameUnion
  | vp8s (frames : List EncodedVideoFrame)
  | vp9s (frames : List EncodedVideoFrame)
  | av1s (frames : List EncodedVideoFrame)
  | h264s (frames : List EncodedVideoFrame)
  | h265s (frames : List EncodedVideoFrame)
  | raw
  deriving DecidableEq

/-- `CodecFormat::from` -/
def FrameUnion.format : FrameUnion → CodecFormat
  | .vp8s _ => .vp8
  | .vp9s _ => .vp9
  | .av1s _ => .av1
  | .h264s _ => .h264
  | .h265s _ => .h265
  | .raw => .unknown

/-- `RecorderContext2` -/
structure RecorderContext2 where
  filename : String
  width : Nat
  height : Nat
  format : CodecFormat
  deriving DecidableEq

/-- A frame that is handed to a file. -/
structure Written where
  /-- The number of frames that were handed to files before. -/
  number : Nat
  frame : EncodedVideoFrame
  /-- The size and the codec of the call. -/
  width : Nat
  height : Nat
  format : CodecFormat
  /-- The time in nanoseconds. -/
  time : UInt64
  deriving DecidableEq

/-- A file of the `webm` crate. -/
structure Mux where
  /-- `VideoTrack::add_frame`, with the frames before. -/
  addFrame : List Written → Written → Bool
  /-- A frame is taken unless it is before another one. -/
  takes : ∀ frames frame, (∀ earlier ∈ frames, earlier.time ≤ frame.time) →
    addFrame frames frame = true

/-- `WebmRecorder`, with the frames of its file. -/
structure WebmRecorder where
  ctx2 : RecorderContext2
  key : Bool
  frames : List Written
  deriving DecidableEq

/-- `Box<dyn RecorderApi>`; what a hardware muxer writes is not followed. -/
inductive RecorderApi
  | webm (recorder : WebmRecorder)
  | hw (ctx2 : RecorderContext2)
  deriving DecidableEq

/-- `Recorder`.  What it tells the user interface is left out, and whether a file that is
dropped is removed again. -/
structure Recorder where
  inner : Option RecorderApi
  ctx2 : Option RecorderContext2
  pts : Option Int64
  checkFailed : Bool
  /-- The files that were dropped. -/
  dropped : List WebmRecorder
  /-- The number of frames that were handed to files. -/
  handed : Nat

/-- How creating a file goes. -/
structure Attempt where
  /-- `RecorderContext2::set_filename` -/
  setFilename : Except String String
  /-- `new` of the recorder of the file. -/
  create : Except String Unit

/-- `frame.pts as u64 * 1_000_000` -/
def nanoseconds (pts : Int64) : UInt64 := pts.toUInt64 * 1000000

/-- `WebmRecorder::write_video` -/
def WebmRecorder.writeVideo (mux : Mux) (recorder : WebmRecorder) (entry : Written) :
    WebmRecorder :=
  let key := recorder.key || entry.frame.key
  if key then
    if mux.addFrame recorder.frames entry then
      { recorder with key := key, frames := recorder.frames ++ [entry] }
    else { recorder with key := key }
  else recorder

/-- A recorder of a new file. -/
def newInner (hwcodec : Bool) (attempt : Attempt) (ctx2 : RecorderContext2) :
    CodecFormat → Except String RecorderApi
  | .vp8 | .vp9 | .av1 => attempt.create.map fun () => .webm ⟨ctx2, false, []⟩
  | .h264 | .h265 | .unknown =>
      if hwcodec then attempt.create.map fun () => .hw ctx2
      else .error "unsupported codec type"

namespace Recorder

/-- `Recorder::new` -/
def new : Recorder := ⟨none, none, none, false, [], 0⟩

/-- `self.inner = None` -/
def dropInner (recorder : Recorder) : Recorder :=
  match recorder.inner with
  | some (.webm file) => { recorder with inner := none, dropped := recorder.dropped ++ [file] }
  | _ => { recorder with inner := none }

section Calls

variable (mux : Mux) (hwcodec : Bool)

/-- The size and the codec are those of the file. -/
def sameContext (w h : Nat) (format : CodecFormat) (ctx2 : RecorderContext2) : Bool :=
  ctx2.width = w ∧ ctx2.height = h ∧ ctx2.format = format

/-- The first part of `Recorder::check`: the context is that of the call. -/
def checkContext
    (attempt : Attempt)
    (w h : Nat)
    (format : CodecFormat)
    (recorder : Recorder) : Except String Recorder :=
  if recorder.ctx2.any (sameContext w h format) then .ok recorder
  else
    match attempt.setFilename with
    | .error error => .error error
    | .ok filename => .ok { recorder.dropInner with ctx2 := some ⟨filename, w, h, format⟩ }

/-- `Recorder::check` -/
def check
    (attempt : Attempt)
    (w h : Nat)
    (format : CodecFormat)
    (recorder : Recorder) : Except String Unit × Recorder :=
  match recorder.checkContext attempt w h format with
  | .error error => (.error error, recorder)
  | .ok recorder =>
      match recorder.ctx2 with
      | none => (.error "ctx2 is None", recorder)
      | some ctx2 =>
          match recorder.inner with
          | some _ => (.ok (), recorder)
          | none =>
              match newInner hwcodec attempt ctx2 format with
              | .error error => (.error error, recorder)
              -- pts is None when a new inner is created.
              | .ok inner => (.ok (), { recorder with inner := some inner, pts := none })

/-- `Recorder::check_pts` -/
def checkPts
    (attempt : Attempt)
    (frame : EncodedVideoFrame)
    (w h : Nat)
    (format : CodecFormat)
    (recorder : Recorder) : Except String Unit × Recorder :=
  if recorder.pts = none ∧ frame.key = false then
    (.error "first frame is not key frame", recorder)
  else
    let oldPts := recorder.pts
    let recorder := { recorder with pts := some frame.pts }
    if oldPts.getD 0 > frame.pts then
      match check hwcodec attempt w h format { recorder.dropInner with ctx2 := none } with
      | (.error error, recorder) => (.error error, { recorder with checkFailed := true })
      | (.ok (), recorder) => (.ok (), { recorder with pts := some frame.pts })
    else (.ok (), recorder)

/-- `self.as_mut().map(|x| x.write_video(f))` -/
def writeVideo
    (frame : EncodedVideoFrame)
    (w h : Nat)
    (format : CodecFormat)
    (recorder : Recorder) : Recorder :=
  match recorder.inner with
  | some (.webm file) =>
      let entry : Written := ⟨recorder.handed, frame, w, h, format, nanoseconds frame.pts⟩
      { recorder with
        inner := some (.webm (file.writeVideo mux entry))
        handed := recorder.handed + 1 }
  | _ => { recorder with handed := recorder.handed + 1 }

/-- The loop of `Recorder::write_frame`, where creating a file goes as told for each frame. -/
def writeFrames
    (attempts : Nat → Attempt)
    (w h : Nat)
    (format : CodecFormat) :
    List EncodedVideoFrame → Nat → Recorder → Except String Unit × Recorder
  | [], _, recorder => (.ok (), recorder)
  | frame :: frames, place, recorder =>
      match checkPts hwcodec (attempts place) frame w h format recorder with
      | (.error error, recorder) => (.error error, recorder)
      | (.ok (), recorder) =>
          writeFrames attempts w h format frames (place + 1)
            (recorder.writeVideo mux frame w h format)

/-- A call of `Recorder::write_frame`, with how creating files goes in it. -/
structure Call where
  frame : FrameUnion
  w : Nat
  h : Nat
  attempts : Nat → Attempt

/-- The frames that are written to files. -/
def framesOf : FrameUnion → Option (List EncodedVideoFrame)
  | .vp8s frames | .vp9s frames | .av1s frames => some frames
  | .h264s frames | .h265s frames => if hwcodec then some frames else none
  | .raw => none

/-- `Recorder::write_frame` -/
def writeFrame (recorder : Recorder) (call : Call) : Except String Unit × Recorder :=
  if recorder.checkFailed then (.error "check failed", recorder)
  else if call.frame.format = .unknown then (.error "unsupported frame type", recorder)
  else
    match check hwcodec (call.attempts 0) call.w call.h call.frame.format recorder with
    | (.error error, recorder) => (.error error, { recorder with checkFailed := true })
    | (.ok (), recorder) =>
        match framesOf hwcodec call.frame with
        | none => (.error "unsupported frame type", recorder)
        | some frames =>
            writeFrames mux hwcodec call.attempts call.w call.h call.frame.format frames 1 recorder

/-- One call. -/
def step (recorder : Recorder) (call : Call) : Recorder :=
  (recorder.writeFrame mux hwcodec call).2

end Calls

/-! ## Well-formed files -/

/-- The files with the frames that they have, the last of which may still be written. -/
def files (recorder : Recorder) : List WebmRecorder :=
  match recorder.inner with
  | some (.webm file) => recorder.dropped ++ [file]
  | _ => recorder.dropped

end Recorder

/-- A file has frames of one codec and one size, begins with a key frame, and has times that do
not decrease and are those of the frames in nanoseconds. -/
structure WebmRecorder.WellFormed (file : WebmRecorder) : Prop where
  uniform : ∀ entry ∈ file.frames, entry.width = file.ctx2.width ∧
    entry.height = file.ctx2.height ∧ entry.format = file.ctx2.format
  begins : ∀ entry, file.frames.head? = some entry → entry.frame.key = true
  times : file.frames.Pairwise fun earlier later => earlier.time ≤ later.time
  exact : ∀ entry ∈ file.frames, (entry.time.toNat : Int) = entry.frame.pts.toInt * 1000000

/-- The time of a frame can be counted in nanoseconds. -/
def PtsInRange (pts : Int64) : Prop := 0 ≤ pts ∧ pts ≤ 18446744073709

namespace Recorder

/-- All files are well formed, and every frame is in at most one of them, in the order given. -/
structure WellFormed (recorder : Recorder) : Prop where
  files : ∀ file ∈ recorder.files, file.WellFormed
  ordered : (recorder.files.flatMap WebmRecorder.frames).Pairwise fun earlier later =>
    earlier.number < later.number

/-- A frame is kept: it is a key frame, or one came before it in the file. -/
def keeps (recorder : Recorder) (frame : EncodedVideoFrame) : Bool :=
  match recorder.inner with
  | some (.webm file) => file.key || frame.key
  | _ => false

section Condition

variable (mux : Mux) (hwcodec : Bool)

/-- The frames of a call that are kept are in range. -/
def FramesInRange
    (attempts : Nat → Attempt)
    (w h : Nat)
    (format : CodecFormat) : List EncodedVideoFrame → Nat → Recorder → Prop
  | [], _, _ => True
  | frame :: frames, place, recorder =>
      match checkPts hwcodec (attempts place) frame w h format recorder with
      | (.error _, _) => True
      | (.ok (), recorder) =>
          (recorder.keeps frame = true → PtsInRange frame.pts) ∧
            FramesInRange attempts w h format frames (place + 1)
              (recorder.writeVideo mux frame w h format)

/-- What a call writes to files is in range. -/
def CallInRange (recorder : Recorder) (call : Call) : Prop :=
  recorder.checkFailed = false → call.frame.format ≠ .unknown →
    match check hwcodec (call.attempts 0) call.w call.h call.frame.format recorder with
    | (.error _, _) => True
    | (.ok (), recorder) =>
        ∀ frames, framesOf hwcodec call.frame = some frames →
          FramesInRange mux hwcodec call.attempts call.w call.h call.frame.format frames 1 recorder

end Condition

/-! ## The invariant -/

/-- What holds of a recorder whose frames were in range. -/
structure Sound (recorder : Recorder) : Prop extends WellFormed recorder where
  counted : ∀ entry ∈ recorder.files.flatMap WebmRecorder.frames, entry.number < recorder.handed
  context : ∀ file, recorder.inner = some (.webm file) → recorder.ctx2 = some file.ctx2
  key : ∀ file, recorder.inner = some (.webm file) → (file.key = true ↔ file.frames ≠ [])
  latest : ∀ file, recorder.inner = some (.webm file) → ∀ entry ∈ file.frames,
    ∃ pts, recorder.pts = some pts ∧ entry.frame.pts ≤ pts

theorem sound_new : new.Sound where
  files := fun _ member => absurd member List.not_mem_nil
  ordered := List.Pairwise.nil
  counted := fun _ member => absurd member List.not_mem_nil
  context := by
    rintro file ⟨⟩
  key := by
    rintro file ⟨⟩
  latest := by
    rintro file ⟨⟩

theorem inner_dropInner (recorder : Recorder) : recorder.dropInner.inner = none := by
  obtain ⟨_ | _ | _, _, _, _, _, _⟩ := recorder <;> rfl

variable {recorder next : Recorder}

/-- Without a file that is written, only the dropped files count. -/
theorem Sound.idle
    (sound : recorder.Sound)
    (files : next.files = recorder.files)
    (handed : next.handed = recorder.handed)
    (inner : ∀ file, next.inner ≠ some (.webm file)) :
    next.Sound where
  files := by
    rw [files]
    exact sound.files
  ordered := by
    rw [files]
    exact sound.ordered
  counted := by
    rw [files, handed]
    exact sound.counted
  context := fun file isFile => absurd isFile (inner file)
  key := fun file isFile => absurd isFile (inner file)
  latest := fun file isFile => absurd isFile (inner file)

/-- A file without frames may be begun. -/
theorem Sound.begun
    (sound : recorder.Sound)
    (idle : recorder.inner = none)
    {ctx2 : RecorderContext2}
    (context : recorder.ctx2 = some ctx2)
    {inner : RecorderApi}
    (isNew : inner = .webm ⟨ctx2, false, []⟩ ∨ inner = .hw ctx2) :
    ({ recorder with inner := some inner, pts := none } : Recorder).Sound := by
  have before : recorder.files = recorder.dropped := by
    unfold files
    rw [idle]
  rcases isNew with rfl | rfl
  · have frames : ({ recorder with
        inner := some (.webm ⟨ctx2, false, []⟩), pts := none } : Recorder).files.flatMap
          WebmRecorder.frames = recorder.files.flatMap WebmRecorder.frames := by
      rw [before, files, List.flatMap_append]
      exact List.append_nil _
    refine ⟨⟨?_, ?_⟩, ?_, ?_, ?_, ?_⟩
    · intro file member
      rcases List.mem_append.mp member with isDropped | isLast
      · exact sound.files file (before ▸ isDropped)
      · rw [List.mem_singleton.mp isLast]
        exact ⟨fun _ none => absurd none List.not_mem_nil, fun _ none => (by cases none),
          List.Pairwise.nil, fun _ none => absurd none List.not_mem_nil⟩
    · rw [frames]
      exact sound.ordered
    · rw [frames]
      exact sound.counted
    · rintro file ⟨⟩
      exact context
    · rintro file ⟨⟩
      simp
    · rintro file ⟨⟩ entry member
      cases member
  · refine sound.idle before.symm rfl ?_
    rintro file ⟨⟩

theorem newInner_eq_ok
    {hwcodec : Bool}
    {attempt : Attempt}
    {ctx2 : RecorderContext2}
    {format : CodecFormat}
    {inner : RecorderApi}
    (made : newInner hwcodec attempt ctx2 format = .ok inner) :
    inner = .webm ⟨ctx2, false, []⟩ ∨ inner = .hw ctx2 := by
  have created : ∀ other : RecorderApi,
      (attempt.create.map fun () => other) = .ok inner → inner = other := by
    intro other
    cases attempt.create with
    | error error => rintro ⟨⟩
    | ok done =>
        rintro ⟨⟩
        rfl
  unfold newInner at made
  split at made
  case h_1 | h_2 | h_3 => exact .inl (created _ made)
  all_goals
    split at made
    · exact .inr (created _ made)
    · cases made

variable
  {mux : Mux}
  {hwcodec : Bool}
  {attempt : Attempt}
  {w h : Nat}
  {format : CodecFormat}
  {frame : EncodedVideoFrame}

/-- The context is that of a call. -/
def HasContext (w h : Nat) (format : CodecFormat) (recorder : Recorder) : Prop :=
  ∃ ctx2, recorder.ctx2 = some ctx2 ∧ ctx2.width = w ∧ ctx2.height = h ∧ ctx2.format = format

/-- A recorder that dropped its file. -/
theorem Sound.emptied
    (sound : recorder.Sound)
    (ctx2 : Option RecorderContext2)
    (pts : Option Int64) :
    ({ recorder.dropInner with ctx2 := ctx2, pts := pts } : Recorder).Sound := by
  obtain ⟨_ | file | _, _, _, _, _, _⟩ := recorder
  · exact sound.idle rfl rfl (by rintro file ⟨⟩)
  · exact sound.idle rfl rfl (by rintro file ⟨⟩)
  · exact sound.idle rfl rfl (by rintro file ⟨⟩)

theorem Sound.checkContext
    (sound : recorder.Sound)
    (checked : recorder.checkContext attempt w h format = .ok next) :
    next.Sound ∧ next.HasContext w h format := by
  unfold Recorder.checkContext at checked
  cases isContext : recorder.ctx2.any (sameContext w h format) with
  | true =>
      rw [isContext] at checked
      cases checked
      obtain ⟨ctx2, isCtx2, same⟩ := (Option.any_eq_true _ _).mp isContext
      exact ⟨sound, ctx2, isCtx2, of_decide_eq_true same⟩
  | false =>
      rw [isContext, if_neg Bool.false_ne_true] at checked
      split at checked
      · cases checked
      · cases checked
        exact ⟨sound.emptied _ _, _, rfl, rfl, rfl, rfl⟩

/-- A check leaves the files well formed, and the context is that of the call if it succeeds. -/
theorem Sound.check
    (sound : recorder.Sound)
    {result : Except String Unit}
    (checked : recorder.check hwcodec attempt w h format = (result, next)) :
    next.Sound ∧ (result = .ok () → next.HasContext w h format) := by
  unfold Recorder.check at checked
  split at checked
  · cases checked
    exact ⟨sound, fun ok => (by cases ok)⟩
  · next inContext isContext =>
      obtain ⟨soundContext, has⟩ := sound.checkContext isContext
      split at checked
      · cases checked
        exact ⟨soundContext, fun ok => (by cases ok)⟩
      · next ctx2 isCtx2 =>
          split at checked
          · cases checked
            exact ⟨soundContext, fun _ => has⟩
          · next idle =>
              split at checked
              · cases checked
                exact ⟨soundContext, fun ok => (by cases ok)⟩
              · next inner made =>
                  cases checked
                  exact ⟨soundContext.begun idle isCtx2 (newInner_eq_ok made), fun _ => has⟩

theorem Sound.failed (sound : recorder.Sound) :
    ({ recorder with checkFailed := true } : Recorder).Sound :=
  ⟨⟨sound.files, sound.ordered⟩, sound.counted, sound.context, sound.key, sound.latest⟩

/-- A check that begins a file forgets the time. -/
theorem pts_check
    (idle : recorder.inner = none)
    (checked : recorder.check hwcodec attempt w h format = (.ok (), next)) :
    next.pts = none := by
  unfold Recorder.check at checked
  split at checked
  · cases checked
  · next inContext isContext =>
      have stillIdle : inContext.inner = none := by
        unfold Recorder.checkContext at isContext
        split at isContext
        · cases isContext
          exact idle
        · split at isContext
          · cases isContext
          · cases isContext
            exact inner_dropInner recorder
      split at checked
      · cases checked
      · rw [stillIdle] at checked
        dsimp only at checked
        split at checked
        · cases checked
        · cases checked
          rfl

/-- A later time is noted. -/
theorem Sound.later
    (sound : recorder.Sound)
    {pts : Int64}
    (notBefore : ∀ before, recorder.pts = some before → before ≤ pts) :
    ({ recorder with pts := some pts } : Recorder).Sound where
  files := sound.files
  ordered := sound.ordered
  counted := sound.counted
  context := sound.context
  key := sound.key
  latest := by
    intro file isFile entry member
    obtain ⟨before, isBefore, atMost⟩ := sound.latest file isFile entry member
    exact ⟨pts, rfl, Int64.le_trans atMost (notBefore before isBefore)⟩

/-- The check of the time leaves the files well formed, and the time is noted if it succeeds. -/
theorem Sound.checkPts
    (sound : recorder.Sound)
    (has : recorder.HasContext w h format)
    {result : Except String Unit}
    (checked : recorder.checkPts hwcodec attempt frame w h format = (result, next)) :
    next.Sound ∧
      (result = .ok () → next.HasContext w h format ∧ next.pts = some frame.pts) := by
  unfold Recorder.checkPts at checked
  split at checked
  · cases checked
    exact ⟨sound, fun ok => (by cases ok)⟩
  · dsimp only at checked
    split at checked
    · have emptied := sound.emptied none (some frame.pts)
      have same : ({ { recorder with pts := some frame.pts }.dropInner with
          ctx2 := none } : Recorder) =
            { recorder.dropInner with ctx2 := none, pts := some frame.pts } := by
        obtain ⟨_ | _ | _, _, _, _, _, _⟩ := recorder <;> rfl
      rw [same] at checked
      split at checked
      · next error failed isFailed =>
          cases checked
          exact ⟨(emptied.check isFailed).1.failed, fun ok => (by cases ok)⟩
      · next opened isOpened =>
          cases checked
          obtain ⟨soundOpened, hasOpened⟩ := emptied.check isOpened
          have idle : ({ recorder.dropInner with
              ctx2 := none, pts := some frame.pts } : Recorder).inner = none :=
            inner_dropInner recorder
          have fresh := pts_check idle isOpened
          refine ⟨soundOpened.later fun before isBefore => ?_, fun _ => ⟨hasOpened rfl, rfl⟩⟩
          rw [fresh] at isBefore
          cases isBefore
    · next notBefore =>
        cases checked
        refine ⟨sound.later fun before isBefore => ?_, fun _ => ⟨has, rfl⟩⟩
        rwa [isBefore, Option.getD_some, gt_iff_lt, Int64.not_lt] at notBefore

/-! ## Writing a frame -/

/-- Where the time can be counted in nanoseconds, it is. -/
theorem toNat_nanoseconds {pts : Int64} (inRange : PtsInRange pts) :
    ((nanoseconds pts).toNat : Int) = pts.toInt * 1000000 := by
  obtain ⟨notNegative, small⟩ := inRange
  have low : 0 ≤ pts.toInt := Int64.le_iff_toInt_le.mp notNegative
  have high : pts.toInt ≤ 18446744073709 := Int64.le_iff_toInt_le.mp small
  have clamped : (pts.toUInt64.toNat : Int) = pts.toInt := by
    rw [Int64.toNat_toUInt64_of_le notNegative, Int64.toNatClampNeg]
    exact Int.toNat_of_nonneg low
  have fits : pts.toUInt64.toNat * 1000000 < 2 ^ 64 := by omega
  rw [nanoseconds, UInt64.toNat_mul]
  have factor : (1000000 : UInt64).toNat = 1000000 := rfl
  rw [factor, Nat.mod_eq_of_lt fits, Int.natCast_mul, clamped]
  rfl

/-- The file after a frame that is kept. -/
theorem writeVideo_of_keeps
    {file : WebmRecorder}
    {entry : Written}
    (kept : (file.key || entry.frame.key) = true)
    (inOrder : ∀ earlier ∈ file.frames, earlier.time ≤ entry.time) :
    file.writeVideo mux entry = ⟨file.ctx2, true, file.frames ++ [entry]⟩ := by
  rw [WebmRecorder.writeVideo, if_pos kept, if_pos (mux.takes file.frames entry inOrder), kept]

/-- A frame behind others that are in order keeps the file well formed. -/
theorem wellFormed_concat
    {file : WebmRecorder}
    {entry : Written}
    (wellFormed : file.WellFormed)
    (context : entry.width = file.ctx2.width ∧ entry.height = file.ctx2.height ∧
      entry.format = file.ctx2.format)
    (begins : file.frames = [] → entry.frame.key = true)
    (inOrder : ∀ earlier ∈ file.frames, earlier.time ≤ entry.time)
    (inNanoseconds : (entry.time.toNat : Int) = entry.frame.pts.toInt * 1000000) :
    (⟨file.ctx2, true, file.frames ++ [entry]⟩ : WebmRecorder).WellFormed where
  uniform := by
    intro other member
    rcases List.mem_append.mp member with earlier | isLast
    · exact wellFormed.uniform other earlier
    · rw [List.mem_singleton.mp isLast]
      exact context
  begins := by
    intro first isFirst
    dsimp only at isFirst
    cases frames : file.frames with
    | nil =>
        rw [frames] at isFirst
        cases isFirst
        exact begins frames
    | cons head rest =>
        rw [frames] at isFirst
        cases isFirst
        exact wellFormed.begins first (by rw [frames]; rfl)
  times := by
    dsimp only
    rw [List.pairwise_append]
    refine ⟨wellFormed.times, List.pairwise_singleton _ _, ?_⟩
    intro earlier member last isLast
    rw [List.mem_singleton.mp isLast]
    exact inOrder earlier member
  exact := by
    intro other member
    rcases List.mem_append.mp member with earlier | isLast
    · exact wellFormed.exact other earlier
    · rw [List.mem_singleton.mp isLast]
      exact inNanoseconds

theorem Sound.more (sound : recorder.Sound) :
    ({ recorder with handed := recorder.handed + 1 } : Recorder).Sound where
  files := sound.files
  ordered := sound.ordered
  counted := fun entry member => (sound.counted entry member).trans (Nat.lt_succ_self _)
  context := sound.context
  key := sound.key
  latest := sound.latest

/-- A frame that is kept is the last of all. -/
theorem Sound.concat
    (sound : recorder.Sound)
    {file : WebmRecorder}
    (inner : recorder.inner = some (.webm file))
    {entry : Written}
    (number : entry.number = recorder.handed)
    (wellFormed : (⟨file.ctx2, true, file.frames ++ [entry]⟩ : WebmRecorder).WellFormed)
    (isLatest : recorder.pts = some entry.frame.pts) :
    ({ recorder with
      inner := some (.webm ⟨file.ctx2, true, file.frames ++ [entry]⟩)
      handed := recorder.handed + 1 } : Recorder).Sound := by
  have before : recorder.files = recorder.dropped ++ [file] := by
    unfold Recorder.files
    rw [inner]
  have frames : ({ recorder with
      inner := some (.webm ⟨file.ctx2, true, file.frames ++ [entry]⟩)
      handed := recorder.handed + 1 } : Recorder).files.flatMap WebmRecorder.frames =
        recorder.files.flatMap WebmRecorder.frames ++ [entry] := by
    rw [before]
    simp [Recorder.files]
  refine ⟨⟨?_, ?_⟩, ?_, ?_, ?_, ?_⟩
  · intro other member
    rcases List.mem_append.mp member with isDropped | isLast
    · refine sound.files other ?_
      rw [before]
      exact List.mem_append_left _ isDropped
    · rw [List.mem_singleton.mp isLast]
      exact wellFormed
  · rw [frames, List.pairwise_append]
    refine ⟨sound.ordered, List.pairwise_singleton _ _, ?_⟩
    intro earlier member last isLast
    rw [List.mem_singleton.mp isLast, number]
    exact sound.counted earlier member
  · intro other member
    rw [frames] at member
    rcases List.mem_append.mp member with earlier | isLast
    · exact (sound.counted other earlier).trans (Nat.lt_succ_self _)
    · rw [List.mem_singleton.mp isLast, number]
      exact Nat.lt_succ_self _
  · rintro other ⟨⟩
    exact sound.context file inner
  · rintro other ⟨⟩
    simp
  · rintro other ⟨⟩ written member
    rcases List.mem_append.mp member with earlier | isLast
    · exact sound.latest file inner written earlier
    · rw [List.mem_singleton.mp isLast]
      exact ⟨_, isLatest, Int64.le_refl _⟩

/-- A frame in range that is written keeps all files well formed. -/
theorem Sound.writeVideo
    (sound : recorder.Sound)
    (has : recorder.HasContext w h format)
    (isLatest : recorder.pts = some frame.pts)
    (inRange : recorder.keeps frame = true → PtsInRange frame.pts) :
    (recorder.writeVideo mux frame w h format).Sound ∧
      (recorder.writeVideo mux frame w h format).HasContext w h format := by
  unfold Recorder.writeVideo
  split
  · next file inner =>
      refine ⟨?_, has⟩
      dsimp only
      unfold keeps at inRange
      rw [inner] at inRange
      cases kept : file.key || frame.key with
      | false =>
          have same : file.writeVideo mux ⟨recorder.handed, frame, w, h, format,
              nanoseconds frame.pts⟩ = file := by
            rw [WebmRecorder.writeVideo, if_neg (Bool.not_eq_true _ ▸ kept)]
          rw [same, ← inner]
          exact sound.more
      | true =>
          have rangeHere := inRange kept
          have wellFormed : file.WellFormed := by
            refine sound.files file ?_
            unfold Recorder.files
            rw [inner]
            exact List.mem_append_right _ List.mem_cons_self
          have inOrder : ∀ earlier ∈ file.frames, earlier.time ≤ nanoseconds frame.pts := by
            intro earlier member
            obtain ⟨pts, isPts, atMost⟩ := sound.latest file inner earlier member
            rw [isLatest, Option.some.injEq] at isPts
            subst isPts
            have less := Int64.le_iff_toInt_le.mp atMost
            rw [UInt64.le_iff_toNat_le, ← Int.ofNat_le, wellFormed.exact earlier member,
              toNat_nanoseconds rangeHere]
            omega
          rw [writeVideo_of_keeps kept inOrder]
          refine sound.concat inner rfl (wellFormed_concat wellFormed ?_ ?_ inOrder
            (toNat_nanoseconds rangeHere)) isLatest
          · obtain ⟨ctx2, isCtx2, width, height, isFormat⟩ := has
            rw [sound.context file inner, Option.some.injEq] at isCtx2
            subst isCtx2
            exact ⟨width.symm, height.symm, isFormat.symm⟩
          · intro empty
            have noKey : file.key = false := by
              rw [← Bool.not_eq_true, sound.key file inner]
              exact not_not.mpr empty
            rwa [noKey, Bool.false_or] at kept
  · exact ⟨sound.more, has⟩

/-! ## Every run -/

/-- The frames of a call keep all files well formed if those that are kept are in range. -/
theorem Sound.writeFrames
    {attempts : Nat → Attempt}
    {frames : List EncodedVideoFrame}
    (sound : recorder.Sound)
    (has : recorder.HasContext w h format)
    {place : Nat}
    (inRange : recorder.FramesInRange mux hwcodec attempts w h format frames place) :
    (recorder.writeFrames mux hwcodec attempts w h format frames place).2.Sound := by
  induction frames generalizing recorder place with
  | nil => exact sound
  | cons frame frames inductionHypothesis =>
      rw [Recorder.writeFrames]
      rw [FramesInRange] at inRange
      split at inRange
      · next error failed isFailed => exact (sound.checkPts has isFailed).1
      · next passed isPassed =>
          obtain ⟨soundPassed, ready⟩ := sound.checkPts has isPassed
          obtain ⟨hasPassed, isLatest⟩ := ready rfl
          obtain ⟨here, rest⟩ := inRange
          obtain ⟨soundWritten, hasWritten⟩ :=
            soundPassed.writeVideo hasPassed isLatest here
          exact inductionHypothesis soundWritten hasWritten rest

/-- A call that is in range keeps all files well formed. -/
theorem Sound.step
    (sound : recorder.Sound)
    {call : Call}
    (inRange : recorder.CallInRange mux hwcodec call) :
    (recorder.step mux hwcodec call).Sound := by
  unfold Recorder.step writeFrame
  unfold CallInRange at inRange
  split
  · exact sound
  · next working =>
      split
      · exact sound
      · next known =>
          have passes := inRange (Bool.not_eq_true _ ▸ working) known
          split at passes
          · next error failed isFailed => exact (sound.check isFailed).1.failed
          · next passed isPassed =>
              obtain ⟨soundPassed, has⟩ := sound.check isPassed
              split
              · exact soundPassed
              · next frames isFrames =>
                  exact soundPassed.writeFrames (has rfl) (passes frames isFrames)

/-- A file that takes every frame. -/
def takesAll : Mux := ⟨fun _ _ => true, fun _ _ _ => rfl⟩

/-- One key frame, with files that can be created. -/
def oneFrame (pts : Int64) : Call :=
  ⟨.vp9s [⟨[], true, pts⟩], 640, 480, fun _ => ⟨.ok "incoming", .ok ()⟩⟩

end Recorder

end Video
end OneDesk
