import OneDesk.Clipboard.ListedFiles
import OneDesk.Clipboard.ReadNode

/-!
# Ranges on the wire

A position in a file and a length travel in signed fields of 32 bits.  The reader cuts
them to these fields and the host extends them with their sign, so that they survive
exactly if the fields are not negative.
-/

namespace OneDesk
namespace Clipboard

open OneDesk.Stream

/-- The request that a host takes a message for. -/
def ClipboardFile.requested : ClipboardFile → Option FileContentsRequest
  | .fileContentsRequest streamId listIndex dwFlags nPositionLow nPositionHigh cbRequested
      _ _ =>
      ClipFiles.requestOf streamId listIndex dwFlags nPositionLow nPositionHigh cbRequested
  | .fileContentsResponse .. | .files _ | .other => none

/-- What a host answers to a message. -/
def ClipFiles.answersTo (disk : Disk) (clipFiles : ClipFiles) (connId : Int) :
    ClipboardFile → List (Except ServeError ClipboardFile)
  | .fileContentsRequest streamId listIndex dwFlags nPositionLow nPositionHigh cbRequested
      _ _ =>
      (clipFiles.readFileContents disk connId streamId listIndex dwFlags nPositionLow
        nPositionHigh cbRequested).1
  | .fileContentsResponse .. | .files _ | .other => []

/-- A read of a file reaches the host as the range it is for, and inside the file it is
answered with the bytes of this range up to the end of the file. -/
structure Survives (disk : Disk) (clipFiles : ClipFiles) (connId : Int) (node : FuseNode)
    (contents : Bytes) (offset : BitVec 64) (size : BitVec 32) : Prop where
  requested : (node.request offset size).requested =
    some (.range node.streamId node.index offset (size.setWidth 64))
  answered : offset.toNat ≤ contents.length →
    (clipFiles.answersTo disk connId (node.request offset size)).getLast? =
      some (.ok (.fileContentsResponse 0x1 node.streamId
        (slice contents offset.toNat size.toNat)))

/-! ## Fields of 32 bits -/

/-- The position a host puts together from the fields of a read. -/
def rejoined (offset : BitVec 64) : BitVec 64 :=
  ((offset.sshiftRight 32).setWidth 32).signExtend 64 <<< 32 |||
    ((offset &&& 0xFFFFFFFF).setWidth 32).signExtend 64

theorem getLsbD_lowMask (index : Nat) :
    (0xFFFFFFFF : BitVec 64).getLsbD index = decide (index < 32) := by
  rw [show (0xFFFFFFFF : BitVec 64) = (BitVec.allOnes 32).setWidth 64 by decide,
    BitVec.getLsbD_setWidth, BitVec.getLsbD_allOnes]
  by_cases low : index < 32
  · simp [low, Nat.lt_trans low (by decide : 32 < 64)]
  · simp [low]

/-- The sign of the lower half spills over into the upper half. -/
theorem getLsbD_rejoined
    (offset : BitVec 64)
    {index : Nat}
    (inside : index < 64) :
    (rejoined offset).getLsbD index =
      (offset.getLsbD index || (decide (32 ≤ index) && offset.getLsbD 31)) := by
  simp only [rejoined, BitVec.getLsbD_or, BitVec.getLsbD_shiftLeft,
    BitVec.getLsbD_signExtend, BitVec.getLsbD_setWidth, BitVec.getLsbD_sshiftRight,
    BitVec.getLsbD_and, getLsbD_lowMask, BitVec.msb_eq_getLsbD_last]
  rcases Nat.lt_or_ge index 32 with low | high
  · simp [low, inside]
  · have moved : 32 + (index - 32) = index := by omega
    have first : index - 32 < 64 := by omega
    have second : index - 32 < 32 := by omega
    have third : ¬64 ≤ index - 32 := by omega
    simp [inside, high, Nat.not_lt.mpr high, moved, first, second, third]

theorem getLsbD_31_iff (offset : BitVec 64) :
    offset.getLsbD 31 = false ↔ offset.toNat % 2 ^ 32 < 2 ^ 31 := by
  rw [← BitVec.testBit_toNat, Nat.testBit_eq_decide_div_mod_eq, decide_eq_false_iff_not]
  omega

/-- A position that is not negative survives exactly if its lower half is not negative. -/
theorem rejoined_eq_iff
    {offset : BitVec 64}
    (nonnegative : offset.msb = false) :
    rejoined offset = offset ↔ offset.toNat % 2 ^ 32 < 2 ^ 31 := by
  rw [← getLsbD_31_iff]
  rw [BitVec.msb_eq_getLsbD_last] at nonnegative
  constructor
  · intro survives
    have sign := getLsbD_rejoined offset (by decide : 63 < 64)
    rw [survives, nonnegative] at sign
    simpa using sign.symm
  · intro positive
    apply BitVec.eq_of_getLsbD_eq
    intro index inside
    rw [getLsbD_rejoined offset inside, positive, Bool.and_false, Bool.or_false]

/-- A length survives exactly if it is not negative. -/
theorem signExtend_eq_iff (size : BitVec 32) :
    size.signExtend 64 = size.setWidth 64 ↔ size.toNat < 2 ^ 31 := by
  have sign : size.msb = false ↔ size.toNat < 2 ^ 31 := by
    rw [BitVec.msb_eq_decide, decide_eq_false_iff_not]
    omega
  rw [← sign]
  constructor
  · intro survives
    have sameNumber := congrArg BitVec.toNat survives
    rw [BitVec.toNat_signExtend] at sameNumber
    cases negative : size.msb with
    | false => rfl
    | true =>
        rw [negative] at sameNumber
        simp at sameNumber
  · exact BitVec.signExtend_eq_setWidth_of_msb_false

theorem requested_request
    (node : FuseNode)
    (offset : BitVec 64)
    (size : BitVec 32) :
    (node.request offset size).requested =
      some (.range node.streamId (asUsize (BitVec.ofNat 32 node.index)) (rejoined offset)
        (size.signExtend 64)) :=
  rfl

/-! ## Ranges of a file -/

variable {disk : Disk} {clipFiles : ClipFiles} {file : LocalFile} {contents : Bytes}

/-- A range that begins inside a file is served exactly if the next file can be opened. -/
theorem ClipFiles.serveFileContents_range_iff
    (known : Known disk clipFiles.fileList)
    (connId : Int)
    (streamId : BitVec 32)
    {fileIdx : Nat}
    {offset length : BitVec 64}
    (isFile : clipFiles.fileList[fileIdx]? = some file)
    (noDirectory : file.isDir = false)
    (readable : disk.contents file.path = .ok contents)
    (inside : offset.toNat ≤ contents.length)
    (small : offset.toNat < 2 ^ 63)
    (bounded : offset.toNat + length.toNat < 2 ^ 64) :
    (clipFiles.serveFileContents disk connId (.range streamId fileIdx offset length)).1 =
        .ok (.fileContentsResponse 0x1 streamId
          (slice contents offset.toNat length.toNat)) ↔
      NextOpens disk (clipFiles.fileList.drop (fileIdx + 1)) := by
  have fileKnown : file.Known disk := known file (List.mem_of_getElem? isFile)
  have whole : contents.length = file.size.toNat := fileKnown.length_contents readable
  have within : offset.toNat +
      (if file.size.toNat < offset.toNat + length.toNat then
        file.size.toNat - offset.toNat
      else length.toNat) ≤ file.size.toNat := by
    split <;> omega
  have read := LocalFile.readExactAt_ok fileKnown within noDirectory small readable
  rw [slice_readSize whole] at read
  simp only [serveFileContents, isFile]
  rw [if_neg (by omega), if_neg (by omega)]
  generalize file.readExactAt disk _ _ = result at read ⊢
  obtain ⟨outcome, after⟩ := result
  dsimp only at read
  subst read
  dsimp only
  rw [answer_ok_iff, List.drop_set_of_lt (by omega)]

theorem ClipFiles.getLast?_readFileContents
    (connId : Int)
    {streamId listIndex dwFlags nPositionLow nPositionHigh cbRequested : BitVec 32}
    {request : FileContentsRequest}
    (isRequest : requestOf streamId listIndex dwFlags nPositionLow nPositionHigh
      cbRequested = some request) :
    (clipFiles.readFileContents disk connId streamId listIndex dwFlags nPositionLow
        nPositionHigh cbRequested).1.getLast? =
      some (clipFiles.serveFileContents disk connId request).1 := by
  simp only [readFileContents, isRequest]
  exact List.getLast?_concat

/-- A read of a file survives the wire exactly if neither half of its position nor its
length has the sign bit of 32 bits, its position in the list fits the field, and the
next file can be opened. -/
theorem range_survives_iff
    (disk : Disk)
    (events : List ServiceEvent)
    (connId : Int)
    (node : FuseNode)
    (offset : BitVec 64)
    (size : BitVec 32)
    {file : LocalFile}
    {contents : Bytes}
    (nonnegative : offset.msb = false)
    (isFile : (Lib.run (Service.step disk) .new events).clipFiles.fileList[node.index]? =
      some file)
    (noDirectory : file.isDir = false)
    (readable : disk.contents file.path = .ok contents) :
    Survives disk (Lib.run (Service.step disk) .new events).clipFiles connId node contents
        offset size ↔
      offset.toNat % 2 ^ 32 < 2 ^ 31 ∧ size.toNat < 2 ^ 31 ∧
        asUsize (BitVec.ofNat 32 node.index) = node.index ∧
        (offset.toNat ≤ contents.length →
          ClipFiles.NextOpens disk
            ((Lib.run (Service.step disk) .new events).clipFiles.fileList.drop
              (node.index + 1))) := by
  have sound : (Lib.run (Service.step disk) .new events).Sound disk :=
    Lib.run_invariant_always (Service.Sound disk)
      (fun _ event sound => Service.sound_step sound event) events Service.sound_new
  generalize Lib.run (Service.step disk) .new events = service at sound isFile ⊢
  have small : offset.toNat < 2 ^ 63 := by
    rw [BitVec.msb_eq_decide, decide_eq_false_iff_not] at nonnegative
    omega
  have isRange : (node.request offset size).requested =
        some (.range node.streamId node.index offset (size.setWidth 64)) ↔
      offset.toNat % 2 ^ 32 < 2 ^ 31 ∧ size.toNat < 2 ^ 31 ∧
        asUsize (BitVec.ofNat 32 node.index) = node.index := by
    rw [← rejoined_eq_iff nonnegative, ← signExtend_eq_iff, requested_request]
    simp only [Option.some.injEq, FileContentsRequest.range.injEq, true_and]
    tauto
  have isAnswered
      (requested : (node.request offset size).requested =
        some (.range node.streamId node.index offset (size.setWidth 64)))
      (inside : offset.toNat ≤ contents.length) :
      (service.clipFiles.answersTo disk connId (node.request offset size)).getLast? =
          some (.ok (.fileContentsResponse 0x1 node.streamId
            (slice contents offset.toNat size.toNat))) ↔
        ClipFiles.NextOpens disk (service.clipFiles.fileList.drop (node.index + 1)) := by
    have length : (size.setWidth 64).toNat = size.toNat := by
      rw [BitVec.toNat_setWidth]
      omega
    rw [FuseNode.request, ClipFiles.answersTo,
      ClipFiles.getLast?_readFileContents connId requested, Option.some.injEq, ← length]
    exact ClipFiles.serveFileContents_range_iff sound.known connId node.streamId isFile
      noDirectory readable inside small (by omega)
  constructor
  · intro survives
    obtain ⟨low, short, index⟩ := isRange.mp survives.requested
    exact ⟨low, short, index, fun inside =>
      (isAnswered survives.requested inside).mp (survives.answered inside)⟩
  · rintro ⟨low, short, index, opens⟩
    have requested := isRange.mpr ⟨low, short, index⟩
    exact ⟨requested, fun inside => (isAnswered requested inside).mpr (opens inside)⟩

/-- The only file of a list, read whole. -/
theorem range_survives_one_byte :
    Survives Service.twoFiles
      (Lib.run (Service.step Service.twoFiles) .new
        [.syncFiles [[0x2F, 0x61]]]).clipFiles 1 ⟨1, 7, 0⟩ [0x61] 0 1 := by
  have listed : (Lib.run (Service.step Service.twoFiles) .new
      [.syncFiles [[0x2F, 0x61]]]).clipFiles.fileList[0]?.map
        (fun file => (file.isDir, file.path)) = some (false, [0x2F, 0x61]) := by
    decide +kernel
  obtain ⟨file, isFile, fields⟩ := Option.map_eq_some_iff.mp listed
  obtain ⟨noDirectory, path⟩ := Prod.mk.inj fields
  refine (range_survives_iff Service.twoFiles [.syncFiles [[0x2F, 0x61]]] 1 ⟨1, 7, 0⟩ 0 1
    (by decide) isFile noDirectory (by rw [path]; decide +kernel)).mpr
    ⟨by decide, by decide, by decide, ?_⟩
  intro _
  rw [show (Lib.run (Service.step Service.twoFiles) .new
    [.syncFiles [[0x2F, 0x61]]]).clipFiles.fileList.drop 1 = [] by decide +kernel]
  intro file found
  cases found

/-- A disk on which every path is a file of one byte more than 2 GiB. -/
def bigFile : Disk where
  metadata _ := .ok ⟨2147483649, false, true, false, some 0, 0o100644⟩
  readDir _ := .error "Not a directory"
  contents _ := .ok (List.replicate 2147483649 0)
  length_contents := by
    intro path mt bytes found read
    cases found
    cases read
    exact List.length_replicate

/-- The last byte of a file of one byte more than 2 GiB is asked for at another
position. -/
theorem range_beyond_2GiB_does_not_survive :
    ¬ ∀ disk events connId node (offset : BitVec 64) size file contents,
      offset.msb = false →
      (Lib.run (Service.step disk) .new events).clipFiles.fileList[node.index]? =
        some file →
      file.isDir = false →
      disk.contents file.path = .ok contents →
      Survives disk (Lib.run (Service.step disk) .new events).clipFiles connId node contents
        offset size := by
  intro survives
  have listed : (Lib.run (Service.step bigFile) .new
      [.syncFiles [[0x2F, 0x61]]]).clipFiles.fileList[0]?.map LocalFile.isDir =
        some false := by
    decide +kernel
  obtain ⟨file, isFile, noDirectory⟩ := Option.map_eq_some_iff.mp listed
  have requested := (survives bigFile [.syncFiles [[0x2F, 0x61]]] 1 ⟨1, 7, 0⟩ 0x80000000 1
    file _ (by decide) isFile noDirectory rfl).requested
  rw [requested_request] at requested
  exact absurd requested (by decide)

end Clipboard
end OneDesk
