import OneDesk.Lib.BigEndian
import OneDesk.Lib.Utf8

/-!
# The portable package

`generate.py` packs a table of compressed files and the name of the executable
into one file of bytes, which the portable launcher embeds and reads when it
starts.  Nothing but the two programs defines the format: the marker, one record
a file with big-endian lengths, the marker again, and the name.  This module
shows that the launcher reads back what the packer wrote.
-/

namespace OneDesk
namespace Portable

open OneDesk.Lib

/-- Bytes of a length. -/
def lengthBytes : Nat := 4

/-- Bytes of the marker. -/
def identifierLength : Nat := 7

/-- Bytes of a checksum. -/
def md5Length : Nat := 32

/-- The marker at both ends of the records. -/
def identifier : List Char := "onedesk".toList

/-- One packed file. -/
structure BinaryData where
  /-- The checksum of the file, as text. -/
  md5Code : List UInt8
  /-- The compressed content. -/
  raw : List UInt8
  /-- The path of the file. -/
  path : List Char
  deriving DecidableEq

/-! ## The packer -/

/-- `int.to_bytes`, which raises an `OverflowError` on numbers too large. -/
def toBytes (number : Nat) : Option (List UInt8) :=
  if number < 256 ^ lengthBytes then some (bigEndian lengthBytes number) else none

/-- The record of one file. -/
def writeRecord (file : BinaryData) : Option (List UInt8) := do
  let path := utf8 file.path
  let pathLength ← toBytes path.length
  let dataLength ← toBytes file.raw.length
  return pathLength ++ path ++ dataLength ++ file.raw ++ file.md5Code

/-- `write_package_metadata`: the bytes of `data.bin`. -/
def writePackageMetadata (files : List BinaryData) (exe : List Char) :
    Option (List UInt8) := do
  let records ← files.mapM writeRecord
  return utf8 identifier ++ records.flatten ++ utf8 identifier ++ utf8 exe

/-! ## The launcher -/

/-- Why reading a package panics. -/
inductive Panic
  /-- `bin data invalid!` -/
  | tooShort
  /-- `bin file is not valid!` -/
  | notValid
  /-- An index outside the data. -/
  | outOfRange
  deriving DecidableEq

/-- The next bytes of the data and what follows them. -/
def slice (length : Nat) (data : List UInt8) :
    Except Panic (List UInt8 × List UInt8) :=
  if length ≤ data.length then .ok (data.take length, data.drop length)
  else .error .outOfRange

/-- Read the record the data begins with. -/
def readRecord (data : List UInt8) : Except Panic (BinaryData × List UInt8) := do
  let (pathLength, data) ← slice lengthBytes data
  let (path, data) ← slice (fromBigEndian pathLength) data
  let (fileLength, data) ← slice lengthBytes data
  let (raw, data) ← slice (fromBigEndian fileLength) data
  let (md5, data) ← slice md5Length data
  return ({ md5Code := md5, raw, path := fromUtf8Lossy path }, data)

/-- A slice at the front of the data is taken off it. -/
@[simp] theorem slice_append
    (taken rest : List UInt8) :
    slice taken.length (taken ++ rest) = .ok (taken, rest) := by
  simp [slice]

/-- What follows a slice goes on with as many bytes less. -/
theorem slice_bind_ok
    {Result : Type}
    {length : Nat}
    {data : List UInt8}
    {next : List UInt8 × List UInt8 → Except Panic Result}
    {result : Result}
    (readOk : (slice length data >>= next) = .ok result) :
    ∃ taken rest, data.length = length + rest.length ∧
      next (taken, rest) = .ok result := by
  by_cases within : length ≤ data.length
  · refine ⟨data.take length, data.drop length, ?_, ?_⟩
    · rw [List.length_drop]
      omega
    · rw [slice, if_pos within] at readOk
      exact readOk
  · rw [slice, if_neg within] at readOk
    cases readOk

/-- A record takes some bytes of the data. -/
theorem readRecord_shortens
    {data rest : List UInt8}
    {file : BinaryData}
    (readOk : readRecord data = .ok (file, rest)) :
    rest.length < data.length := by
  obtain ⟨pathLength, afterPathLength, length_eq, readOk⟩ := slice_bind_ok readOk
  obtain ⟨path, afterPath, path_eq, readOk⟩ := slice_bind_ok readOk
  obtain ⟨fileLength, afterFileLength, fileLength_eq, readOk⟩ :=
    slice_bind_ok readOk
  obtain ⟨raw, afterRaw, raw_eq, readOk⟩ := slice_bind_ok readOk
  obtain ⟨md5, afterMd5, md5_eq, readOk⟩ := slice_bind_ok readOk
  cases readOk
  have positive : 0 < lengthBytes := by decide
  omega

/-- The loop of `BinaryReader::read`: records up to the marker, then the name. -/
def readLoop (data : List UInt8) (parsed : List BinaryData) :
    Except Panic (List BinaryData × List Char) :=
  match slice identifierLength data with
  | .error panic => .error panic
  | .ok (iden, executable) =>
      if fromUtf8Lossy iden = identifier then
        .ok (parsed, fromUtf8Lossy executable)
      else
        match _readOk : readRecord data with
        | .error panic => .error panic
        | .ok (file, rest) => readLoop rest (parsed ++ [file])
termination_by data.length
decreasing_by exact readRecord_shortens ‹_›

/-- `BinaryReader::read` -/
def read (data : List UInt8) : Except Panic (List BinaryData × List Char) :=
  if data.length ≤ identifierLength then .error .tooShort
  else do
    let (iden, rest) ← slice identifierLength data
    if fromUtf8Lossy iden = identifier then readLoop rest []
    else .error .notValid

/-! ## The round trip -/

/-- A file whose lengths fit their fields and whose checksum has its width. -/
structure Packable (file : BinaryData) : Prop where
  path_fits : (utf8 file.path).length < 256 ^ lengthBytes
  raw_fits : file.raw.length < 256 ^ lengthBytes
  md5_length : file.md5Code.length = md5Length

/-- The bytes of the record of a file that can be packed. -/
def recordBytes (file : BinaryData) : List UInt8 :=
  bigEndian lengthBytes (utf8 file.path).length ++ utf8 file.path ++
    bigEndian lengthBytes file.raw.length ++ file.raw ++ file.md5Code

theorem Packable.writeRecord
    {file : BinaryData}
    (packable : Packable file) :
    writeRecord file = some (recordBytes file) := by
  simp [Portable.writeRecord, toBytes, packable.path_fits, packable.raw_fits,
    recordBytes]

theorem slice_bigEndian
    (number : Nat)
    (rest : List UInt8) :
    slice lengthBytes (bigEndian lengthBytes number ++ rest) =
      .ok (bigEndian lengthBytes number, rest) := by
  simpa using slice_append (bigEndian lengthBytes number) rest

/-- A record is read back and leaves what follows it. -/
theorem Packable.readRecord
    {file : BinaryData}
    (packable : Packable file)
    (rest : List UInt8) :
    readRecord (recordBytes file ++ rest) = .ok (file, rest) := by
  have md5_slice (after : List UInt8) :
      slice md5Length (file.md5Code ++ after) = .ok (file.md5Code, after) := by
    simpa [packable.md5_length] using slice_append file.md5Code after
  simp only [recordBytes, Portable.readRecord, List.append_assoc,
    slice_bigEndian, slice_append, md5_slice,
    fromBigEndian_bigEndian packable.path_fits,
    fromBigEndian_bigEndian packable.raw_fits, fromUtf8Lossy_utf8, bind,
    Except.bind]
  rfl

/-- A length field that spells the beginning of the marker. -/
def markerLength : Nat := 0x6f6e6564

/-- A record is taken for the marker only if its path length spells it. -/
theorem Packable.not_marker
    {file : BinaryData}
    (packable : Packable file)
    (unmarked : (utf8 file.path).length ≠ markerLength)
    (rest : List UInt8) :
    ∃ iden after,
      slice identifierLength (recordBytes file ++ rest) = .ok (iden, after) ∧
        fromUtf8Lossy iden ≠ identifier := by
  refine ⟨_, _, if_pos ?_, ?_⟩
  · simp only [recordBytes, List.length_append, length_bigEndian,
      packable.md5_length, identifierLength, lengthBytes, md5Length]
    omega
  · have intact : replacement ∉ identifier := by decide
    rw [Ne, fromUtf8Lossy_eq_iff intact]
    intro marker
    have prefix_eq := congrArg (fun bytes => fromBigEndian (bytes.take 4)) marker
    have spelled : fromBigEndian ((utf8 identifier).take 4) = markerLength := by
      decide
    apply unmarked
    rw [← spelled, ← prefix_eq]
    simp only [recordBytes, List.append_assoc, List.take_take, identifierLength]
    rw [List.take_append_of_le_length (by simp [lengthBytes]),
      List.take_of_length_le (by simp [lengthBytes]),
      fromBigEndian_bigEndian packable.path_fits]

theorem slice_identifier (rest : List UInt8) :
    slice identifierLength (utf8 identifier ++ rest) =
      .ok (utf8 identifier, rest) :=
  slice_append (utf8 identifier) rest

/-- The loop reads the records up to the marker, and then the name. -/
theorem readLoop_records
    {files : List BinaryData}
    (packable : ∀ file ∈ files, Packable file)
    (unmarked : ∀ file ∈ files, (utf8 file.path).length ≠ markerLength)
    (exe : List Char)
    (parsed : List BinaryData) :
    readLoop
        ((files.map recordBytes).flatten ++ (utf8 identifier ++ utf8 exe))
        parsed =
      .ok (parsed ++ files, exe) := by
  induction files generalizing parsed with
  | nil =>
      rw [readLoop]
      simp [slice_identifier]
  | cons file files inductionHypothesis =>
      simp only [List.forall_mem_cons] at packable unmarked
      rw [List.map_cons, List.flatten_cons, List.append_assoc, readLoop]
      obtain ⟨iden, after, sliced, notMarker⟩ :=
        packable.1.not_marker unmarked.1
          ((files.map recordBytes).flatten ++ (utf8 identifier ++ utf8 exe))
      simp only [sliced, if_neg notMarker]
      split
      case h_1 panic readFails =>
        rw [packable.1.readRecord] at readFails
        cases readFails
      case h_2 readFile rest readOk =>
        rw [packable.1.readRecord] at readOk
        cases readOk
        rw [inductionHypothesis packable.2 unmarked.2, List.append_assoc]
        rfl

/-- Packing succeeds on files that can be packed. -/
theorem writePackageMetadata_eq
    {files : List BinaryData}
    (packable : ∀ file ∈ files, Packable file)
    (exe : List Char) :
    writePackageMetadata files exe =
      some (utf8 identifier ++
        ((files.map recordBytes).flatten ++ (utf8 identifier ++ utf8 exe))) := by
  have records : files.mapM writeRecord = some (files.map recordBytes) := by
    induction files with
    | nil => rfl
    | cons file files inductionHypothesis =>
        simp only [List.forall_mem_cons] at packable
        simp [packable.1.writeRecord, inductionHypothesis packable.2]
  simp [writePackageMetadata, records]

/-- The launcher reads what the packer wrote, within the data. -/
theorem read_package
    {files : List BinaryData}
    (packable : ∀ file ∈ files, Packable file)
    (unmarked : ∀ file ∈ files, (utf8 file.path).length ≠ markerLength)
    (exe : List Char) :
    ∃ data, writePackageMetadata files exe = some data ∧
      read data = .ok (files, exe) := by
  refine ⟨_, writePackageMetadata_eq packable exe, ?_⟩
  have long : ¬ (utf8 identifier ++ ((files.map recordBytes).flatten ++
      (utf8 identifier ++ utf8 exe))).length ≤ identifierLength := by
    have marker_length : (utf8 identifier).length = identifierLength := by decide
    have positive : 0 < identifierLength := by decide
    simp only [List.length_append]
    omega
  rw [read, if_neg long, slice_identifier]
  simp [bind, Except.bind, readLoop_records packable unmarked]

/-- A package of two files, one of them empty and without a name. -/
theorem read_package_two :
    ∃ data,
      writePackageMetadata
          [⟨List.replicate 32 0x61, [1, 2, 3], "./é.dll".toList⟩,
            ⟨List.replicate 32 0x30, [], []⟩]
          "./onedesk.exe".toList = some data ∧
        read data =
          .ok ([⟨List.replicate 32 0x61, [1, 2, 3], "./é.dll".toList⟩,
            ⟨List.replicate 32 0x30, [], []⟩], "./onedesk.exe".toList) :=
  read_package
    (by
      simp only [List.forall_mem_cons]
      exact ⟨⟨by decide, by decide, rfl⟩, ⟨by decide, by decide, rfl⟩, by simp⟩)
    (by
      simp only [List.forall_mem_cons]
      exact ⟨by decide, by decide, by simp⟩)
    _

end Portable
end OneDesk
