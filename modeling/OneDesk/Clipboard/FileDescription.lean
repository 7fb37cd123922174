import OneDesk.Clipboard.LocalFile

/-!
# File lists

A list of files is written as the number of its records and the records themselves,
and is read by the other end into descriptions.
-/

namespace OneDesk
namespace Clipboard

open OneDesk.Stream

/-- The bytes of a file list; nothing when a record cannot be written. -/
def fileListPdu (fileList : List LocalFile) : Option Bytes :=
  (fileList.mapM LocalFile.asBin).map fun records =>
    Lib.littleEndian 4 (fileList.length % 2 ^ 32) ++ records.flatten

/-- `FileType`; links are never read. -/
inductive FileType
  | file
  | directory
  deriving DecidableEq

/-- `FileDescription`.  The time is in nanoseconds since 1970; it stands for all four
times of the source. -/
structure FileDescription where
  connId : Int
  name : Path
  kind : FileType
  lastModified : Nat
  size : Nat
  perm : Nat
  deriving DecidableEq

/-- `PERM_READ`. -/
def permRead : Nat := 0o444

/-- `PERM_RW`. -/
def permRw : Nat := 0o644

/-- `PERM_SELF_RO`. -/
def permSelfRo : Nat := 0o400

/-- `PERM_RWX`. -/
def permRwx : Nat := 0o755

/-- `WStr::from_utf16le`, as text. -/
def fromUtf16le (block : Bytes) : Option (List Char) :=
  (Lib.unitsOfBytes block).bind Lib.fromUtf16

/-- The permissions of a description. -/
def permOf (flags attributes perm : Nat) : Nat :=
  if flags &&& flagsFdUnixMode ≠ 0 then perm
  else if attributes = 0x80 then permRwx
  else if attributes &&& 0x01 ≠ 0 then permRead
  else if attributes &&& 0x02 ≠ 0 then permSelfRo
  else if attributes &&& 0x10 ≠ 0 then permRwx
  else permRw

/-- The time of a description, with the wrapping multiplication of a release build. -/
def lastModifiedOf (flags lastWriteTime : Nat) : Nat :=
  if flags &&& flagsFdLastWrite ≠ 0 ∧ ldapEpochDelta ≤ lastWriteTime then
    (lastWriteTime - ldapEpochDelta) * 100 % 2 ^ 64
  else 0

/-- The name of a description. -/
def nameOf (text : List Char) : Path :=
  Lib.utf8 ((text.map fun char => if char = '\\' then '/' else char).rdropWhile
    (· == Char.ofNat 0))

/-- `FileDescription::parse_file_descriptor`, with the bytes that follow. -/
def parseFileDescriptor (bytes : Bytes) (connId : Int) :
    Except CliprdrError (FileDescription × Bytes) :=
  let (flags, bytes) := Lib.takeLittleEndian 4 bytes
  let (attributes, bytes) := Lib.takeLittleEndian 4 (bytes.drop 32)
  -- The last four of sixteen reserved bytes hold the file mode.
  let (mode, bytes) := Lib.takeLittleEndian 4 (bytes.drop 12)
  let (lastWriteTime, bytes) := Lib.takeLittleEndian 8 bytes
  let (fileSizeHigh, bytes) := Lib.takeLittleEndian 4 bytes
  let (fileSizeLow, bytes) := Lib.takeLittleEndian 4 bytes
  match fromUtf16le (bytes.take 520) with
  | none => .error .conversionFailure
  | some wstr =>
      if flags &&& flagsFdAttributes = 0 then
        .error (.invalidRequest "file description must have valid attributes")
      else
        .ok ({
          connId := connId
          name := nameOf wstr
          kind := if attributes &&& 0x10 ≠ 0 then .directory else .file
          lastModified := lastModifiedOf flags lastWriteTime
          size := fileSizeHigh * 2 ^ 32 + fileSizeLow
          perm := permOf flags attributes (mode % 2 ^ 16) }, bytes.drop 520)

/-- The loop of `parse_file_descriptors`. -/
def parseDescriptors (connId : Int) :
    Nat → Bytes → Except CliprdrError (List FileDescription)
  | 0, _ => .ok []
  | count + 1, data =>
      match parseFileDescriptor data connId with
      | .error error => .error error
      | .ok (desc, data) => (parseDescriptors connId count data).map fun files => desc :: files

/-- `FileDescription::parse_file_descriptors`. -/
def parseFileDescriptors (fileDescriptorPdu : Bytes) (connId : Int) :
    Except CliprdrError (List FileDescription) :=
  if fileDescriptorPdu.length < 4 then
    .error (.invalidRequest "file descriptor request with infficient length")
  else
    let (count, data) := Lib.takeLittleEndian 4 fileDescriptorPdu
    if data.length = 0 ∧ count = 0 then .ok []
    else if data.length ≠ 592 * count then
      .error (.invalidRequest "file descriptor request with invalid length")
    else parseDescriptors connId count data

/-! ## Reading what was written -/

/-- The path below the relative root is a text without backslashes and NULs, of at
most 260 code units. -/
def LocalFile.Portable (file : LocalFile) : Prop :=
  ∃ text, file.relativePath = Lib.utf8 text ∧ '\\' ∉ text ∧ Char.ofNat 0 ∉ text ∧
    (Lib.utf16 text).length ≤ 260

/-- The start of the year 2401, in nanoseconds. -/
def endOf2400 : Int := 13601088000 * 10 ^ 9

/-- The time is one from 1970 to 2400. -/
def LocalFile.Dated (file : LocalFile) : Prop :=
  0 ≤ file.lastWriteTime ∧ file.lastWriteTime < endOf2400

/-- What the other end should know of a file. -/
def LocalFile.description (connId : Int) (file : LocalFile) : FileDescription where
  connId := connId
  name := file.relativePath
  kind := if file.isDir then .directory else .file
  lastModified := file.lastWriteTime.toNat / 100 * 100
  size := file.size.toNat
  perm := file.perm.toNat % 2 ^ 16

variable {file : LocalFile}

/-- The directory bit of the attributes is that of the record. -/
theorem directory_of_fileAttributes :
    file.fileAttributes &&& 0x10 ≠ 0 ↔ file.isDir = true := by
  unfold LocalFile.fileAttributes
  cases file.readOnly <;> cases file.hidden <;> cases file.system <;> cases file.isDir <;>
    cases file.archive <;> cases file.normal <;> decide

theorem fileAttributes_lt : file.fileAttributes < 256 ^ 4 := by
  unfold LocalFile.fileAttributes
  cases file.readOnly <;> cases file.hidden <;> cases file.system <;> cases file.isDir <;>
    cases file.archive <;> cases file.normal <;> decide

/-- A time is read back in steps of 100 ns. -/
theorem lastModified_of_win32Time
    (dated : file.Dated)
    {flags : Nat}
    (valid : flags &&& flagsFdLastWrite ≠ 0) :
    lastModifiedOf flags file.win32Time = file.lastWriteTime.toNat / 100 * 100 := by
  have bound : file.lastWriteTime.toNat < 2 ^ 64 := by
    have := dated.2
    simp only [endOf2400] at this
    omega
  have small : file.lastWriteTime.toNat / 100 * 100 < 2 ^ 64 := by omega
  rw [lastModifiedOf, if_pos ⟨valid, by simp [LocalFile.win32Time]⟩, LocalFile.win32Time,
    Nat.mod_eq_of_lt bound, Nat.add_sub_cancel, Nat.mod_eq_of_lt small]

theorem win32Time_lt : file.win32Time < 256 ^ 8 := by
  have bound : file.lastWriteTime.toNat % 2 ^ 64 < 2 ^ 64 := Nat.mod_lt _ (by decide)
  simp only [LocalFile.win32Time, ldapEpochDelta]
  omega

/-- A padded name is read back. -/
theorem fromUtf16le_padded
    (text : List Char)
    (padding : Nat) :
    fromUtf16le (Lib.bytesOfUnits (Lib.utf16 text) ++ List.replicate (2 * padding) 0) =
      some (text ++ List.replicate padding (Char.ofNat 0)) := by
  have zeros : List.replicate (2 * padding) (0 : UInt8) =
      Lib.bytesOfUnits (List.replicate padding 0) := by
    induction padding with
    | zero => rfl
    | succ padding inductionHypothesis =>
        rw [List.replicate_succ, Lib.bytesOfUnits_cons, ← inductionHypothesis]
        rfl
  have small : ∀ unit ∈ Lib.utf16 text ++ List.replicate padding 0, unit < 0x10000 := by
    intro unit member
    rcases List.mem_append.mp member with ofText | zero
    · exact Lib.utf16_lt ofText
    · rw [List.eq_of_mem_replicate zero]
      decide
  rw [fromUtf16le, zeros, ← Lib.bytesOfUnits_append, Lib.unitsOfBytes_bytesOfUnits small,
    Option.bind_some, Lib.fromUtf16_utf16_append, Lib.fromUtf16_replicate_zero]
  rfl

theorem nameOf_padded
    {text : List Char}
    (noBackslash : '\\' ∉ text)
    (noNul : Char.ofNat 0 ∉ text)
    (padding : Nat) :
    nameOf (text ++ List.replicate padding (Char.ofNat 0)) = Lib.utf8 text := by
  have unchanged : (text ++ List.replicate padding (Char.ofNat 0)).map
      (fun char => if char = '\\' then '/' else char) =
        text ++ List.replicate padding (Char.ofNat 0) := by
    conv_rhs => rw [← List.map_id (text ++ _)]
    apply List.map_congr_left
    intro char member
    rcases List.mem_append.mp member with ofText | nul
    · refine if_neg ?_
      rintro rfl
      exact noBackslash ofText
    · rw [List.eq_of_mem_replicate nul]
      rfl
  have trimmed : (text ++ List.replicate padding (Char.ofNat 0)).rdropWhile
      (· == Char.ofNat 0) = text := by
    induction padding with
    | zero =>
        rw [List.replicate_zero, List.append_nil, List.rdropWhile_eq_self_iff]
        intro nonempty isNul
        exact noNul (beq_iff_eq.mp isNul ▸ List.getLast_mem nonempty)
    | succ padding inductionHypothesis =>
        have shorter := inductionHypothesis (by
          rw [List.replicate_succ', ← List.append_assoc, List.map_append] at unchanged
          exact List.append_inj_left' unchanged rfl)
        rw [List.replicate_succ', ← List.append_assoc,
          List.rdropWhile_concat_pos _ _ _ (by rfl), shorter]
  rw [nameOf, unchanged, trimmed]

theorem LocalFile.Portable.name
    (portable : file.Portable) :
    ∃ text, file.relativePath = Lib.utf8 text ∧ '\\' ∉ text ∧ Char.ofNat 0 ∉ text ∧
      file.nameUnits = Lib.utf16 text ∧ (Lib.utf16 text).length ≤ 260 := by
  obtain ⟨text, isPath, noBackslash, noNul, fits⟩ := portable
  refine ⟨text, isPath, noBackslash, noNul, ?_, fits⟩
  rw [LocalFile.nameUnits, isPath, Lib.fromUtf8Lossy_utf8]

/-- A record is read back, whatever follows. -/
theorem parseFileDescriptor_asBin
    (portable : file.Portable)
    (dated : file.Dated)
    (connId : Int)
    {bytes : Bytes}
    (written : file.asBin = some bytes)
    (rest : Bytes) :
    parseFileDescriptor (bytes ++ rest) connId = .ok (file.description connId, rest) := by
  obtain ⟨text, isPath, noBackslash, noNul, isName, fits⟩ := portable.name
  have length := Lib.length_bytesOfUnits (Lib.utf16 text)
  rw [LocalFile.asBin, isName] at written
  rw [if_pos (by omega), Option.some.injEq] at written
  subst written
  have padding : 520 - (Lib.bytesOfUnits (Lib.utf16 text)).length =
      2 * (260 - (Lib.utf16 text).length) := by
    omega
  have block : (Lib.bytesOfUnits (Lib.utf16 text) ++
      List.replicate (520 - (Lib.bytesOfUnits (Lib.utf16 text)).length) 0).length = 520 := by
    rw [List.length_append, List.length_replicate]
    omega
  have drop32 : ∀ bytes : Bytes, (List.replicate 32 0 ++ bytes).drop 32 = bytes :=
    fun bytes => List.drop_left' (by simp)
  have drop12 : ∀ bytes : Bytes, (List.replicate 12 0 ++ bytes).drop 12 = bytes :=
    fun bytes => List.drop_left' (by simp)
  unfold parseFileDescriptor LocalFile.fixedFields
  simp only [List.append_assoc, Lib.takeLittleEndian_append, drop32, drop12]
  rw [← List.append_assoc (Lib.bytesOfUnits (Lib.utf16 text)), List.take_left' block,
    List.drop_left' block, padding, fromUtf16le_padded]
  have flags : (flagsFdSize ||| flagsFdLastWrite ||| flagsFdAttributes |||
      flagsFdProgressui ||| flagsFdUnixMode) % 256 ^ 4 = 0x406C := by decide
  have size_lt : file.size.toNat < 2 ^ 64 := file.size.toNat_lt
  have high : file.size.toNat / 2 ^ 32 % 256 ^ 4 = file.size.toNat / 2 ^ 32 :=
    Nat.mod_eq_of_lt (by omega)
  have low : file.size.toNat % 2 ^ 32 % 256 ^ 4 = file.size.toNat % 2 ^ 32 :=
    Nat.mod_eq_of_lt (by omega)
  have size : file.size.toNat / 2 ^ 32 * 2 ^ 32 + file.size.toNat % 2 ^ 32 =
      file.size.toNat := by
    omega
  have mode : file.perm.toNat % 256 ^ 4 % 2 ^ 16 = file.perm.toNat % 2 ^ 16 := by
    omega
  have modified : lastModifiedOf 0x406C file.win32Time =
      file.lastWriteTime.toNat / 100 * 100 :=
    lastModified_of_win32Time dated (by decide)
  rw [flags, Nat.mod_eq_of_lt fileAttributes_lt, Nat.mod_eq_of_lt win32Time_lt, high, low,
    size, mode, modified]
  have isFlagged : ¬0x406C &&& flagsFdAttributes = 0 := by decide
  have unixMode : permOf 0x406C file.fileAttributes (file.perm.toNat % 2 ^ 16) =
      file.perm.toNat % 2 ^ 16 := if_pos (by decide)
  simp only [if_neg isFlagged, unixMode, nameOf_padded noBackslash noNul, ← isPath,
    directory_of_fileAttributes, LocalFile.description]

/-- Records are read back one after the other. -/
theorem parseDescriptors_flatten
    {fileList : List LocalFile}
    (portable : ∀ file ∈ fileList, file.Portable)
    (dated : ∀ file ∈ fileList, file.Dated)
    (connId : Int)
    {records : List Bytes}
    (written : fileList.mapM LocalFile.asBin = some records) :
    parseDescriptors connId fileList.length records.flatten =
      .ok (fileList.map (LocalFile.description connId)) := by
  induction fileList generalizing records with
  | nil => rfl
  | cons file fileList inductionHypothesis =>
      rw [List.mapM_cons] at written
      obtain ⟨bytes, isRecord, written⟩ := Option.bind_eq_some_iff.mp written
      obtain ⟨others, areRecords, written⟩ := Option.bind_eq_some_iff.mp written
      cases written
      have first := parseFileDescriptor_asBin (portable file List.mem_cons_self)
        (dated file List.mem_cons_self) connId isRecord others.flatten
      have rest := inductionHypothesis
        (fun other member => portable other (List.mem_cons_of_mem file member))
        (fun other member => dated other (List.mem_cons_of_mem file member)) areRecords
      rw [List.flatten_cons, List.length_cons, parseDescriptors, first]
      simp only [rest, Except.map, List.map_cons]

/-- Every record has 592 bytes. -/
theorem length_records
    {fileList : List LocalFile}
    {records : List Bytes}
    (written : fileList.mapM LocalFile.asBin = some records) :
    records.flatten.length = 592 * fileList.length := by
  induction fileList generalizing records with
  | nil =>
      cases written
      rfl
  | cons file fileList inductionHypothesis =>
      rw [List.mapM_cons] at written
      obtain ⟨bytes, isRecord, written⟩ := Option.bind_eq_some_iff.mp written
      obtain ⟨others, areRecords, written⟩ := Option.bind_eq_some_iff.mp written
      cases written
      have size : bytes.length = 592 := by
        have fits : file.nameUnits.length ≤ 260 := by
          rw [LocalFile.asBin, Lib.length_bytesOfUnits] at isRecord
          split at isRecord
          · omega
          · cases isRecord
        obtain ⟨same, isSame, length⟩ := file.asBin_length_iff.mpr fits
        rw [isRecord] at isSame
        cases isSame
        exact length
      rw [List.flatten_cons, List.length_append, size, inductionHypothesis areRecords,
        List.length_cons]
      omega

/-- The other end reads the descriptions of the files from the list. -/
def RoundTrips (connId : Int) (fileList : List LocalFile) : Prop :=
  ∃ pdu, fileListPdu fileList = some pdu ∧
    parseFileDescriptors pdu connId =
      .ok (fileList.map (LocalFile.description connId))

/-- Portable files are read back if their number fits. -/
theorem roundTrips_of_fits
    {fileList : List LocalFile}
    (portable : ∀ file ∈ fileList, file.Portable ∧ file.Dated)
    (fits : fileList.length < 2 ^ 32)
    {records : List Bytes}
    (written : fileList.mapM LocalFile.asBin = some records)
    (connId : Int) :
    RoundTrips connId fileList := by
  refine ⟨_, by rw [fileListPdu, written, Option.map_some], ?_⟩
  have size := length_records written
  have all := parseDescriptors_flatten (fun file member => (portable file member).1)
    (fun file member => (portable file member).2) connId written
  have long : ¬(Lib.littleEndian 4 (fileList.length % 2 ^ 32) ++ records.flatten).length < 4 := by
    simp
  have count : fileList.length % 2 ^ 32 % 256 ^ 4 = fileList.length := by omega
  rw [parseFileDescriptors, if_neg long, Lib.takeLittleEndian_append]
  simp only [count, size]
  split
  · next empty =>
      obtain rfl : fileList = [] := List.length_eq_zero_iff.mp empty.2
      rfl
  · rw [if_neg (by simp), all]

/-- A list whose number does not fit is not read back. -/
theorem fits_of_roundTrips
    {fileList : List LocalFile}
    {connId : Int}
    (roundTrips : RoundTrips connId fileList) :
    fileList.length < 2 ^ 32 := by
  obtain ⟨pdu, built, parsed⟩ := roundTrips
  obtain ⟨records, written, rfl⟩ := Option.map_eq_some_iff.mp built
  have size := length_records written
  have long : ¬(Lib.littleEndian 4 (fileList.length % 2 ^ 32) ++ records.flatten).length < 4 := by
    simp
  rw [parseFileDescriptors, if_neg long, Lib.takeLittleEndian_append] at parsed
  simp only [size] at parsed
  by_contra tooMany
  rw [if_neg (by omega), if_pos (by omega)] at parsed
  cases parsed

/-- A list whose records can be written can be written. -/
theorem exists_records
    {fileList : List LocalFile}
    (written : ∀ file ∈ fileList, ∃ bytes, file.asBin = some bytes ∧ bytes.length = 592) :
    ∃ records, fileList.mapM LocalFile.asBin = some records := by
  induction fileList with
  | nil => exact ⟨[], rfl⟩
  | cons file fileList inductionHypothesis =>
      obtain ⟨bytes, isRecord, _⟩ := written file List.mem_cons_self
      obtain ⟨records, areRecords⟩ := inductionHypothesis fun other member =>
        written other (List.mem_cons_of_mem file member)
      exact ⟨bytes :: records, by rw [List.mapM_cons, isRecord, areRecords]; rfl⟩

/-- Lists of portable files are read back and every record of any list is written, if
and only if no name has more than 260 code units and no list of portable files has
2^32 entries. -/
theorem fileList_round_trip_iff (fileList : List LocalFile) :
    (((∀ file ∈ fileList, file.Portable ∧ file.Dated) →
        ∀ connId, RoundTrips connId fileList) ∧
      ∀ file ∈ fileList, ∃ bytes, file.asBin = some bytes ∧ bytes.length = 592) ↔
      (∀ file ∈ fileList, file.nameUnits.length ≤ 260) ∧
        ((∀ file ∈ fileList, file.Portable ∧ file.Dated) →
          fileList.length < 2 ^ 32) := by
  have names : (∀ file ∈ fileList, ∃ bytes, file.asBin = some bytes ∧ bytes.length = 592) ↔
      ∀ file ∈ fileList, file.nameUnits.length ≤ 260 :=
    forall₂_congr fun file _ => file.asBin_length_iff
  rw [names, and_comm]
  refine and_congr_right fun short => forall_congr' fun portable => ?_
  constructor
  · intro roundTrips
    exact fits_of_roundTrips (roundTrips 0)
  · intro fits connId
    obtain ⟨records, written⟩ := exists_records fun file member =>
      (names.mpr short) file member
    exact roundTrips_of_fits portable fits written connId

/-- A file in a directory, both with names of two hundred letters. -/
def deepPath : Path :=
  slash :: List.replicate 200 0x61 ++ slash :: List.replicate 200 0x62

/-- A disk on which every path is an empty file. -/
def Disk.empty : Disk where
  metadata := fun _ => .ok ⟨0, false, true, false, none, 0o644⟩
  readDir := fun _ => .ok []
  contents := fun _ => .ok []
  length_contents := by
    rintro path mt bytes known opened
    cases known
    cases opened
    rfl

/-- The record of a file that exists is not written. -/
theorem record_of_deep_path_not_written :
    ∃ file, LocalFile.tryOpen .empty [slash] deepPath = .ok file ∧
      ¬(((∀ listed ∈ [file], listed.Portable ∧ listed.Dated) →
          ∀ connId, RoundTrips connId [file]) ∧
        ∀ listed ∈ [file], ∃ bytes, listed.asBin = some bytes ∧ bytes.length = 592) := by
  obtain ⟨file, opened⟩ : ∃ file, LocalFile.tryOpen .empty [slash] deepPath = .ok file :=
    ⟨_, rfl⟩
  refine ⟨file, opened, ?_⟩
  rintro ⟨_, written⟩
  have short := file.asBin_length_iff.mp (written file List.mem_cons_self)
  have isDeep : (LocalFile.tryOpen .empty [slash] deepPath).toOption.map
      LocalFile.relativePath =
        some (Lib.utf8 (List.replicate 200 'a' ++ '/' :: List.replicate 200 'b')) := by
    decide +kernel
  rw [opened] at isDeep
  rw [LocalFile.nameUnits, Option.some.inj isDeep, Lib.fromUtf8Lossy_utf8] at short
  revert short
  decide +kernel

end Clipboard
end OneDesk
