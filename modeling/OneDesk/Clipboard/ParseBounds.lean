import OneDesk.Clipboard.FileDescription
import OneDesk.Lib.Checked

/-!
# Reading a file list within bounds

The parser of file lists once more, noting every read outside the data and every
number that does not fit, and the bytes it leaves.  A build with overflow checks
stops at a note; the value is what a release build goes on with.
-/

namespace OneDesk
namespace Clipboard

open OneDesk.Lib (Checked)
open OneDesk.Lib.Checked (ensure)
open OneDesk.Stream

/-- What the parser must not do. -/
inductive ParseFault
  /-- A read outside the data. -/
  | outside
  /-- A number that does not fit its type. -/
  | overflow
  deriving DecidableEq

/-- `Bytes::get_u32_le` and `Bytes::get_u64_le`. -/
def getLittleEndian (size : Nat) (bytes : Bytes) : Checked ParseFault (Nat × Bytes) :=
  ensure (size ≤ bytes.length) .outside (Lib.takeLittleEndian size bytes)

/-- `Bytes::advance`. -/
def advance (size : Nat) (bytes : Bytes) : Checked ParseFault Bytes :=
  ensure (size ≤ bytes.length) .outside (bytes.drop size)

/-- The size of a description, as 64 bits. -/
def checkedSize (fileSizeHigh fileSizeLow : Nat) : Checked ParseFault Nat :=
  ensure (fileSizeHigh * 2 ^ 32 + fileSizeLow < 2 ^ 64) .overflow
    (fileSizeHigh * 2 ^ 32 + fileSizeLow)

/-- The time of a description.  The addition to `UNIX_EPOCH` counts seconds. -/
def checkedLastModified (flags lastWriteTime : Nat) : Checked ParseFault Nat := do
  if flags &&& flagsFdLastWrite ≠ 0 ∧ ldapEpochDelta ≤ lastWriteTime then
    let nanos ← ensure ((lastWriteTime - ldapEpochDelta) * 100 < 2 ^ 64) .overflow
      ((lastWriteTime - ldapEpochDelta) * 100 % 2 ^ 64)
    ensure (nanos / 10 ^ 9 < 2 ^ 63) .overflow nanos
  else return 0

/-- The fields that `parse_file_descriptor` reads before it looks at any of them. -/
structure RawDescriptor where
  flags : Nat
  attributes : Nat
  mode : Nat
  lastWriteTime : Nat
  fileSizeHigh : Nat
  fileSizeLow : Nat
  block : Bytes

/-- The reads of `parse_file_descriptor`, with the bytes that follow. -/
def readDescriptor (bytes : Bytes) : Checked ParseFault (RawDescriptor × Bytes) := do
  let (flags, bytes) ← getLittleEndian 4 bytes
  let bytes ← advance 32 bytes
  let (attributes, bytes) ← getLittleEndian 4 bytes
  let bytes ← advance 12 bytes
  let (mode, bytes) ← getLittleEndian 4 bytes
  let (lastWriteTime, bytes) ← getLittleEndian 8 bytes
  let (fileSizeHigh, bytes) ← getLittleEndian 4 bytes
  let (fileSizeLow, bytes) ← getLittleEndian 4 bytes
  let block := bytes
  let bytes ← advance 520 bytes
  return ({
    flags, attributes, mode, lastWriteTime, fileSizeHigh, fileSizeLow
    block := block.take 520 }, bytes)

/-- The rest of `parse_file_descriptor`. -/
def describe (raw : RawDescriptor) (connId : Int) :
    Checked ParseFault (Except CliprdrError FileDescription) := do
  match fromUtf16le raw.block with
  | none => return .error .conversionFailure
  | some wstr =>
      if raw.flags &&& flagsFdAttributes = 0 then
        return .error (.invalidRequest "file description must have valid attributes")
      else
        let size ← checkedSize raw.fileSizeHigh raw.fileSizeLow
        let lastModified ← checkedLastModified raw.flags raw.lastWriteTime
        return .ok {
          connId := connId
          name := nameOf wstr
          kind := if raw.attributes &&& 0x10 ≠ 0 then .directory else .file
          lastModified := lastModified
          size := size
          perm := permOf raw.flags raw.attributes (raw.mode % 2 ^ 16) }

/-- `FileDescription::parse_file_descriptor`, noting faults. -/
def checkedFileDescriptor (bytes : Bytes) (connId : Int) :
    Checked ParseFault (Except CliprdrError (FileDescription × Bytes)) := do
  let (raw, bytes) ← readDescriptor bytes
  let desc ← describe raw connId
  return desc.map fun desc => (desc, bytes)

/-- The loop of `parse_file_descriptors`, noting faults. -/
def checkedDescriptors (connId : Int) :
    Nat → Bytes → Checked ParseFault (Except CliprdrError (List FileDescription × Bytes))
  | 0, data => return .ok ([], data)
  | count + 1, data => do
      match ← checkedFileDescriptor data connId with
      | .error error => return .error error
      | .ok (desc, data) =>
          let files ← checkedDescriptors connId count data
          return files.map fun (files, data) => (desc :: files, data)

/-- What `parse_file_descriptors` does with the data behind the count, where a `usize`
has some width. -/
def checkedRecords (width : Nat) (connId : Int) (count : Nat) (data : Bytes) :
    Checked ParseFault (Except CliprdrError (List FileDescription × Bytes)) :=
  if data.length = 0 ∧ count = 0 then return .ok ([], data)
  else do
    let expected ← ensure (592 * count < 2 ^ width) .overflow (592 * count % 2 ^ width)
    if data.length ≠ expected then
      return .error (.invalidRequest "file descriptor request with invalid length")
    else checkedDescriptors connId count data

/-- `FileDescription::parse_file_descriptors`, noting faults. -/
def checkedFileDescriptors (width : Nat) (fileDescriptorPdu : Bytes) (connId : Int) :
    Checked ParseFault (Except CliprdrError (List FileDescription × Bytes)) :=
  if fileDescriptorPdu.length < 4 then
    return .error (.invalidRequest "file descriptor request with infficient length")
  else do
    let (count, data) ← getLittleEndian 4 fileDescriptorPdu
    checkedRecords width connId count data

/-! ## The parser that notes faults is the parser -/

theorem value_checkedLastModified (flags lastWriteTime : Nat) :
    (checkedLastModified flags lastWriteTime).value = lastModifiedOf flags lastWriteTime := by
  unfold checkedLastModified lastModifiedOf
  split <;> rfl

/-- The fields of a record, each at its own place. -/
def rawDescriptor (bytes : Bytes) : RawDescriptor where
  flags := Lib.fromLittleEndian (bytes.take 4)
  attributes := Lib.fromLittleEndian ((bytes.drop 36).take 4)
  mode := Lib.fromLittleEndian ((bytes.drop 52).take 4)
  lastWriteTime := Lib.fromLittleEndian ((bytes.drop 56).take 8)
  fileSizeHigh := Lib.fromLittleEndian ((bytes.drop 64).take 4)
  fileSizeLow := Lib.fromLittleEndian ((bytes.drop 68).take 4)
  block := (bytes.drop 72).take 520

@[simp] theorem value_readDescriptor (bytes : Bytes) :
    (readDescriptor bytes).value = (rawDescriptor bytes, bytes.drop 592) := by
  simp only [readDescriptor, getLittleEndian, advance, Checked.value_bind,
    Checked.value_ensure, Checked.value_pure, Lib.takeLittleEndian, List.drop_drop,
    rawDescriptor]

/-- A record is read within the data if they have room for it. -/
theorem faults_readDescriptor
    {bytes : Bytes}
    (room : 592 ≤ bytes.length) :
    (readDescriptor bytes).faults = [] := by
  simp only [readDescriptor, getLittleEndian, advance, Checked.faults_bind,
    Checked.value_ensure, Checked.faults_pure, Checked.faults_ensure_eq_nil,
    Lib.takeLittleEndian, List.append_eq_nil_iff, List.drop_drop, List.length_drop,
    and_true]
  omega

theorem value_checkedFileDescriptor (bytes : Bytes) (connId : Int) :
    (checkedFileDescriptor bytes connId).value = parseFileDescriptor bytes connId := by
  simp only [checkedFileDescriptor, Checked.value_bind, value_readDescriptor,
    Checked.value_pure, parseFileDescriptor, Lib.takeLittleEndian, List.drop_drop,
    describe, rawDescriptor]
  cases fromUtf16le ((bytes.drop 72).take 520) with
  | none => rfl
  | some wstr =>
      simp only
      split
      · rfl
      · simp only [checkedSize, Checked.value_bind, Checked.value_ensure,
          value_checkedLastModified, Checked.value_pure, Except.map]

theorem value_checkedDescriptors (connId : Int) (count : Nat) (data : Bytes) :
    (checkedDescriptors connId count data).value.map Prod.fst =
      parseDescriptors connId count data := by
  induction count generalizing data with
  | zero => rfl
  | succ count inductionHypothesis =>
      rw [checkedDescriptors, parseDescriptors, Checked.value_bind,
        value_checkedFileDescriptor]
      split
      case h_1 failed => simp only [failed, Checked.value_pure, Except.map]
      case h_2 desc rest parsed =>
          simp only [parsed]
          rw [← inductionHypothesis rest, Checked.value_bind, Checked.value_pure]
          cases (checkedDescriptors connId count rest).value <;> rfl

/-- The number of records a file list announces. -/
def countOf (pdu : Bytes) : Nat :=
  Lib.fromLittleEndian (pdu.take 4)

theorem countOf_lt (pdu : Bytes) : countOf pdu < 2 ^ 32 := by
  have small := Lib.fromLittleEndian_lt (pdu.take 4)
  have short : (pdu.take 4).length ≤ 4 := by simp
  have powers : (256 : Nat) ^ (pdu.take 4).length ≤ 256 ^ 4 :=
    Nat.pow_le_pow_right (by decide) short
  rw [countOf]
  omega

theorem value_checkedRecords
    {width count : Nat}
    (fits : 592 * count < 2 ^ width)
    (connId : Int)
    (data : Bytes) :
    (checkedRecords width connId count data).value.map Prod.fst =
      if data.length = 0 ∧ count = 0 then .ok []
      else if data.length ≠ 592 * count then
        .error (.invalidRequest "file descriptor request with invalid length")
      else parseDescriptors connId count data := by
  rw [checkedRecords]
  split
  · rfl
  · rw [Checked.value_bind, Checked.value_ensure, Nat.mod_eq_of_lt fits]
    split
    · rfl
    · exact value_checkedDescriptors connId count data

/-- With 64 bits for a `usize` the two parsers agree on all data. -/
theorem value_checkedFileDescriptors (pdu : Bytes) (connId : Int) :
    (checkedFileDescriptors 64 pdu connId).value.map Prod.fst =
      parseFileDescriptors pdu connId := by
  have small : Lib.fromLittleEndian (pdu.take 4) < 2 ^ 32 := countOf_lt pdu
  rw [checkedFileDescriptors, parseFileDescriptors]
  split
  · rfl
  · exact value_checkedRecords (by omega) connId (pdu.drop 4)

/-! ## Where it notes nothing -/

/-- The record has a name that can be decoded, and attributes. -/
def Readable (record : Bytes) : Prop :=
  fromUtf16le (rawDescriptor record).block ≠ none ∧
    (rawDescriptor record).flags &&& flagsFdAttributes ≠ 0

/-- The time of a record, if it has one from 1970 on, fits into 64 bits of
nanoseconds. -/
def Timely (record : Bytes) : Prop :=
  (rawDescriptor record).flags &&& flagsFdLastWrite ≠ 0 →
    ldapEpochDelta ≤ (rawDescriptor record).lastWriteTime →
      ((rawDescriptor record).lastWriteTime - ldapEpochDelta) * 100 < 2 ^ 64

theorem faults_checkedLastModified (raw : RawDescriptor) :
    (checkedLastModified raw.flags raw.lastWriteTime).faults = [] ↔
      (raw.flags &&& flagsFdLastWrite ≠ 0 → ldapEpochDelta ≤ raw.lastWriteTime →
        (raw.lastWriteTime - ldapEpochDelta) * 100 < 2 ^ 64) := by
  unfold checkedLastModified
  split
  case isTrue dated =>
    have seconds : ∀ nanos : Nat, nanos % 2 ^ 64 / 10 ^ 9 < 2 ^ 63 := by omega
    simp only [Checked.faults_bind, Checked.value_ensure, List.append_eq_nil_iff,
      Checked.faults_ensure_eq_nil, seconds, and_true]
    exact ⟨fun fits _ _ => fits, fun fits => fits dated.1 dated.2⟩
  case isFalse undated =>
    exact ⟨fun _ valid late => absurd ⟨valid, late⟩ undated, fun _ => rfl⟩

/-- A size of two halves of 32 bits fits into 64 bits. -/
theorem faults_checkedSize (bytes : Bytes) :
    (checkedSize (rawDescriptor bytes).fileSizeHigh
      (rawDescriptor bytes).fileSizeLow).faults = [] := by
  rw [checkedSize, Checked.faults_ensure_eq_nil]
  have high := countOf_lt (bytes.drop 64)
  have low := countOf_lt (bytes.drop 68)
  rw [countOf] at high low
  simp only [rawDescriptor]
  omega

/-- The reads of one record stay inside the data, and only its time may not fit. -/
theorem faults_checkedFileDescriptor
    {bytes : Bytes}
    (room : 592 ≤ bytes.length)
    (connId : Int) :
    (checkedFileDescriptor bytes connId).faults = [] ↔
      (Readable bytes → Timely bytes) := by
  simp only [checkedFileDescriptor, Checked.faults_bind, faults_readDescriptor room,
    value_readDescriptor, Checked.faults_pure, List.nil_append, List.append_nil,
    describe, Readable]
  cases fromUtf16le (rawDescriptor bytes).block with
  | none => simp
  | some wstr =>
      simp only
      split
      case isTrue plain => simp [plain]
      case isFalse valid =>
        simp only [Checked.faults_bind, faults_checkedSize, faults_checkedLastModified,
          Checked.faults_pure, List.nil_append, List.append_nil, Timely]
        simp [valid]

/-- A record that is read leaves what follows it. -/
theorem checkedFileDescriptor_eq_ok
    {bytes rest : Bytes}
    {connId : Int}
    {desc : FileDescription}
    (parsed : (checkedFileDescriptor bytes connId).value = .ok (desc, rest)) :
    Readable bytes ∧ rest = bytes.drop 592 := by
  simp only [checkedFileDescriptor, Checked.value_bind, value_readDescriptor,
    Checked.value_pure, describe] at parsed
  cases decoded : fromUtf16le (rawDescriptor bytes).block with
  | none => simp [decoded, Except.map] at parsed
  | some wstr =>
      simp only [decoded] at parsed
      split at parsed
      case isTrue => simp [Except.map] at parsed
      case isFalse valid =>
        simp only [Checked.value_bind, Checked.value_pure, Except.map,
          Except.ok.injEq, Prod.mk.injEq] at parsed
        exact ⟨⟨by simp [decoded], valid⟩, parsed.2.symm⟩

theorem checkedFileDescriptor_eq_error
    {bytes : Bytes}
    {connId : Int}
    {error : CliprdrError}
    (failed : (checkedFileDescriptor bytes connId).value = .error error) :
    ¬Readable bytes := by
  intro readable
  simp only [checkedFileDescriptor, Checked.value_bind, value_readDescriptor,
    Checked.value_pure, describe] at failed
  cases decoded : fromUtf16le (rawDescriptor bytes).block with
  | none => exact readable.1 decoded
  | some wstr =>
      simp only [decoded, if_neg readable.2, Checked.value_bind, Checked.value_pure,
        Except.map] at failed
      cases failed

/-- One record of the data behind the count. -/
def recordAt (data : Bytes) (index : Nat) : Bytes :=
  data.drop (592 * index)

/-- Every record that is reached has a time that fits: a record is reached if those
before it can be read. -/
def InTime (count : Nat) (data : Bytes) : Prop :=
  ∀ index < count, (∀ earlier ≤ index, Readable (recordAt data earlier)) →
    Timely (recordAt data index)

theorem inTime_succ_iff (count : Nat) (data : Bytes) :
    InTime (count + 1) data ↔
      (Readable data → Timely data) ∧
        (Readable data → InTime count (data.drop 592)) := by
  have next : ∀ index, recordAt data (index + 1) = recordAt (data.drop 592) index := by
    intro index
    rw [recordAt, recordAt, List.drop_drop, Nat.mul_succ, Nat.add_comm]
  constructor
  · intro inTime
    refine ⟨fun readable => ?_, fun readable index below reached => ?_⟩
    · refine inTime 0 (Nat.succ_pos count) fun earlier before => ?_
      obtain rfl := Nat.le_zero.mp before
      exact readable
    · rw [← next]
      refine inTime (index + 1) (Nat.succ_lt_succ below) fun earlier before => ?_
      cases earlier with
      | zero => exact readable
      | succ earlier =>
          rw [next]
          exact reached earlier (Nat.le_of_succ_le_succ before)
  · rintro ⟨first, others⟩ index below reached
    have readable : Readable data := reached 0 (Nat.zero_le index)
    cases index with
    | zero => exact first readable
    | succ index =>
        rw [next]
        refine others readable index (Nat.lt_of_succ_lt_succ below) fun earlier before => ?_
        rw [← next]
        exact reached (earlier + 1) (Nat.succ_le_succ before)

/-- The loop notes nothing exactly if the records it reaches are in time. -/
theorem faults_checkedDescriptors
    (connId : Int)
    {count : Nat}
    {data : Bytes}
    (room : data.length = 592 * count) :
    (checkedDescriptors connId count data).faults = [] ↔ InTime count data := by
  induction count generalizing data with
  | zero => exact ⟨fun _ index below => absurd below (Nat.not_lt_zero index), fun _ => rfl⟩
  | succ count inductionHypothesis =>
      have roomLeft : (data.drop 592).length = 592 * count := by
        rw [List.length_drop]
        omega
      have rest := inductionHypothesis roomLeft
      rw [checkedDescriptors, Checked.faults_bind, List.append_eq_nil_iff,
        faults_checkedFileDescriptor (by omega), inTime_succ_iff]
      apply and_congr_right'
      cases parsed : (checkedFileDescriptor data connId).value with
      | error error =>
          have unreadable := checkedFileDescriptor_eq_error parsed
          simp [unreadable]
      | ok result =>
          obtain ⟨desc, left⟩ := result
          obtain ⟨readable, follows⟩ := checkedFileDescriptor_eq_ok parsed
          simp only [Checked.faults_bind, Checked.faults_pure, List.append_nil,
            follows, rest, readable, true_imp_iff]

/-- A list that is read has as many entries as were announced, and all of the data. -/
theorem checkedDescriptors_eq_ok
    {connId : Int}
    {count : Nat}
    {data rest : Bytes}
    {files : List FileDescription}
    (parsed : (checkedDescriptors connId count data).value = .ok (files, rest)) :
    files.length = count ∧ rest = data.drop (592 * count) := by
  induction count generalizing data files with
  | zero =>
      cases parsed
      exact ⟨rfl, rfl⟩
  | succ count inductionHypothesis =>
      rw [checkedDescriptors, Checked.value_bind] at parsed
      cases first : (checkedFileDescriptor data connId).value with
      | error error =>
          rw [first] at parsed
          cases parsed
      | ok result =>
          obtain ⟨desc, remaining⟩ := result
          obtain ⟨-, follows⟩ := checkedFileDescriptor_eq_ok first
          simp only [first, Checked.value_bind, Checked.value_pure] at parsed
          cases others : (checkedDescriptors connId count remaining).value with
          | error error =>
              rw [others] at parsed
              cases parsed
          | ok last =>
              obtain ⟨found, leftOver⟩ := last
              rw [others] at parsed
              cases parsed
              obtain ⟨length, left⟩ := inductionHypothesis others
              refine ⟨by rw [List.length_cons, length], ?_⟩
              rw [left, follows, List.drop_drop, Nat.mul_succ, Nat.add_comm]

/-- Nothing is noted, and a list that is read has as many entries as were announced and
leaves no byte. -/
def ParsedSafely (width : Nat) (pdu : Bytes) (connId : Int) : Prop :=
  (checkedFileDescriptors width pdu connId).faults = [] ∧
    ∀ files rest, (checkedFileDescriptors width pdu connId).value = .ok (files, rest) →
      files.length = countOf pdu ∧ rest = []

/-- The number of bytes announced fits a `usize`, and where it is that of the data every
record that is reached has a time that fits. -/
def Tame (width : Nat) (pdu : Bytes) : Prop :=
  4 ≤ pdu.length →
    592 * countOf pdu < 2 ^ width ∧
      (pdu.length = 4 + 592 * countOf pdu → InTime (countOf pdu) (pdu.drop 4))

theorem faults_checkedRecords
    (width : Nat)
    (connId : Int)
    (count : Nat)
    (data : Bytes) :
    (checkedRecords width connId count data).faults = [] ↔
      592 * count < 2 ^ width ∧ (data.length = 592 * count → InTime count data) := by
  rw [checkedRecords]
  split
  case isTrue empty =>
    rw [empty.2]
    simp [InTime, Nat.two_pow_pos]
  case isFalse =>
    rw [Checked.faults_bind, List.append_eq_nil_iff, Checked.faults_ensure_eq_nil,
      Checked.value_ensure]
    refine and_congr_right fun fits => ?_
    rw [Nat.mod_eq_of_lt fits]
    split
    case isTrue other => simp [other]
    case isFalse same =>
      have room := not_not.mp same
      rw [faults_checkedDescriptors connId room]
      exact ⟨fun inTime _ => inTime, fun inTime => inTime room⟩

theorem checkedRecords_eq_ok
    {width count : Nat}
    {connId : Int}
    {data rest : Bytes}
    {files : List FileDescription}
    (fits : 592 * count < 2 ^ width)
    (parsed : (checkedRecords width connId count data).value = .ok (files, rest)) :
    files.length = count ∧ rest = [] := by
  rw [checkedRecords] at parsed
  split at parsed
  case isTrue empty =>
    cases parsed
    exact ⟨empty.2.symm, List.length_eq_zero_iff.mp empty.1⟩
  case isFalse =>
    rw [Checked.value_bind, Checked.value_ensure, Nat.mod_eq_of_lt fits] at parsed
    split at parsed
    case isTrue => cases parsed
    case isFalse same =>
      obtain ⟨length, left⟩ := checkedDescriptors_eq_ok parsed
      refine ⟨length, ?_⟩
      rw [left, List.drop_eq_nil_iff]
      exact Nat.le_of_eq (not_not.mp same)

theorem faults_checkedFileDescriptors (width : Nat) (pdu : Bytes) (connId : Int) :
    (checkedFileDescriptors width pdu connId).faults = [] ↔ Tame width pdu := by
  rw [checkedFileDescriptors, Tame]
  split
  case isTrue short =>
    exact ⟨fun _ long => absurd short (Nat.not_lt.mpr long), fun _ => rfl⟩
  case isFalse long =>
    have room : 4 ≤ pdu.length := Nat.le_of_not_lt long
    have sizes : (pdu.drop 4).length = 592 * countOf pdu ↔
        pdu.length = 4 + 592 * countOf pdu := by
      rw [List.length_drop]
      omega
    have records := faults_checkedRecords width connId (countOf pdu) (pdu.drop 4)
    rw [sizes] at records
    rw [Checked.faults_bind, List.append_eq_nil_iff, getLittleEndian,
      Checked.faults_ensure_eq_nil, Checked.value_ensure]
    exact ⟨fun none _ => records.mp none.2, fun tame => ⟨room, records.mpr (tame room)⟩⟩

/-- A file list is parsed without a read outside the data and without an overflow, and
completely, if and only if it is tame. -/
theorem parsedSafely_iff_tame (width : Nat) (pdu : Bytes) (connId : Int) :
    ParsedSafely width pdu connId ↔ Tame width pdu := by
  rw [← faults_checkedFileDescriptors width pdu connId]
  refine ⟨fun safe => safe.1, fun quiet => ⟨quiet, fun files rest parsed => ?_⟩⟩
  have tame := (faults_checkedFileDescriptors width pdu connId).mp quiet
  rw [checkedFileDescriptors] at parsed
  split at parsed
  case isTrue => cases parsed
  case isFalse long =>
    exact checkedRecords_eq_ok (tame (Nat.le_of_not_lt long)).1 parsed

/-- One file with attributes and the latest of all times. -/
def latePdu : Bytes :=
  Lib.littleEndian 4 1 ++ Lib.littleEndian 4 (flagsFdAttributes ||| flagsFdLastWrite) ++
    List.replicate 52 0 ++ Lib.littleEndian 8 (2 ^ 64 - 1) ++ List.replicate 528 0

/-- The time of the file does not fit into 64 bits of nanoseconds. -/
theorem late_time_overflows : ¬ParsedSafely 64 latePdu 0 := by
  rintro ⟨quiet, -⟩
  have inTime := ((faults_checkedFileDescriptors 64 latePdu 0).mp quiet
    (by decide +kernel)).2 (by decide +kernel)
  have late : ¬((rawDescriptor (latePdu.drop 4)).lastWriteTime - ldapEpochDelta) * 100 <
      2 ^ 64 := by
    decide +kernel
  refine late (inTime 0 (by decide +kernel) (fun earlier before => ?_)
    (by decide +kernel) (by decide +kernel))
  obtain rfl := Nat.le_zero.mp before
  exact ⟨by decide +kernel, by decide +kernel⟩

end Clipboard
end OneDesk
