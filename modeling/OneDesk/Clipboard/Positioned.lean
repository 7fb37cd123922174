import OneDesk.Clipboard.ServFiles
import OneDesk.Lib.BufReader
import OneDesk.Lib.Run

/-!
# Reads of a file that changes

A file on the clipboard may be shortened or extended while it is served.  Its handle is a
buffered reader, and the seek is left out where a request goes on at the offset after the last
one.  The offset is kept beside the handle and is not changed by a read that fails, while the
handle is moved by it.
-/

namespace OneDesk
namespace Clipboard

open OneDesk.Stream

/-- `LocalFile`, as far as it is read, with the reader of its handle. -/
structure ReadFile where
  path : Path
  isDir : Bool
  size : UInt64
  handle : Option (Lib.BufReader UInt8)
  offset : Nat
  deriving DecidableEq

/-- A call of `read_exact_at`, with what the file holds then and why it cannot be opened, if
it cannot. -/
structure ExactRead where
  contents : Bytes
  refused : Option String
  length : Nat
  offset : Nat
  deriving DecidableEq

/-- `BLOCK_SIZE`. -/
def blockSize : Nat := 4 * 1024 * 1024

/-- The capacity of the reader of a handle. -/
def readerCapacity : Nat := blockSize * 2

namespace ReadFile

variable (file : ReadFile) (call : ExactRead)

/-- `LocalFile::load_handle`. -/
def loadHandle : Except CliprdrError ReadFile :=
  match file.isDir, file.handle with
  | false, none =>
      match call.refused with
      | some err => .error (.fileError file.path err)
      | none =>
          .ok { file with handle := some (Lib.BufReader.new.fillBuf readerCapacity call.contents) }
  | _, _ => .ok file

/-- The offset is stored; at the end of the file the handle is given up. -/
def advance (reader : Lib.BufReader UInt8) : ReadFile :=
  let newOffset := call.offset + call.length
  if file.size.toNat ≤ newOffset then { file with offset := 0, handle := none }
  else { file with offset := newOffset, handle := some reader }

/-- The reader of a call: it is moved unless the call goes on at the offset that is kept. -/
def seeked (handle : Lib.BufReader UInt8) : Lib.BufReader UInt8 :=
  if call.offset ≠ file.offset then .seek call.offset else handle

/-- The buffer of a call is filled from where the reader is. -/
def fill (reader : Lib.BufReader UInt8) : Except CliprdrError Bytes × ReadFile :=
  match reader.readExact readerCapacity call.contents call.length with
  | (none, reader) =>
      (.error (.fileError file.path "failed to fill whole buffer"),
        { file with handle := some reader })
  | (some buf, reader) => (.ok buf, file.advance call reader)

/-- `LocalFile::read_exact_at`. -/
def readExactAt : Except CliprdrError Bytes × ReadFile :=
  match file.loadHandle call with
  | .error error => (.error error, file)
  | .ok file =>
      match file.handle with
      | none => (.error (.fileError file.path "file handle not found"), file)
      | some handle =>
          if call.offset ≠ file.offset ∧ 2 ^ 63 ≤ call.offset then
            (.error (.fileError file.path "Invalid argument"), file)
          else file.fill call (file.seeked call handle)

/-- The file after a call. -/
def step : ReadFile := (file.readExactAt call).2

/-- What the reader of a file has loaded for a place of it. -/
def loaded (place : Nat) : Option UInt8 :=
  file.handle.bind fun handle => handle.loaded place

/-- The handle does not stand at the offset that is kept. -/
def Strays : Prop :=
  ∃ handle, file.handle = some handle ∧ handle.place ≠ file.offset

instance : Decidable file.Strays :=
  decidable_of_iff (file.handle.any fun handle => handle.place ≠ file.offset)
    (by simp [Strays, Option.any_eq_true])

/-- A call that goes on at the offset that is kept finds the handle there. -/
def Resumes : Prop := call.offset = file.offset → ¬file.Strays

instance : Decidable (file.Resumes call) := inferInstanceAs (Decidable (_ → _))

/-- A buffer is filled with the bytes from the offset on: each is in the file now, or the
reader has loaded it for its place. -/
def Fills (buf : Bytes) : Prop :=
  buf.length = call.length ∧
    ∀ index < call.length, ∃ byte, buf[index]? = some byte ∧
      (call.contents[call.offset + index]? = some byte ∨
        file.loaded (call.offset + index) = some byte)

/-- What the reader has loaded was in the file at one of some calls. -/
def Remembers (calls : List ExactRead) : Prop :=
  ∀ place byte, file.loaded place = some byte →
    ∃ earlier ∈ calls, earlier.contents[place]? = some byte

variable {file : ReadFile} {call : ExactRead}

/-- A file without a handle keeps no offset. -/
def Idle (file : ReadFile) : Prop := file.handle = none → file.offset = 0

/-- The handle that a call reads with, before the seek: the one there is, or a new one. -/
def Uses (file : ReadFile) (call : ExactRead) (handle : Lib.BufReader UInt8) : Prop :=
  file.handle = some handle ∨
    file.handle = none ∧ handle = Lib.BufReader.new.fillBuf readerCapacity call.contents

theorem loadHandle_spec
    {opened : ReadFile}
    (loads : file.loadHandle call = .ok opened) :
    opened.handle = none ∧ opened = file ∨
      ∃ handle, file.Uses call handle ∧ opened = { file with handle := some handle } := by
  unfold loadHandle at loads
  split at loads
  · next isFile absent =>
      split at loads
      · cases loads
      · cases loads
        exact .inr ⟨_, .inr ⟨absent, rfl⟩, rfl⟩
  · cases loads
    cases held : file.handle with
    | none => exact .inl ⟨rfl, rfl⟩
    | some handle =>
        refine .inr ⟨handle, .inl held, ?_⟩
        rw [← held]

/-- What is left for a reader decides how its buffer is filled. -/
theorem fill_cases (file : ReadFile) (call : ExactRead) (reader : Lib.BufReader UInt8) :
    ∃ after, Lib.BufReader.Taken call.contents reader
        ((reader.rest call.contents).take call.length) after ∧
      ((reader.rest call.contents).length < call.length ∧
          file.fill call reader =
            (.error (.fileError file.path "failed to fill whole buffer"),
              { file with handle := some after }) ∨
        call.length ≤ (reader.rest call.contents).length ∧
          file.fill call reader =
            (.ok ((reader.rest call.contents).take call.length), file.advance call after)) := by
  have spec := Lib.BufReader.readExact_spec readerCapacity call.contents reader call.length
  unfold fill
  split
  · next after is =>
      rw [is] at spec
      refine ⟨after, spec.2, .inl ⟨?_, rfl⟩⟩
      by_contra enough
      rw [if_pos (Nat.not_lt.mp enough)] at spec
      cases spec.1
  · next buf after is =>
      rw [is] at spec
      refine ⟨after, spec.2, .inr ?_⟩
      by_cases enough : call.length ≤ (reader.rest call.contents).length
      · rw [if_pos enough, Option.some.injEq] at spec
        exact ⟨enough, by rw [spec.1]⟩
      · rw [if_neg enough] at spec
        cases spec.1

/-- What a call does: it stops before the read, or it fills the buffer from a reader. -/
theorem readExactAt_cases (file : ReadFile) (call : ExactRead) :
    (∃ error, file.readExactAt call = (.error error, file)) ∨
    ∃ handle, file.Uses call handle ∧
      ((∃ error, file.readExactAt call = (.error error, { file with handle := some handle })) ∨
        file.readExactAt call =
          { file with handle := some handle }.fill call (file.seeked call handle)) := by
  unfold readExactAt
  split
  · next error _ => exact .inl ⟨error, rfl⟩
  · next opened loads =>
      rcases loadHandle_spec loads with ⟨absent, rfl⟩ | ⟨handle, uses, rfl⟩
      · rw [absent]
        exact .inl ⟨_, rfl⟩
      · refine .inr ⟨handle, uses, ?_⟩
        dsimp only
        split
        · exact .inl ⟨_, rfl⟩
        · exact .inr rfl

theorem Uses.loaded
    {handle : Lib.BufReader UInt8}
    (uses : file.Uses call handle)
    {place : Nat}
    {byte : UInt8}
    (held : handle.loaded place = some byte) :
    file.loaded place = some byte ∨ call.contents[place]? = some byte := by
  rcases uses with there | ⟨_, rfl⟩
  · left
    rw [ReadFile.loaded, there]
    exact held
  · rcases Lib.BufReader.taken_fillBuf.loaded place byte held with early | inFile
    · cases early
    · exact .inr inFile

/-- A handle that does not stray stands at the offset that is kept. -/
theorem Uses.place
    {handle : Lib.BufReader UInt8}
    (uses : file.Uses call handle)
    (idle : file.Idle)
    (settled : ¬file.Strays) :
    handle.place = file.offset := by
  rcases uses with there | ⟨absent, rfl⟩
  · by_contra apart
    exact settled ⟨handle, there, apart⟩
  · rw [idle absent]
    exact Lib.BufReader.taken_fillBuf.place

theorem loaded_seeked
    {handle : Lib.BufReader UInt8}
    {place : Nat}
    {byte : UInt8}
    (held : (file.seeked call handle).loaded place = some byte) :
    handle.loaded place = some byte := by
  unfold seeked at held
  split at held
  · simp [Lib.BufReader.loaded, Lib.BufReader.seek] at held
  · exact held

theorem place_seeked
    {handle : Lib.BufReader UInt8}
    (uses : file.Uses call handle)
    (idle : file.Idle)
    (resumes : file.Resumes call) :
    (file.seeked call handle).place = call.offset := by
  unfold seeked
  split
  · rfl
  · next same =>
      have same := not_not.mp same
      rw [uses.place idle (resumes same), same]

/-- A call that finds the handle in its place fills the buffer from its offset. -/
theorem fills_of_resumes
    (idle : file.Idle)
    (resumes : file.Resumes call)
    {buf : Bytes}
    (succeeds : (file.readExactAt call).1 = .ok buf) :
    file.Fills call buf := by
  rcases readExactAt_cases file call with ⟨error, is⟩ | ⟨handle, uses, ⟨error, is⟩ | is⟩
  · rw [is] at succeeds
    cases succeeds
  · rw [is] at succeeds
    cases succeeds
  · rw [is] at succeeds
    obtain ⟨after, taken, ⟨_, is⟩ | ⟨enough, is⟩⟩ :=
      fill_cases { file with handle := some handle } call (file.seeked call handle)
    · rw [is] at succeeds
      cases succeeds
    · rw [is] at succeeds
      cases succeeds
      refine ⟨List.length_take_of_le enough, ?_⟩
      intro index inside
      have isByte := List.getElem?_eq_getElem (Nat.lt_of_lt_of_le inside enough)
      refine ⟨_, (List.getElem?_take_of_lt inside).trans isByte, ?_⟩
      rw [Lib.BufReader.getElem?_rest, place_seeked uses idle resumes,
        Option.or_eq_some_iff] at isByte
      rcases isByte with held | ⟨_, inFile⟩
      · exact (uses.loaded (loaded_seeked held)).symm
      · exact .inl inFile

/-- After a call the handle is the one before, the one that was used, or one from which the
buffer was filled. -/
theorem step_handle
    {later : Lib.BufReader UInt8}
    (is : (file.step call).handle = some later) :
    file.handle = some later ∨ ∃ handle, file.Uses call handle ∧
      (later = handle ∨ ∃ data,
        Lib.BufReader.Taken call.contents (file.seeked call handle) data later) := by
  unfold step at is
  rcases readExactAt_cases file call with ⟨error, stops⟩ | ⟨handle, uses, ⟨error, stops⟩ | fills⟩
  · rw [stops] at is
    exact .inl is
  · rw [stops] at is
    exact .inr ⟨handle, uses, .inl (Option.some.inj is.symm)⟩
  · rw [fills] at is
    obtain ⟨after, taken, ⟨_, filled⟩ | ⟨_, filled⟩⟩ :=
      fill_cases { file with handle := some handle } call (file.seeked call handle)
    · rw [filled] at is
      cases is
      exact .inr ⟨handle, uses, .inr ⟨_, taken⟩⟩
    · rw [filled] at is
      unfold advance at is
      dsimp only at is
      split at is
      · cases is
      · cases is
        exact .inr ⟨handle, uses, .inr ⟨_, taken⟩⟩

/-- What the reader has loaded after a call was loaded before or is in the file now. -/
theorem loaded_step
    {place : Nat}
    {byte : UInt8}
    (held : (file.step call).loaded place = some byte) :
    file.loaded place = some byte ∨ call.contents[place]? = some byte := by
  obtain ⟨later, is, held⟩ := Option.bind_eq_some_iff.mp held
  rcases step_handle is with there | ⟨handle, uses, rfl | ⟨data, taken⟩⟩
  · left
    rw [loaded, there]
    exact held
  · exact uses.loaded held
  · rcases taken.loaded place byte held with early | inFile
    · exact uses.loaded (loaded_seeked early)
    · exact .inr inFile

theorem Remembers.step
    {calls : List ExactRead}
    (remembers : file.Remembers calls)
    (call : ExactRead) :
    (file.step call).Remembers (calls ++ [call]) := by
  intro place byte held
  rcases loaded_step held with early | inFile
  · obtain ⟨earlier, among, was⟩ := remembers place byte early
    exact ⟨earlier, List.mem_append_left [call] among, was⟩
  · exact ⟨call, List.mem_append_right calls (List.mem_singleton_self call), inFile⟩

theorem Idle.step (idle : file.Idle) (call : ExactRead) : (file.step call).Idle := by
  intro absent
  unfold ReadFile.step at absent ⊢
  rcases readExactAt_cases file call with ⟨error, stops⟩ | ⟨handle, uses, ⟨error, stops⟩ | fills⟩
  · rw [stops] at absent ⊢
    exact idle absent
  · rw [stops] at absent
    cases absent
  · rw [fills] at absent ⊢
    obtain ⟨after, taken, ⟨_, filled⟩ | ⟨_, filled⟩⟩ :=
      fill_cases { file with handle := some handle } call (file.seeked call handle)
    · rw [filled] at absent
      cases absent
    · rw [filled] at absent ⊢
      unfold advance at absent ⊢
      dsimp only at absent ⊢
      split at absent
      · next ends => rw [if_pos ends]
      · cases absent

/-- A handle strays only where it strayed before, or by a read that fails because the file is
too short: it stops where the file and what was loaded of it end. -/
theorem strays_step
    (idle : file.Idle)
    (strays : (file.step call).Strays) :
    file.Strays ∨ call.contents.length < call.offset + call.length := by
  by_cases settled : file.Strays
  · exact .inl settled
  · right
    obtain ⟨later, there, apart⟩ := strays
    unfold step at there apart
    rcases readExactAt_cases file call with ⟨error, is⟩ | ⟨handle, uses, ⟨error, is⟩ | fills⟩
    · rw [is] at there apart
      exact absurd ⟨later, there, apart⟩ settled
    · rw [is] at there apart
      cases there
      exact absurd (uses.place idle settled) apart
    · rw [fills] at there apart
      have starts := place_seeked uses idle fun _ => settled
      obtain ⟨after, taken, ⟨short, filled⟩ | ⟨enough, filled⟩⟩ :=
        fill_cases { file with handle := some handle } call (file.seeked call handle)
      · have bound := Lib.BufReader.length_le_place_add_rest call.contents
          (file.seeked call handle)
        omega
      · rw [filled] at there apart
        unfold advance at there apart
        dsimp only at there apart
        split at there
        · cases there
        · next more =>
            cases there
            rw [if_neg more, taken.place, starts, List.length_take_of_le enough] at apart
            exact absurd rfl apart

/-! ## Files that do not change -/

/-- The reader shows contents that do not change from its place on. -/
def Shows (file : ReadFile) (contents : Bytes) : Prop :=
  ∀ reader, file.handle = some reader → reader.rest contents = contents.drop reader.place

/-- The record of a file with contents that do not change: of its reader only the place is
kept. -/
def plain (file : ReadFile) (contents : Bytes) (record : LocalFile) : LocalFile :=
  { record with
    path := file.path
    isDir := file.isDir
    size := file.size
    handle := file.handle.map fun reader => ⟨contents, reader.place⟩
    offset := file.offset }

theorem rest_eq_drop
    {contents data : Bytes}
    {reader after : Lib.BufReader UInt8}
    (shows : reader.rest contents = contents.drop reader.place)
    (taken : Lib.BufReader.Taken contents reader data after) :
    after.rest contents = contents.drop after.place := by
  have left := taken.rest
  rw [shows] at left
  rw [taken.place, ← List.drop_drop, ← left, List.drop_left]

theorem loadHandle_plain
    {disk : Disk}
    (record : LocalFile)
    (onDisk : disk.contents file.path =
      match call.refused with
      | none => .ok call.contents
      | some err => .error err) :
    (file.plain call.contents record).loadHandle disk =
      (file.loadHandle call).map fun opened => opened.plain call.contents record := by
  have place : (Lib.BufReader.new.fillBuf readerCapacity call.contents).place = 0 :=
    Lib.BufReader.taken_fillBuf.place
  unfold LocalFile.loadHandle loadHandle
  cases isDir : file.isDir with
  | true => simp [plain, isDir, Except.map]
  | false =>
      cases handle : file.handle with
      | none =>
          cases refused : call.refused <;>
            simp [plain, isDir, handle, onDisk, refused, place, Except.map]
      | some reader => simp [plain, isDir, handle, Except.map]

theorem loadHandle_shows
    {opened : ReadFile}
    (shows : file.Shows call.contents)
    (loads : file.loadHandle call = .ok opened) :
    opened.Shows call.contents := by
  rcases loadHandle_spec loads with ⟨_, rfl⟩ | ⟨handle, there | ⟨_, rfl⟩, rfl⟩
  · exact shows
  · rintro reader ⟨⟩
    exact shows handle there
  · rintro reader ⟨⟩
    exact rest_eq_drop rfl Lib.BufReader.taken_fillBuf

/-- The handle of the record with the place alone is moved as the reader is. -/
theorem fill_plain
    (record : LocalFile)
    {reader : Lib.BufReader UInt8}
    (shows : reader.rest call.contents = call.contents.drop reader.place) :
    (if call.length = 0 ∨ reader.place + call.length ≤ call.contents.length then
        if file.size.toNat ≤ call.offset + call.length then
          (.ok ((call.contents.drop reader.place).take call.length),
            { file.plain call.contents record with offset := 0, handle := none })
        else
          (.ok ((call.contents.drop reader.place).take call.length),
            { file.plain call.contents record with
              offset := call.offset + call.length
              handle := some ⟨call.contents, reader.place + call.length⟩ })
      else
        (.error (.fileError file.path "failed to fill whole buffer"),
          { file.plain call.contents record with
            handle := some ⟨call.contents, max reader.place call.contents.length⟩ })) =
      ((file.fill call reader).1, (file.fill call reader).2.plain call.contents record) ∧
    (file.fill call reader).2.Shows call.contents := by
  obtain ⟨after, taken, ⟨short, is⟩ | ⟨enough, is⟩⟩ := fill_cases file call reader
  · have place := taken.place
    have rest := rest_eq_drop shows taken
    rw [shows, List.length_drop] at short
    rw [shows, List.length_take, List.length_drop] at place
    rw [is, if_neg (by omega)]
    refine ⟨?_, ?_⟩
    · simp only [plain, Option.map_some, place]
      congr 5
      omega
    · rintro later ⟨⟩
      exact rest
  · have place := taken.place
    have rest := rest_eq_drop shows taken
    rw [List.length_take_of_le enough] at place
    rw [shows, List.length_drop] at enough
    rw [is, if_pos (by omega), shows]
    unfold advance
    dsimp only
    split
    · refine ⟨rfl, ?_⟩
      intro later absent
      cases absent
    · refine ⟨?_, ?_⟩
      · simp only [plain, Option.map_some, place]
      · rintro later ⟨⟩
        exact rest

/-- Where a file does not change, the record with the place alone is read in the same way. -/
theorem readExactAt_plain
    {disk : Disk}
    (record : LocalFile)
    (shows : file.Shows call.contents)
    (onDisk : disk.contents file.path =
      match call.refused with
      | none => .ok call.contents
      | some err => .error err) :
    (file.plain call.contents record).readExactAt disk call.length call.offset =
        ((file.readExactAt call).1, (file.step call).plain call.contents record) ∧
      (file.step call).Shows call.contents := by
  unfold step readExactAt LocalFile.readExactAt
  rw [loadHandle_plain record onDisk]
  cases loads : file.loadHandle call with
  | error error => exact ⟨rfl, shows⟩
  | ok opened =>
      have opensShown := loadHandle_shows shows loads
      cases handle : opened.handle with
      | none =>
          have held : (opened.plain call.contents record).handle = none := by
            simp [plain, handle]
          simp only [Except.map, held, handle]
          exact ⟨rfl, opensShown⟩
      | some reader =>
          have held : (opened.plain call.contents record).handle =
              some ⟨call.contents, reader.place⟩ := by simp [plain, handle]
          have offset : (opened.plain call.contents record).offset = opened.offset := rfl
          simp only [Except.map, held, offset, handle]
          by_cases refused : call.offset ≠ opened.offset ∧ 2 ^ 63 ≤ call.offset
          · rw [if_pos refused, if_pos refused]
            exact ⟨rfl, opensShown⟩
          · rw [if_neg refused, if_neg refused]
            have shown : (opened.seeked call reader).rest call.contents =
                call.contents.drop (opened.seeked call reader).place := by
              unfold seeked
              split
              · rfl
              · exact opensShown reader handle
            have place : (opened.seeked call reader).place =
                if call.offset ≠ opened.offset then call.offset else reader.place := by
              unfold seeked
              split <;> rfl
            rw [← place]
            exact fill_plain record shown

/-- A file that has been listed and not been read. -/
def listed (path : Path) (isDir : Bool) (size : UInt64) : ReadFile := ⟨path, isDir, size, none, 0⟩

/-- What has been loaded at some time of a run was in the file at an earlier call. -/
theorem remembers_run
    (path : Path)
    (isDir : Bool)
    (size : UInt64)
    (calls : List ExactRead) :
    (Lib.run step (listed path isDir size) calls).Remembers calls := by
  induction calls using List.reverseRecOn with
  | nil =>
      intro place byte held
      cases held
  | append_singleton calls call inductionHypothesis =>
      rw [Lib.run_concat]
      exact inductionHypothesis.step call

/-- In a run in which no call goes on at the kept offset while the handle is elsewhere, every
call that succeeds fills its buffer from its offset, with bytes that the file has then or that
the reader loaded from the same place at an earlier call. -/
theorem fills_of_along_resumes
    (path : Path)
    (isDir : Bool)
    (size : UInt64)
    (calls : List ExactRead)
    (resume : Lib.Along step Resumes (listed path isDir size) calls) :
    ∀ before call after, calls = before ++ call :: after →
      (Lib.run step (listed path isDir size) before).Remembers before ∧
      ∀ buf, ((Lib.run step (listed path isDir size) before).readExactAt call).1 = .ok buf →
        (Lib.run step (listed path isDir size) before).Fills call buf := by
  rintro before call after rfl
  have idle : (Lib.run step (listed path isDir size) before).Idle :=
    Lib.run_invariant_always Idle (fun _ call idle => idle.step call) before fun _ => rfl
  refine ⟨?_, fun buf => fills_of_resumes idle
    (Lib.along_iff_forall_split.mp resume before call after rfl)⟩
  exact remembers_run path isDir size before

/-- A call for bytes behind the end of a file of two bytes. -/
def shortCall : ExactRead := ⟨[65, 66], none, 2, 4⟩

/-- A call for two bytes of the file when it has eight. -/
def longCall (offset : Nat) : ExactRead := ⟨[65, 66, 67, 68, 69, 70, 71, 72], none, 2, offset⟩

/-- After the short read the bytes at 4 are given for the bytes at 0. -/
theorem short_read_misplaces_next :
    ((Lib.run step (listed [47, 102] false 8) [shortCall]).readExactAt (longCall 0)).1 =
        .ok [69, 70] ∧
      ¬(Lib.run step (listed [47, 102] false 8) [shortCall]).Fills (longCall 0) [69, 70] := by
  refine ⟨by decide, ?_⟩
  rintro ⟨_, filled⟩
  obtain ⟨byte, is, inFile | held⟩ := filled 0 (by decide)
  · cases is
    exact absurd inFile (by decide)
  · cases is
    exact absurd held (by decide)

/-- A call after the short read that seeks is filled from its offset. -/
theorem seek_after_short_read :
    Lib.Along step Resumes (listed [47, 102] false 8) [shortCall, longCall 2] ∧
      ∀ before call after, [shortCall, longCall 2] = before ++ call :: after →
        (Lib.run step (listed [47, 102] false 8) before).Remembers before ∧
        ∀ buf,
          ((Lib.run step (listed [47, 102] false 8) before).readExactAt call).1 = .ok buf →
          (Lib.run step (listed [47, 102] false 8) before).Fills call buf := by
  have resume : Lib.Along step Resumes (listed [47, 102] false 8) [shortCall, longCall 2] := by
    refine ⟨?_, ?_, trivial⟩
    · decide
    · decide
  exact ⟨resume, fills_of_along_resumes _ _ _ _ resume⟩

end ReadFile

end Clipboard
end OneDesk
