import OneDesk.Clipboard.FileDescription

/-!
# Serving files

A host serves the files of its clipboard by their position in a list.  A handle is
cached for every file that is read, and the next file is opened ahead of its first
request.
-/

namespace OneDesk
namespace Clipboard

open OneDesk.Stream

/-- An `i32` as `usize`. -/
def asUsize (index : BitVec 32) : Nat :=
  (index.signExtend 64).toNat

/-- `FileContentsRequest` of the serving side. -/
inductive FileContentsRequest
  | size (streamId : BitVec 32) (fileIdx : Nat)
  | range (streamId : BitVec 32) (fileIdx : Nat) (offset length : BitVec 64)
  deriving DecidableEq

/-- The stream of a request. -/
def FileContentsRequest.streamId : FileContentsRequest → BitVec 32
  | .size streamId _ => streamId
  | .range streamId _ _ _ => streamId

/-- The position of the file in a request. -/
def FileContentsRequest.fileIdx : FileContentsRequest → Nat
  | .size _ fileIdx => fileIdx
  | .range _ fileIdx _ _ => fileIdx

/-- `ClipboardFile`, as far as files are served. -/
inductive ClipboardFile
  | fileContentsRequest
      (streamId listIndex dwFlags nPositionLow nPositionHigh cbRequested : BitVec 32)
      (haveClipDataId : Bool) (clipDataId : BitVec 32)
  | fileContentsResponse (msgFlags streamId : BitVec 32) (requestedData : Bytes)
  | files (files : List (List Char × UInt64))
  | other
  deriving DecidableEq

/-- How serving a request fails: with an error of the clipboard, or with an addition
that overflows. -/
inductive ServeError
  | cliprdr (error : CliprdrError)
  | overflow
  deriving DecidableEq

namespace LocalFile

variable (disk : Disk) (file : LocalFile)

/-- `LocalFile::load_handle`. -/
def loadHandle : Except CliprdrError LocalFile :=
  match file.isDir, file.handle with
  | false, none =>
      match disk.contents file.path with
      | .error err => .error (.fileError file.path err)
      | .ok contents => .ok { file with handle := some ⟨contents, 0⟩ }
  | _, _ => .ok file

/-- `LocalFile::read_exact_at` for a buffer of some length. -/
def readExactAt (length offset : Nat) : Except CliprdrError Bytes × LocalFile :=
  match file.loadHandle disk with
  | .error error => (.error error, file)
  | .ok file =>
      match file.handle with
      | none => (.error (.fileError file.path "file handle not found"), file)
      | some handle =>
          if offset ≠ file.offset ∧ 2 ^ 63 ≤ offset then
            (.error (.fileError file.path "Invalid argument"), file)
          else
            let position := if offset ≠ file.offset then offset else handle.position
            if length = 0 ∨ position + length ≤ handle.contents.length then
              let buf := (handle.contents.drop position).take length
              let newOffset := offset + length
              if file.size.toNat ≤ newOffset then
                (.ok buf, { file with offset := 0, handle := none })
              else
                (.ok buf, { file with
                  offset := newOffset
                  handle := some { handle with position := position + length } })
            else
              (.error (.fileError file.path "failed to fill whole buffer"), { file with
                handle := some { handle with
                  position := max position handle.contents.length } })

end LocalFile

/-- `ClipFiles`. -/
structure ClipFiles where
  files : List Path
  fileList : List LocalFile
  firstFileIndex : Nat
  filesPdu : Bytes
  deriving DecidableEq

namespace ClipFiles

/-- `ClipFiles::default`. -/
def default : ClipFiles := ⟨[], [], 0, []⟩

variable (disk : Disk) (clipFiles : ClipFiles)

/-- `usize::MAX`. -/
def usizeMax : Nat := 2 ^ 64 - 1

/-- `ClipFiles::clear`. -/
def clear : ClipFiles := ⟨[], [], usizeMax, []⟩

/-- `Path::is_dir`. -/
def isDir (path : Path) : Bool :=
  match disk.metadata path with
  | .ok mt => mt.isDir
  | .error _ => false

/-- `Path::is_file`. -/
def isFile (path : Path) : Bool :=
  match disk.metadata path with
  | .ok mt => mt.isFile
  | .error _ => false

/-- `ClipFiles::sync_files` when the list has been constructed. -/
def relist (clipboardFiles : List Path) (fileList : List LocalFile) : ClipFiles where
  files := clipboardFiles
  fileList := fileList
  firstFileIndex := (fileList.findIdx? fun file => !isDir disk file.path).getD usizeMax
  filesPdu := clipFiles.filesPdu

/-- How `sync_files` ends. -/
inductive Synced
  | ok
  | error (error : CliprdrError)
  /-- A record of the list cannot be written. -/
  | panicked
  deriving DecidableEq

/-- `sync_files`. -/
def syncFiles (files : List Path) : Synced × ClipFiles :=
  if clipFiles.files = files then (.ok, clipFiles)
  else
    match constructFileList disk files with
    | .error error => (.error error, clipFiles)
    | .ok fileList =>
        match fileListPdu fileList with
        | none => (.panicked, clipFiles.relist disk files fileList)
        | some pdu => (.ok, { clipFiles.relist disk files fileList with filesPdu := pdu })

/-- `ClipFiles::get_files_for_audit`. -/
def getFilesForAudit (request : FileContentsRequest) : Option ClipboardFile :=
  match request with
  | .size _ _ => none
  | .range _ fileIdx offset _ =>
      if fileIdx = clipFiles.firstFileIndex ∧ offset = 0 then
        let files := (clipFiles.fileList.filter fun file => isFile disk file.path).map
          fun file => (Lib.fromUtf8Lossy file.path, file.size)
        if files = [] then none else some (.files files)
      else none

/-- The next file that is no directory is opened. -/
def hotReload : List LocalFile → Except CliprdrError (List LocalFile)
  | [] => .ok []
  | file :: files =>
      if file.isDir then (hotReload files).map fun files => file :: files
      else (file.loadHandle disk).map fun file => file :: files

/-- The answer to a request, once it is known: the next file is opened first. -/
def answer (fileIdx : Nat) (response : ClipboardFile) (fileList : List LocalFile) :
    Except ServeError ClipboardFile × ClipFiles :=
  match hotReload disk (fileList.drop (fileIdx + 1)) with
  | .error error =>
      (.error (.cliprdr error), { clipFiles with fileList := fileList })
  | .ok reloaded =>
      (.ok response,
        { clipFiles with fileList := fileList.take (fileIdx + 1) ++ reloaded })

/-- `ClipFiles::serve_file_contents`. -/
def serveFileContents (connId : Int) (request : FileContentsRequest) :
    Except ServeError ClipboardFile × ClipFiles :=
  match request with
  | .size streamId fileIdx =>
      match clipFiles.fileList[fileIdx]? with
      | none =>
          (.error (.cliprdr (.invalidRequest ("invalid file index " ++ toString fileIdx ++
            " requested from conn: " ++ toString connId))), clipFiles)
      | some file =>
          clipFiles.answer disk fileIdx
            (.fileContentsResponse 0x1 streamId (Lib.littleEndian 8 file.size.toNat))
            clipFiles.fileList
  | .range streamId fileIdx offset length =>
      match clipFiles.fileList[fileIdx]? with
      | none =>
          (.error (.cliprdr (.invalidRequest ("invalid file index " ++ toString fileIdx ++
            " requested from conn: " ++ toString connId))), clipFiles)
      | some file =>
          if file.size.toNat < offset.toNat then
            (.error (.cliprdr (.invalidRequest
              ("invalid reading offset requested from conn: " ++ toString connId))),
              clipFiles)
          else if 2 ^ 64 ≤ offset.toNat + length.toNat then (.error .overflow, clipFiles)
          else
            let readSize :=
              if file.size.toNat < offset.toNat + length.toNat then
                file.size.toNat - offset.toNat
              else length.toNat
            match file.readExactAt disk readSize offset.toNat with
            | (.error error, file) =>
                (.error (.cliprdr error),
                  { clipFiles with fileList := clipFiles.fileList.set fileIdx file })
            | (.ok buf, file) =>
                clipFiles.answer disk fileIdx (.fileContentsResponse 0x1 streamId buf)
                  (clipFiles.fileList.set fileIdx file)

/-- The request that is meant by the fields of a message. -/
def requestOf (streamId listIndex dwFlags nPositionLow nPositionHigh cbRequested : BitVec 32) :
    Option FileContentsRequest :=
  if dwFlags = 0x1 then some (.size streamId (asUsize listIndex))
  else if dwFlags = 0x2 then
    -- Both halves of the position and the length are extended with their sign.
    some (.range streamId (asUsize listIndex)
      (nPositionHigh.signExtend 64 <<< 32 ||| nPositionLow.signExtend 64)
      (cbRequested.signExtend 64))
  else none

/-- `read_file_contents`. -/
def readFileContents (connId : Int)
    (streamId listIndex dwFlags nPositionLow nPositionHigh cbRequested : BitVec 32) :
    List (Except ServeError ClipboardFile) × ClipFiles :=
  match requestOf streamId listIndex dwFlags nPositionLow nPositionHigh cbRequested with
  | none =>
      ([.error (.cliprdr (.invalidRequest
        ("got invalid FileContentsRequest, dw_flats: " ++ toString dwFlags.toInt)))],
        clipFiles)
  | some request =>
      let served := clipFiles.serveFileContents disk connId request
      ((clipFiles.getFilesForAudit disk request).toList.map .ok ++ [served.1], served.2)

end ClipFiles

/-! ## Cached handles -/

/-- A record agrees with its file: it has the size the file has, and a cached handle
reads the contents of the file from the offset on. -/
structure LocalFile.Known (disk : Disk) (file : LocalFile) : Prop where
  listed : ∃ mt, disk.metadata file.path = .ok mt ∧ file.size = mt.len
  idle : file.handle = none → file.offset = 0
  reading : ∀ handle, file.handle = some handle →
    disk.contents file.path = .ok handle.contents ∧ handle.position = file.offset

/-- Two records of one file, which may differ in the handle. -/
structure LocalFile.Alike (file other : LocalFile) : Prop where
  path : other.path = file.path
  size : other.size = file.size
  isDir : other.isDir = file.isDir

/-- Some bytes of some contents. -/
def slice (contents : Bytes) (offset length : Nat) : Bytes :=
  (contents.drop offset).take length

namespace LocalFile

variable {disk : Disk} {file loaded : LocalFile}

theorem Alike.refl (file : LocalFile) : file.Alike file := ⟨rfl, rfl, rfl⟩

theorem Alike.trans
    {other last : LocalFile}
    (first : file.Alike other)
    (second : other.Alike last) :
    file.Alike last :=
  ⟨second.path.trans first.path, second.size.trans first.size,
    second.isDir.trans first.isDir⟩

/-- A record knows how long its file is. -/
theorem Known.length_contents
    (known : file.Known disk)
    {contents : Bytes}
    (readable : disk.contents file.path = .ok contents) :
    contents.length = file.size.toNat := by
  obtain ⟨mt, isListed, size⟩ := known.listed
  rw [size]
  exact disk.length_contents _ _ _ isListed readable

theorem loadHandle_known
    (known : file.Known disk)
    (opened : file.loadHandle disk = .ok loaded) :
    loaded.Known disk ∧ file.Alike loaded := by
  unfold loadHandle at opened
  split at opened
  · next isFile noHandle =>
      split at opened
      · cases opened
      · next contents read =>
          cases opened
          refine ⟨⟨known.listed, ?_, ?_⟩, ⟨rfl, rfl, rfl⟩⟩
          · intro absent
            cases absent
          · intro handle isHandle
            cases isHandle
            exact ⟨read, (known.idle noHandle).symm⟩
  · cases opened
    exact ⟨known, .refl file⟩

/-- A file is loaded with a handle if it can be opened or has been. -/
theorem loadHandle_ok_iff
    (isFile : file.isDir = false) :
    (∃ loaded, file.loadHandle disk = .ok loaded) ↔
      file.handle ≠ none ∨ ∃ contents, disk.contents file.path = .ok contents := by
  unfold loadHandle
  rw [isFile]
  cases handle : file.handle with
  | none =>
      cases contents : disk.contents file.path with
      | error err => simp
      | ok bytes => simp
  | some handle => simp

theorem handle_of_loadHandle
    (isFile : file.isDir = false)
    (opened : file.loadHandle disk = .ok loaded) :
    loaded.handle ≠ none := by
  unfold loadHandle at opened
  split at opened
  · split at opened
    · cases opened
    · cases opened
      simp
  · next other =>
      cases opened
      intro absent
      exact other isFile absent

variable {length offset : Nat}

/-- What is read inside a file leaves its record in order, and is the bytes that are
asked for. -/
theorem readExactAt_known
    (known : file.Known disk)
    (within : offset + length ≤ file.size.toNat) :
    (file.readExactAt disk length offset).2.Known disk ∧
      file.Alike (file.readExactAt disk length offset).2 ∧
      ∀ buf, (file.readExactAt disk length offset).1 = .ok buf →
        ∃ contents, disk.contents file.path = .ok contents ∧
          buf = slice contents offset length := by
  unfold readExactAt
  split
  · exact ⟨known, .refl file, nofun⟩
  · next loaded opened =>
      obtain ⟨loadedKnown, alike⟩ := loadHandle_known known opened
      split
      · exact ⟨loadedKnown, alike, nofun⟩
      · next handle isHandle =>
          obtain ⟨read, position⟩ := loadedKnown.reading handle isHandle
          have atOffset : (if offset ≠ loaded.offset then offset else handle.position) =
              offset := by
            split
            · rfl
            · omega
          have whole : handle.contents.length = file.size.toNat :=
            known.length_contents (alike.path ▸ read)
          split
          · exact ⟨loadedKnown, alike, nofun⟩
          · dsimp only
            rw [atOffset, if_pos (.inr (by omega))]
            split
            · refine ⟨⟨loadedKnown.listed, fun _ => rfl, ?_⟩, ?_, ?_⟩
              · intro other isOther
                cases isOther
              · exact ⟨alike.path, alike.size, alike.isDir⟩
              · rintro buf ⟨⟩
                exact ⟨handle.contents, alike.path ▸ read, rfl⟩
            · refine ⟨⟨loadedKnown.listed, ?_, ?_⟩, ?_, ?_⟩
              · intro absent
                cases absent
              · intro other isOther
                cases isOther
                exact ⟨read, rfl⟩
              · exact ⟨alike.path, alike.size, alike.isDir⟩
              · rintro buf ⟨⟩
                exact ⟨handle.contents, alike.path ▸ read, rfl⟩

/-- A file that can be opened is read. -/
theorem readExactAt_ok
    (known : file.Known disk)
    (within : offset + length ≤ file.size.toNat)
    (isFile : file.isDir = false)
    (small : offset < 2 ^ 63)
    {contents : Bytes}
    (readable : disk.contents file.path = .ok contents) :
    (file.readExactAt disk length offset).1 = .ok (slice contents offset length) := by
  have whole := known.length_contents readable
  obtain ⟨loaded, opened⟩ := (loadHandle_ok_iff isFile).mpr (.inr ⟨contents, readable⟩)
  obtain ⟨loadedKnown, alike⟩ := loadHandle_known known opened
  obtain ⟨handle, isHandle⟩ := Option.ne_none_iff_exists'.mp
    (handle_of_loadHandle isFile opened)
  obtain ⟨read, position⟩ := loadedKnown.reading handle isHandle
  rw [alike.path, readable, Except.ok.injEq] at read
  have succeeds : ∃ buf, (file.readExactAt disk length offset).1 = .ok buf := by
    have atOffset : (if offset ≠ loaded.offset then offset else handle.position) =
        offset := by
      split
      · rfl
      · omega
    have room : length = 0 ∨ offset + length ≤ handle.contents.length := by
      rw [← read]
      exact .inr (by omega)
    unfold readExactAt
    simp only [opened, isHandle, atOffset, if_pos room]
    rw [if_neg (by omega)]
    split <;> exact ⟨_, rfl⟩
  obtain ⟨buf, isBuf⟩ := succeeds
  obtain ⟨_, _, correct⟩ := readExactAt_known known within
  obtain ⟨same, isSame, isSlice⟩ := correct buf isBuf
  rw [readable, Except.ok.injEq] at isSame
  rw [isBuf, isSlice, isSame]

end LocalFile

namespace ClipFiles

variable {disk : Disk} {clipFiles : ClipFiles}

/-- Every record of the list is in order. -/
def Known (disk : Disk) (fileList : List LocalFile) : Prop :=
  ∀ file ∈ fileList, file.Known disk

/-- Two lists of the same files. -/
def Alike (fileList other : List LocalFile) : Prop :=
  List.Forall₂ LocalFile.Alike fileList other

theorem Alike.refl (fileList : List LocalFile) : Alike fileList fileList :=
  List.forall₂_same.mpr fun file _ => .refl file

theorem hotReload_known
    {fileList reloaded : List LocalFile}
    (known : Known disk fileList)
    (done : hotReload disk fileList = .ok reloaded) :
    Known disk reloaded ∧ Alike fileList reloaded := by
  induction fileList generalizing reloaded with
  | nil =>
      cases done
      exact ⟨known, .nil⟩
  | cons file fileList inductionHypothesis =>
      have restKnown : Known disk fileList := fun other member =>
        known other (List.mem_cons_of_mem file member)
      have fileKnown : file.Known disk := known file List.mem_cons_self
      rw [hotReload] at done
      split at done
      · cases rest : hotReload disk fileList with
        | error error =>
            rw [rest] at done
            cases done
        | ok others =>
            rw [rest] at done
            cases done
            obtain ⟨othersKnown, alike⟩ := inductionHypothesis restKnown rest
            exact ⟨List.forall_mem_cons.mpr ⟨fileKnown, othersKnown⟩,
              .cons (.refl file) alike⟩
      · cases opened : file.loadHandle disk with
        | error error =>
            rw [opened] at done
            cases done
        | ok loaded =>
            rw [opened] at done
            cases done
            obtain ⟨loadedKnown, alike⟩ := LocalFile.loadHandle_known fileKnown opened
            exact ⟨List.forall_mem_cons.mpr ⟨loadedKnown, restKnown⟩,
              .cons alike (Alike.refl fileList)⟩

/-- The next file that is no directory, if any, can be opened or has been. -/
def NextOpens (disk : Disk) (fileList : List LocalFile) : Prop :=
  ∀ file, fileList.find? (fun file => !file.isDir) = some file →
    file.handle ≠ none ∨ ∃ contents, disk.contents file.path = .ok contents

theorem hotReload_ok_iff (fileList : List LocalFile) :
    (∃ reloaded, hotReload disk fileList = .ok reloaded) ↔ NextOpens disk fileList := by
  induction fileList with
  | nil => simp [hotReload, NextOpens]
  | cons file fileList inductionHypothesis =>
      rw [hotReload, NextOpens]
      cases isDir : file.isDir with
      | true =>
          simp only [if_true, List.find?_cons, isDir, Bool.not_true]
          rw [← NextOpens, ← inductionHypothesis]
          cases hotReload disk fileList <;> simp [Except.map]
      | false =>
          simp only [Bool.false_eq_true, if_false, List.find?_cons, isDir, Bool.not_false,
            Option.some.injEq, forall_eq']
          rw [← LocalFile.loadHandle_ok_iff isDir]
          cases file.loadHandle disk <;> simp [Except.map]

theorem Alike.trans
    {fileList other last : List LocalFile}
    (first : Alike fileList other)
    (second : Alike other last) :
    Alike fileList last := by
  induction first generalizing last with
  | nil => exact second
  | cons head tail inductionHypothesis =>
      cases second with
      | cons nextHead nextTail =>
          exact .cons (head.trans nextHead) (inductionHypothesis nextTail)

theorem Known.set
    {fileList : List LocalFile}
    (known : Known disk fileList)
    {file : LocalFile}
    (fileKnown : file.Known disk)
    (index : Nat) :
    Known disk (fileList.set index file) := by
  intro other member
  rcases List.mem_or_eq_of_mem_set member with old | rfl
  · exact known other old
  · exact fileKnown

theorem Alike.set
    {fileList : List LocalFile}
    {index : Nat}
    {file other : LocalFile}
    (isFile : fileList[index]? = some file)
    (alike : file.Alike other) :
    Alike fileList (fileList.set index other) := by
  rw [Alike, List.forall₂_iff_get]
  refine ⟨by simp, ?_⟩
  intro position inside inSet
  simp only [List.get_eq_getElem, List.getElem_set]
  split
  · next same =>
      subst same
      rw [List.getElem?_eq_getElem inside, Option.some.injEq] at isFile
      rw [isFile]
      exact alike
  · exact .refl _

/-- The first files stay and the rest are opened. -/
theorem answer_known
    (clipFiles : ClipFiles)
    (fileIdx : Nat)
    (response : ClipboardFile)
    {fileList : List LocalFile}
    (known : Known disk fileList) :
    Known disk (clipFiles.answer disk fileIdx response fileList).2.fileList ∧
      Alike fileList (clipFiles.answer disk fileIdx response fileList).2.fileList := by
  unfold answer
  split
  · exact ⟨known, Alike.refl fileList⟩
  · next reloaded done =>
      have restKnown : Known disk (fileList.drop (fileIdx + 1)) := fun file member =>
        known file (List.mem_of_mem_drop member)
      obtain ⟨reloadedKnown, alike⟩ := hotReload_known restKnown done
      refine ⟨?_, ?_⟩
      · intro file member
        rcases List.mem_append.mp member with first | last
        · exact known file (List.mem_of_mem_take first)
        · exact reloadedKnown file last
      · have parts : Alike (fileList.take (fileIdx + 1) ++ fileList.drop (fileIdx + 1))
            (fileList.take (fileIdx + 1) ++ reloaded) :=
          List.rel_append (Alike.refl (fileList.take (fileIdx + 1))) alike
        rwa [List.take_append_drop] at parts

/-- What an answer says is what was known. -/
theorem answer_eq_ok
    {fileIdx : Nat}
    {response answered : ClipboardFile}
    {fileList : List LocalFile}
    (succeeds : (clipFiles.answer disk fileIdx response fileList).1 = .ok answered) :
    answered = response := by
  unfold answer at succeeds
  split at succeeds
  · cases succeeds
  · cases succeeds
    rfl

theorem answer_ok_iff
    (clipFiles : ClipFiles)
    (fileIdx : Nat)
    (response : ClipboardFile)
    (fileList : List LocalFile) :
    (clipFiles.answer disk fileIdx response fileList).1 = .ok response ↔
      NextOpens disk (fileList.drop (fileIdx + 1)) := by
  rw [← hotReload_ok_iff, answer]
  cases hotReload disk (fileList.drop (fileIdx + 1)) <;> simp

/-- The bytes up to the end of a file are all that are asked for. -/
theorem slice_readSize
    {contents : Bytes}
    {size offset length : Nat}
    (whole : contents.length = size) :
    slice contents offset
        (if size < offset + length then size - offset else length) =
      slice contents offset length := by
  unfold slice
  split
  · rw [List.take_of_length_le (by simp [whole]),
      List.take_of_length_le (by rw [List.length_drop]; omega)]
  · rfl

/-- A file is listed at a position, and the data of a response are what a request for
it asks for. -/
def Answers (disk : Disk) (fileList : List LocalFile) (request : FileContentsRequest)
    (data : Bytes) : Prop :=
  match request with
  | .size _ fileIdx => ∃ file, fileList[fileIdx]? = some file ∧
      data = Lib.littleEndian 8 file.size.toNat
  | .range _ fileIdx offset length => ∃ file contents, fileList[fileIdx]? = some file ∧
      disk.contents file.path = .ok contents ∧
      data = slice contents offset.toNat length.toNat

/-- Serving a request leaves the records in order, and what is answered is what the
request asks for of the file at its position. -/
theorem serveFileContents_known
    (known : Known disk clipFiles.fileList)
    (connId : Int)
    (request : FileContentsRequest) :
    Known disk (clipFiles.serveFileContents disk connId request).2.fileList ∧
      Alike clipFiles.fileList
        (clipFiles.serveFileContents disk connId request).2.fileList ∧
      ∀ response, (clipFiles.serveFileContents disk connId request).1 = .ok response →
        ∃ data, response = .fileContentsResponse 0x1 request.streamId data ∧
          Answers disk clipFiles.fileList request data := by
  cases request with
  | size streamId fileIdx =>
      cases found : clipFiles.fileList[fileIdx]? with
      | none =>
          simp only [serveFileContents, found]
          exact ⟨known, Alike.refl _, nofun⟩
      | some file =>
          simp only [serveFileContents, found]
          obtain ⟨answerKnown, alike⟩ := answer_known clipFiles fileIdx
            (.fileContentsResponse 0x1 streamId (Lib.littleEndian 8 file.size.toNat)) known
          refine ⟨answerKnown, alike, ?_⟩
          intro response succeeds
          exact ⟨_, answer_eq_ok succeeds, file, found, rfl⟩
  | range streamId fileIdx offset length =>
      cases found : clipFiles.fileList[fileIdx]? with
      | none =>
          simp only [serveFileContents, found]
          exact ⟨known, Alike.refl _, nofun⟩
      | some file =>
          have fileKnown : file.Known disk := known file (List.mem_of_getElem? found)
          simp only [serveFileContents, found]
          split
          · exact ⟨known, Alike.refl _, nofun⟩
          · split
            · exact ⟨known, Alike.refl _, nofun⟩
            · have within : offset.toNat +
                  (if file.size.toNat < offset.toNat + length.toNat then
                    file.size.toNat - offset.toNat
                  else length.toNat) ≤ file.size.toNat := by
                split <;> omega
              obtain ⟨readKnown, readAlike, correct⟩ :=
                LocalFile.readExactAt_known fileKnown within
              have setKnown := known.set readKnown fileIdx
              have setAlike := Alike.set found readAlike
              split
              · next error after read =>
                  rw [read] at setKnown setAlike
                  exact ⟨setKnown, setAlike, nofun⟩
              · next buf after read =>
                  rw [read] at setKnown setAlike correct
                  obtain ⟨answerKnown, alike⟩ := answer_known clipFiles fileIdx
                    (.fileContentsResponse 0x1 streamId buf) setKnown
                  refine ⟨answerKnown, setAlike.trans alike, ?_⟩
                  intro response succeeds
                  obtain ⟨contents, readable, isSlice⟩ := correct buf rfl
                  refine ⟨buf, answer_eq_ok succeeds, file, contents, found, readable, ?_⟩
                  rw [isSlice, slice_readSize (fileKnown.length_contents readable)]

theorem answer_filesPdu
    (fileIdx : Nat)
    (response : ClipboardFile)
    (fileList : List LocalFile) :
    (clipFiles.answer disk fileIdx response fileList).2.filesPdu = clipFiles.filesPdu := by
  unfold answer
  split <;> rfl

/-- Serving a request leaves the written list as it is. -/
theorem serveFileContents_filesPdu
    (connId : Int)
    (request : FileContentsRequest) :
    (clipFiles.serveFileContents disk connId request).2.filesPdu = clipFiles.filesPdu := by
  cases request with
  | size streamId fileIdx =>
      rw [serveFileContents]
      split
      · rfl
      · exact answer_filesPdu _ _ _
  | range streamId fileIdx offset length =>
      rw [serveFileContents]
      split
      · rfl
      · split
        · rfl
        · split
          · rfl
          · dsimp only
            split
            · rfl
            · exact answer_filesPdu _ _ _

/-- The request of a message is for the file at the position in the message. -/
theorem requestOf_fileIdx
    {streamId listIndex dwFlags nPositionLow nPositionHigh cbRequested : BitVec 32}
    {request : FileContentsRequest}
    (isRequest : requestOf streamId listIndex dwFlags nPositionLow nPositionHigh
      cbRequested = some request) :
    request.fileIdx = asUsize listIndex := by
  unfold requestOf at isRequest
  split at isRequest
  · cases isRequest
    rfl
  · split at isRequest
    · cases isRequest
      rfl
    · cases isRequest

/-- The files of a list for the audit are no answer to a request. -/
theorem getFilesForAudit_ne_response
    {request : FileContentsRequest}
    {msgFlags streamId : BitVec 32}
    {data : Bytes} :
    clipFiles.getFilesForAudit disk request ≠
      some (.fileContentsResponse msgFlags streamId data) := by
  unfold getFilesForAudit
  split
  · simp
  · split
    · dsimp only
      split <;> simp
    · simp

end ClipFiles

end Clipboard
end OneDesk
