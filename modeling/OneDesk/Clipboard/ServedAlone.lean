import OneDesk.Clipboard.ServFiles

/-!
# Serving a file beside others

Whether a request for a file is answered should not depend on the other files of the list.
The answer is compared with what the file that is asked for says by itself.  They differ where
the file that is opened ahead of its first request cannot be opened.
-/

namespace OneDesk
namespace Clipboard

open OneDesk.Stream

namespace LocalFile

variable {disk other : Disk} {file : LocalFile}

theorem loadHandle_congr (same : other.contents file.path = disk.contents file.path) :
    file.loadHandle other = file.loadHandle disk := by
  rw [loadHandle, loadHandle, same]

/-- A read looks at the contents of its own file only. -/
theorem readExactAt_congr
    (same : other.contents file.path = disk.contents file.path)
    (length offset : Nat) :
    file.readExactAt other length offset = file.readExactAt disk length offset := by
  rw [readExactAt, readExactAt, loadHandle_congr same]

end LocalFile

namespace ClipFiles

/-- What the file that is asked for says to a request by itself, if it is listed. -/
def answerAlone (disk : Disk) (file : Option LocalFile) (connId : Int)
    (request : FileContentsRequest) : Except ServeError ClipboardFile :=
  match file, request with
  | none, request =>
      .error (.cliprdr (.invalidRequest ("invalid file index " ++ toString request.fileIdx ++
        " requested from conn: " ++ toString connId)))
  | some file, .size streamId _ =>
      .ok (.fileContentsResponse 0x1 streamId (Lib.littleEndian 8 file.size.toNat))
  | some file, .range streamId _ offset length =>
      if file.size.toNat < offset.toNat then
        .error (.cliprdr (.invalidRequest
          ("invalid reading offset requested from conn: " ++ toString connId)))
      else if 2 ^ 64 ≤ offset.toNat + length.toNat then .error .overflow
      else
        let readSize :=
          if file.size.toNat < offset.toNat + length.toNat then
            file.size.toNat - offset.toNat
          else length.toNat
        match (file.readExactAt disk readSize offset.toNat).1 with
        | .error error => .error (.cliprdr error)
        | .ok buf => .ok (.fileContentsResponse 0x1 streamId buf)

variable {disk other : Disk} {clipFiles otherFiles : ClipFiles} {connId : Int}
  {request : FileContentsRequest}

/-- What a file says by itself depends on its record and its contents. -/
theorem answerAlone_congr
    {file : Option LocalFile}
    (same : ∀ listed, file = some listed →
      other.contents listed.path = disk.contents listed.path) :
    answerAlone other file connId request = answerAlone disk file connId request := by
  cases file with
  | none => rfl
  | some listed =>
      cases request with
      | size streamId fileIdx => rfl
      | range streamId fileIdx offset length =>
          simp only [answerAlone, LocalFile.readExactAt_congr (same listed rfl)]

/-- The answer to a request is what the file that is asked for says by itself. -/
def Independent (disk : Disk) (clipFiles : ClipFiles) (connId : Int)
    (request : FileContentsRequest) : Prop :=
  (clipFiles.serveFileContents disk connId request).1 =
    answerAlone disk clipFiles.fileList[request.fileIdx]? connId request

/-- The file that is asked for refuses a request by itself. -/
def Refuses (disk : Disk) (clipFiles : ClipFiles) (connId : Int)
    (request : FileContentsRequest) : Prop :=
  ∃ error, answerAlone disk clipFiles.fileList[request.fileIdx]? connId request = .error error

/-- The files behind the one that is read stay as they are. -/
theorem drop_set_succ (fileList : List LocalFile) (index : Nat) (file : LocalFile) :
    (fileList.set index file).drop (index + 1) = fileList.drop (index + 1) := by
  rw [List.drop_set, if_pos (Nat.lt_succ_self index)]

/-- Serving a request asks the file by itself, and then opens the next file. -/
theorem serveFileContents_spec
    (disk : Disk)
    (clipFiles : ClipFiles)
    (connId : Int)
    (request : FileContentsRequest) :
    (∃ error,
      answerAlone disk clipFiles.fileList[request.fileIdx]? connId request = .error error ∧
      (clipFiles.serveFileContents disk connId request).1 = .error error) ∨
    ∃ response fileList,
      answerAlone disk clipFiles.fileList[request.fileIdx]? connId request = .ok response ∧
      fileList.drop (request.fileIdx + 1) = clipFiles.fileList.drop (request.fileIdx + 1) ∧
      clipFiles.serveFileContents disk connId request =
        clipFiles.answer disk request.fileIdx response fileList := by
  cases found : clipFiles.fileList[request.fileIdx]? with
  | none =>
      left
      cases request with
      | size streamId fileIdx =>
          change clipFiles.fileList[fileIdx]? = none at found
          rw [serveFileContents, found]
          exact ⟨_, rfl, rfl⟩
      | range streamId fileIdx offset length =>
          change clipFiles.fileList[fileIdx]? = none at found
          rw [serveFileContents, found]
          exact ⟨_, rfl, rfl⟩
  | some file =>
      cases request with
      | size streamId fileIdx =>
          change clipFiles.fileList[fileIdx]? = some file at found
          rw [serveFileContents, found]
          exact .inr ⟨_, _, rfl, rfl, rfl⟩
      | range streamId fileIdx offset length =>
          change clipFiles.fileList[fileIdx]? = some file at found
          simp only [serveFileContents, found, answerAlone]
          split
          · exact .inl ⟨_, rfl, rfl⟩
          · split
            · exact .inl ⟨_, rfl, rfl⟩
            · generalize file.readExactAt disk _ _ = read
              obtain ⟨result, after⟩ := read
              cases result with
              | error error => exact .inl ⟨_, rfl, rfl⟩
              | ok buf => exact .inr ⟨_, _, rfl, drop_set_succ _ _ _, rfl⟩

/-- The answer does not depend on the other files exactly if the file refuses the request by
itself, or the next file that is no directory, if any, can be opened or has been. -/
theorem independent_iff
    (disk : Disk)
    (clipFiles : ClipFiles)
    (connId : Int)
    (request : FileContentsRequest) :
    Independent disk clipFiles connId request ↔
      Refuses disk clipFiles connId request ∨
        NextOpens disk (clipFiles.fileList.drop (request.fileIdx + 1)) := by
  unfold Independent Refuses
  rcases serveFileContents_spec disk clipFiles connId request with
    ⟨error, alone, served⟩ | ⟨response, fileList, alone, sameRest, served⟩
  · rw [alone, served]
    exact iff_of_true rfl (.inl ⟨error, rfl⟩)
  · rw [alone, served, answer_ok_iff, sameRest]
    constructor
    · exact .inr
    · rintro (⟨error, refused⟩ | opens)
      · cases refused
      · exact opens

/-- Two situations with the same file at a position. -/
structure SameFile (disk other : Disk) (clipFiles otherFiles : ClipFiles) (fileIdx : Nat) :
    Prop where
  listed : otherFiles.fileList[fileIdx]? = clipFiles.fileList[fileIdx]?
  contents : ∀ file, clipFiles.fileList[fileIdx]? = some file →
    other.contents file.path = disk.contents file.path

/-- Requests are answered by the file that is asked for alone exactly if the file refuses or
the next file opens; situations of that kind with the same file get the same answer. -/
theorem served_alone
    (disk : Disk)
    (clipFiles : ClipFiles)
    (connId : Int)
    (request : FileContentsRequest) :
    (Independent disk clipFiles connId request ↔
      Refuses disk clipFiles connId request ∨
        NextOpens disk (clipFiles.fileList.drop (request.fileIdx + 1))) ∧
    (Independent disk clipFiles connId request →
      ∀ other otherFiles, SameFile disk other clipFiles otherFiles request.fileIdx →
        Independent other otherFiles connId request →
        (otherFiles.serveFileContents other connId request).1 =
          (clipFiles.serveFileContents disk connId request).1) := by
  refine ⟨independent_iff disk clipFiles connId request, ?_⟩
  intro alone other otherFiles same otherAlone
  rw [alone, otherAlone, same.listed]
  exact answerAlone_congr same.contents

/-- A file of one byte and a file that was deleted after it had been listed. -/
def deletedNext : Disk where
  metadata path :=
    if path = [0x2F, 0x61] then .ok ⟨1, false, true, false, some 0, 0o100644⟩
    else .error "No such file or directory"
  readDir _ := .error "Not a directory"
  contents path := if path = [0x2F, 0x61] then .ok [0x61] else .error "No such file or directory"
  length_contents := by
    intro path mt bytes found read
    split at found
    · next here =>
        rw [if_pos here] at read
        cases found
        cases read
        rfl
    · cases found

/-- The record of a file of one byte that has not been read. -/
def record (name : UInt8) : LocalFile where
  relativeRoot := [0x2F]
  path := [0x2F, name]
  handle := none
  offset := 0
  name := [Char.ofNat name.toNat]
  size := 1
  lastWriteTime := 0
  isDir := false
  perm := 0o100644
  readOnly := false
  hidden := false
  system := false
  archive := false
  normal := true

/-- Two files are served. -/
def servesTwo : ClipFiles := ⟨[[0x2F, 0x61], [0x2F, 0x62]], [record 0x61, record 0x62], 0, []⟩

/-- The first file says its byte, and the answer is that the second one does not exist. -/
theorem deleted_next_refuses :
    answerAlone deletedNext servesTwo.fileList[0]? 1 (.range 7 0 0 1) =
        .ok (.fileContentsResponse 0x1 7 [0x61]) ∧
      (servesTwo.serveFileContents deletedNext 1 (.range 7 0 0 1)).1 =
        .error (.cliprdr (.fileError [0x2F, 0x62] "No such file or directory")) := by
  decide

end ClipFiles

end Clipboard
end OneDesk
