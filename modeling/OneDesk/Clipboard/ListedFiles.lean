import OneDesk.Clipboard.ServFiles
import OneDesk.Lib.Run

/-!
# What a peer copies

A peer fetches the file list once and then names files by their position.  The list
may be replaced between any two requests, while the peer still counts by the list it
has fetched.
-/

namespace OneDesk
namespace Clipboard

open OneDesk.Stream

/-- The files of a host, with what its peers know of them. -/
structure Service where
  clipFiles : ClipFiles
  /-- The files the current file list was written for. -/
  built : List LocalFile
  /-- The files of the list each peer has fetched last, by its connection. -/
  fetched : Int → Option (List LocalFile)

/-- What the host and its peers may do. -/
inductive ServiceEvent
  | syncFiles (files : List Path)
  | clearFiles
  /-- A peer fetches the list with `get_file_list_pdu`. -/
  | getFileListPdu (connId : Int)
  /-- A peer sends a `FileContentsRequest`. -/
  | request (connId : Int)
      (streamId listIndex dwFlags nPositionLow nPositionHigh cbRequested : BitVec 32)

namespace Service

/-- A host whose clipboard holds no files. -/
def new : Service := ⟨.default, [], fun _ => none⟩

variable (disk : Disk) (service : Service)

/-- The list that is written when files are synchronized. -/
def rebuilt (files : List Path) : List LocalFile :=
  if service.clipFiles.files = files then service.built
  else
    match constructFileList disk files with
    | .error _ => service.built
    | .ok fileList => if (fileListPdu fileList).isSome then fileList else service.built

/-- What a peer is answered. -/
def answers (connId : Int)
    (streamId listIndex dwFlags nPositionLow nPositionHigh cbRequested : BitVec 32) :
    List (Except ServeError ClipboardFile) :=
  (service.clipFiles.readFileContents disk connId streamId listIndex dwFlags nPositionLow
    nPositionHigh cbRequested).1

/-- One event. -/
def step : ServiceEvent → Service
  | .syncFiles files =>
      { service with
        clipFiles := (service.clipFiles.syncFiles disk files).2
        built := service.rebuilt disk files }
  | .clearFiles => { service with clipFiles := .clear, built := [] }
  | .getFileListPdu connId =>
      { service with fetched := Function.update service.fetched connId service.built }
  | .request connId streamId listIndex dwFlags nPositionLow nPositionHigh cbRequested =>
      { service with
        clipFiles := (service.clipFiles.readFileContents disk connId streamId listIndex
          dwFlags nPositionLow nPositionHigh cbRequested).2 }

/-- A record says what the metadata of its file do. -/
def Listed (file : LocalFile) : Prop :=
  ∃ mt, disk.metadata file.path = .ok mt ∧ file.size = mt.len

/-- The records are in order, and the current file list was written for the files it
is said to be. -/
structure Sound : Prop where
  known : ClipFiles.Known disk service.clipFiles.fileList
  built : ∀ file ∈ service.built, Listed disk file
  pdu : (service.clipFiles.filesPdu = [] ∧ service.built = []) ∨
    fileListPdu service.built = some service.clipFiles.filesPdu
  fetched : ∀ connId listed, service.fetched connId = some listed →
    ∀ file ∈ listed, Listed disk file

/-- A request is about the file the peer has in mind: if there is a file at its
position, it is the one at this position of the list the peer has fetched. -/
def Careful : ServiceEvent → Prop
  | .request connId _ listIndex _ _ _ _ =>
      ∀ listed, service.fetched connId = some listed →
        ∀ file, service.clipFiles.fileList[asUsize listIndex]? = some file →
          ∃ meant, listed[asUsize listIndex]? = some meant ∧ meant.path = file.path
  | .syncFiles _ | .clearFiles | .getFileListPdu _ => True

/-- A peer that fetches the list gets the list the records were written to, and what it
is answered is about the file of its list; nothing is answered for a file that is no
longer served. -/
def Faithful : ServiceEvent → Prop
  | .request connId streamId listIndex dwFlags nPositionLow nPositionHigh cbRequested =>
      ∀ listed, service.fetched connId = some listed →
        ∀ msgFlags stream data,
          .ok (.fileContentsResponse msgFlags stream data) ∈ service.answers disk connId
            streamId listIndex dwFlags nPositionLow nPositionHigh cbRequested →
          (∃ request, ClipFiles.requestOf streamId listIndex dwFlags nPositionLow
              nPositionHigh cbRequested = some request ∧
            ClipFiles.Answers disk listed request data) ∧
          ∃ meant, listed[asUsize listIndex]? = some meant ∧
            meant.path ∈ service.clipFiles.fileList.map (·.path)
  | .getFileListPdu _ => (service.clipFiles.filesPdu = [] ∧ service.built = []) ∨
      fileListPdu service.built = some service.clipFiles.filesPdu
  | .syncFiles _ | .clearFiles => True

end Service

/-! ## Lists are in order -/

variable {disk : Disk}

theorem LocalFile.tryOpen_known
    {relativeRoot path : Path}
    {file : LocalFile}
    (opened : LocalFile.tryOpen disk relativeRoot path = .ok file) :
    file.Known disk := by
  unfold LocalFile.tryOpen at opened
  split at opened
  · cases opened
  · next mt found =>
      cases opened
      refine ⟨⟨mt, found, rfl⟩, fun _ => rfl, ?_⟩
      intro handle isHandle
      cases isHandle

/-- What every round of a loop keeps, the loop keeps. -/
theorem foldlM_invariant
    {State Item Error : Type}
    {step : State → Item → Except Error State}
    (invariant : State → Prop)
    (preserved : ∀ state item next, invariant state → step state item = .ok next →
      invariant next)
    {items : List Item}
    {state final : State}
    (initially : invariant state)
    (done : items.foldlM step state = .ok final) :
    invariant final := by
  induction items generalizing state with
  | nil =>
      cases done
      exact initially
  | cons item items inductionHypothesis =>
      rw [List.foldlM_cons] at done
      cases stepped : step state item with
      | error error =>
          rw [stepped] at done
          cases done
      | ok next =>
          rw [stepped] at done
          exact inductionHypothesis (preserved state item next initially stepped) done

theorem constrFileList_known
    {relativeRoot : Path}
    (depth : Nat)
    {path : Path}
    {collected done : List LocalFile × List Path}
    (known : ClipFiles.Known disk collected.1)
    (constructed : constrFileList disk relativeRoot depth path collected = .ok done) :
    ClipFiles.Known disk done.1 := by
  induction depth generalizing path collected done with
  | zero => cases constructed
  | succ depth inductionHypothesis =>
      obtain ⟨fileList, visited⟩ := collected
      rw [constrFileList] at constructed
      split at constructed
      · cases constructed
        exact known
      · cases opened : LocalFile.tryOpen disk relativeRoot path with
        | error error =>
            rw [opened] at constructed
            cases constructed
        | ok localFile =>
            have extended : ClipFiles.Known disk (fileList ++ [localFile]) := by
              intro file member
              rcases List.mem_append.mp member with old | new
              · exact known file old
              · rw [List.mem_singleton.mp new]
                exact LocalFile.tryOpen_known opened
            rw [opened] at constructed
            simp only [bind, Except.bind] at constructed
            split at constructed
            · cases constructed
            · split at constructed
              · split at constructed
                · cases constructed
                · next dir _ =>
                    refine foldlM_invariant
                      (fun collected : List LocalFile × List Path =>
                        ClipFiles.Known disk collected.1) ?_ extended constructed
                    intro state entry next stateKnown stepped
                    cases entry with
                    | error err => cases stepped
                    | ok path => exact inductionHypothesis stateKnown stepped
              · cases constructed
                exact extended

theorem constructFileList_known
    {paths : List Path}
    {fileList : List LocalFile}
    (constructed : constructFileList disk paths = .ok fileList) :
    ClipFiles.Known disk fileList := by
  unfold constructFileList at constructed
  split at constructed
  · cases constructed
  · split at constructed
    · cases constructed
    · next first _ relativeRoot _ =>
        cases collected : paths.foldlM
            (fun collected path => constrFileList disk relativeRoot pathMax path collected)
            (([], []) : List LocalFile × List Path) with
        | error error =>
            rw [collected] at constructed
            cases constructed
        | ok done =>
            rw [collected] at constructed
            cases constructed
            refine foldlM_invariant
              (fun collected : List LocalFile × List Path =>
                ClipFiles.Known disk collected.1) ?_ ?_ collected
            · intro state path next stateKnown stepped
              exact constrFileList_known pathMax stateKnown stepped
            · intro file member
              cases member

/-! ## Every answer is about the file of the list -/

namespace Service

variable {service : Service}

theorem sound_new : new.Sound disk where
  known := by
    intro file member
    cases member
  built := by
    intro file member
    cases member
  pdu := .inl ⟨rfl, rfl⟩
  fetched := by
    intro connId listed isListed
    cases isListed

/-- Synchronizing files leaves a host in order, whether or not it succeeds. -/
theorem sound_syncFiles
    (sound : service.Sound disk)
    (files : List Path) :
    (service.step disk (.syncFiles files)).Sound disk := by
  by_cases same : service.clipFiles.files = files
  · have unchanged : service.step disk (.syncFiles files) = service := by
      simp only [step, rebuilt, ClipFiles.syncFiles, if_pos same]
    rw [unchanged]
    exact sound
  · cases constructed : constructFileList disk files with
    | error error =>
        have unchanged : service.step disk (.syncFiles files) = service := by
          simp only [step, rebuilt, ClipFiles.syncFiles, if_neg same, constructed]
        rw [unchanged]
        exact sound
    | ok fileList =>
        have known : ClipFiles.Known disk fileList := constructFileList_known constructed
        cases written : fileListPdu fileList with
        | none =>
            have relisted : service.step disk (.syncFiles files) =
                { service with
                  clipFiles := service.clipFiles.relist disk files fileList } := by
              simp [step, rebuilt, ClipFiles.syncFiles, same, constructed, written]
            rw [relisted]
            exact ⟨known, sound.built, sound.pdu, sound.fetched⟩
        | some pdu =>
            have relisted : service.step disk (.syncFiles files) =
                { service with
                  clipFiles :=
                    { service.clipFiles.relist disk files fileList with filesPdu := pdu }
                  built := fileList } := by
              simp [step, rebuilt, ClipFiles.syncFiles, same, constructed, written]
            rw [relisted]
            exact ⟨known, fun file member => (known file member).listed, .inr written,
              sound.fetched⟩

/-- What a request leaves of the records. -/
theorem readFileContents_known
    {clipFiles : ClipFiles}
    (known : ClipFiles.Known disk clipFiles.fileList)
    (connId : Int)
    (streamId listIndex dwFlags nPositionLow nPositionHigh cbRequested : BitVec 32) :
    ClipFiles.Known disk (clipFiles.readFileContents disk connId streamId listIndex dwFlags
        nPositionLow nPositionHigh cbRequested).2.fileList ∧
      (clipFiles.readFileContents disk connId streamId listIndex dwFlags nPositionLow
        nPositionHigh cbRequested).2.filesPdu = clipFiles.filesPdu := by
  unfold ClipFiles.readFileContents
  split
  · exact ⟨known, rfl⟩
  · next request _ =>
      exact ⟨(ClipFiles.serveFileContents_known known connId request).1,
        ClipFiles.serveFileContents_filesPdu connId request⟩

/-- Every event leaves a host in order. -/
theorem sound_step
    (sound : service.Sound disk)
    (event : ServiceEvent) :
    (service.step disk event).Sound disk := by
  cases event with
  | syncFiles files => exact sound_syncFiles sound files
  | clearFiles =>
      refine ⟨?_, ?_, .inl ⟨rfl, rfl⟩, sound.fetched⟩ <;>
        intro file member <;> cases member
  | getFileListPdu connId =>
      refine ⟨sound.known, sound.built, sound.pdu, ?_⟩
      intro other listed isListed
      by_cases same : other = connId
      · subst same
        simp only [step, Function.update_self, Option.some.injEq] at isListed
        subst isListed
        exact sound.built
      · simp only [step, Function.update_of_ne same] at isListed
        exact sound.fetched other listed isListed
  | request connId streamId listIndex dwFlags nPositionLow nPositionHigh cbRequested =>
      obtain ⟨known, filesPdu⟩ := readFileContents_known sound.known connId streamId
        listIndex dwFlags nPositionLow nPositionHigh cbRequested
      refine ⟨known, sound.built, ?_, sound.fetched⟩
      rw [step, filesPdu]
      exact sound.pdu

/-- Records of one path say the same. -/
theorem Listed.size_eq
    {file meant : LocalFile}
    (listed : Listed disk file)
    (meantListed : Listed disk meant)
    (samePath : meant.path = file.path) :
    meant.size = file.size := by
  obtain ⟨mt, found, size⟩ := listed
  obtain ⟨other, otherFound, otherSize⟩ := meantListed
  rw [samePath, found, Except.ok.injEq] at otherFound
  rw [size, otherSize, otherFound]

/-- A file that is listed at the same position of another list answers a request for
it there too. -/
theorem answers_of_same_path
    {fileList listed : List LocalFile}
    {request : FileContentsRequest}
    {data : Bytes}
    {file meant : LocalFile}
    (answers : ClipFiles.Answers disk fileList request data)
    (isFile : fileList[request.fileIdx]? = some file)
    (isMeant : listed[request.fileIdx]? = some meant)
    (samePath : meant.path = file.path)
    (sameSize : meant.size = file.size) :
    ClipFiles.Answers disk listed request data := by
  cases request with
  | size streamId fileIdx =>
      obtain ⟨served, isServed, isData⟩ := answers
      obtain rfl : served = file := Option.some.inj (isServed.symm.trans isFile)
      exact ⟨meant, isMeant, by rw [isData, sameSize]⟩
  | range streamId fileIdx offset length =>
      obtain ⟨served, contents, isServed, readable, isData⟩ := answers
      obtain rfl : served = file := Option.some.inj (isServed.symm.trans isFile)
      exact ⟨meant, contents, isMeant, by rw [samePath, readable], isData⟩

theorem isFile_of_answers
    {fileList : List LocalFile}
    {request : FileContentsRequest}
    {data : Bytes}
    (answers : ClipFiles.Answers disk fileList request data) :
    ∃ file, fileList[request.fileIdx]? = some file := by
  cases request with
  | size streamId fileIdx =>
      obtain ⟨file, isFile, _⟩ := answers
      exact ⟨file, isFile⟩
  | range streamId fileIdx offset length =>
      obtain ⟨file, _, isFile, _⟩ := answers
      exact ⟨file, isFile⟩

/-- What a peer is answered is what its request asks for of the file at its position. -/
theorem answers_current
    (sound : service.Sound disk)
    {connId : Int}
    {streamId listIndex dwFlags nPositionLow nPositionHigh cbRequested : BitVec 32}
    {msgFlags stream : BitVec 32}
    {data : Bytes}
    (answered : .ok (.fileContentsResponse msgFlags stream data) ∈
      service.answers disk connId streamId listIndex dwFlags nPositionLow nPositionHigh
        cbRequested) :
    ∃ request, ClipFiles.requestOf streamId listIndex dwFlags nPositionLow nPositionHigh
        cbRequested = some request ∧
      ClipFiles.Answers disk service.clipFiles.fileList request data := by
  unfold answers ClipFiles.readFileContents at answered
  cases isRequest : ClipFiles.requestOf streamId listIndex dwFlags nPositionLow
      nPositionHigh cbRequested with
  | none => simp [isRequest] at answered
  | some request =>
      simp only [isRequest, List.mem_append, List.mem_map, Option.mem_toList,
        List.mem_singleton, Except.ok.injEq] at answered
      rcases answered with ⟨audit, isAudit, rfl⟩ | served
      · exact absurd isAudit ClipFiles.getFilesForAudit_ne_response
      · obtain ⟨_, _, correct⟩ :=
          ClipFiles.serveFileContents_known sound.known connId request
        obtain ⟨bytes, isResponse, answers⟩ := correct _ served.symm
        cases isResponse
        exact ⟨request, rfl, answers⟩

/-- A request about the file the peer has in mind is answered with this file. -/
theorem faithful_of_careful
    (sound : service.Sound disk)
    {event : ServiceEvent}
    (careful : service.Careful event) :
    service.Faithful disk event := by
  cases event with
  | syncFiles files => trivial
  | clearFiles => trivial
  | getFileListPdu connId => exact sound.pdu
  | request connId streamId listIndex dwFlags nPositionLow nPositionHigh cbRequested =>
      intro listed isListed msgFlags stream data answered
      obtain ⟨request, isRequest, answers⟩ := answers_current sound answered
      have index := ClipFiles.requestOf_fileIdx isRequest
      obtain ⟨file, isFile⟩ := isFile_of_answers answers
      obtain ⟨meant, isMeant, samePath⟩ :=
        careful listed isListed file (by rw [← index, isFile])
      rw [← index] at isMeant
      have fileListed : Listed disk file :=
        (sound.known file (List.mem_of_getElem? isFile)).listed
      have meantListed : Listed disk meant :=
        sound.fetched connId listed isListed meant (List.mem_of_getElem? isMeant)
      have sameSize := fileListed.size_eq meantListed samePath
      refine ⟨⟨request, isRequest,
        answers_of_same_path answers isFile isMeant samePath sameSize⟩, meant, ?_, ?_⟩
      · rw [← index, isMeant]
      · rw [samePath]
        exact List.mem_map_of_mem (List.mem_of_getElem? isFile)

/-- A host with two files of one byte each, which is its name. -/
def twoFiles : Disk where
  metadata path :=
    if path = [0x2F, 0x61] ∨ path = [0x2F, 0x62] then
      .ok ⟨1, false, true, false, some 0, 0o100644⟩
    else .error "No such file or directory"
  readDir _ := .error "Not a directory"
  contents path :=
    if path = [0x2F, 0x61] then .ok [0x61]
    else if path = [0x2F, 0x62] then .ok [0x62]
    else .error "No such file or directory"
  length_contents := by
    intro path mt bytes found read
    split at found
    · cases found
      split at read
      · cases read
        rfl
      · split at read
        · cases read
          rfl
        · cases read
    · cases found

end Service

end Clipboard
end OneDesk
