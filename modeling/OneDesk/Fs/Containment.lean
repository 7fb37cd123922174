import OneDesk.Fs.Spots

/-!
# Where received files end up

The names of the files come from the peer and are joined to the destination as
they are.  Whether everything a job touches lies under the destination is
therefore a matter of the names alone, and this module says of which.
-/

namespace OneDesk
namespace Fs

open Lib

/-- A path lies under a base once both are resolved. -/
def LiesUnder (style : Path.Style) (base path : String) : Prop :=
  (Path.resolve style base).Under (Path.resolve style path)

/-- A path lies under a base, apart from the extension of a working file. -/
def Confined (style : Path.Style) (base path : String) : Prop :=
  LiesUnder style base path ∨
    ∃ stem, (path = downloadOf stem ∨ path = digestOf stem) ∧ LiesUnder style base stem

/-- A name that keeps its files under a base: joined to the base it lies there, or it can name
no file itself and what its extensions name does. -/
def Contained (style : Path.Style) (base name : String) : Prop :=
  LiesUnder style base (join style base name) ∨
    ∀ path ∈ [downloadOf (join style base name), digestOf (join style base name)],
      Path.namesFile style path = true → LiesUnder style base path

instance (style : Path.Style) (base path : String) : Decidable (LiesUnder style base path) :=
  inferInstanceAs (Decidable ((Path.resolve style base).Under (Path.resolve style path)))

instance (style : Path.Style) (base name : String) : Decidable (Contained style base name) :=
  inferInstanceAs (Decidable (_ ∨ ∀ path ∈ [downloadOf (join style base name),
    digestOf (join style base name)], _))

/-- Some operation on a volume created, renamed, truncated or removed the file at a path. -/
def Touches {Location : Type} (volume : Volume String Location) (path : String) : Prop :=
  ∃ operation, (operation, true) ∈ volume.log ∧ path ∈ operation.files

/-- Whatever the system, the disk and the messages, a job touches only files under its
destination. -/
def StaysInside (style : Path.Style) (base : String) (files : List FileEntry) : Prop :=
  ∀ (Location : Type) [DecidableEq Location] (os : Os Location) (codec : Codec)
    (id fileNum : Int) (overwriteDetection : Bool) (disk : Disk Location)
    (events : List FsEvent),
    os.style = style →
    (∀ event ∈ events, event.isNewWrite = false) →
    ∀ path, Touches (run (Manager.step os codec)
      (Manager.start
        (TransferJob.newWrite id .generic base fileNum files overwriteDetection) disk)
      events).volume path →
    Confined style base path

/-- The paths of a job: the final path of each file and its two working files. -/
def OwnPath (style : Path.Style) (base : String) (files : List FileEntry) (path : String) : Prop :=
  ∃ entry ∈ files, path = join style base entry.name ∨
    path = downloadOf (join style base entry.name) ∨ path = digestOf (join style base entry.name)

/-- Files of a job whose names are contained are confined. -/
theorem confined_of_ownPath
    {style : Path.Style}
    {base path : String}
    {files : List FileEntry}
    (contained : ∀ entry ∈ files, Contained style base entry.name)
    (own : OwnPath style base files path)
    (names : Path.namesFile style path = true) :
    Confined style base path := by
  obtain ⟨entry, member, isOwn⟩ := own
  rcases contained entry member with inside | extended
  · rcases isOwn with rfl | isWorking
    · exact .inl inside
    · exact .inr ⟨join style base entry.name, isWorking, inside⟩
  · have download := extended (downloadOf (join style base entry.name)) (by simp)
    have digest := extended (digestOf (join style base entry.name)) (by simp)
    rcases isOwn with rfl | rfl | rfl
    · -- the final path is a file, so both of its extensions are
      refine .inl (Path.under_of_extensions names extension_download extension_digest (by decide)
        (download ?_) (digest ?_))
      · exact Path.namesFile_append names extension_download
      · exact Path.namesFile_append names extension_digest
    · exact .inl (download names)
    · exact .inl (digest names)

section Recorded

variable {Location : Type} [DecidableEq Location]
variable {os : Os Location} {codec : Codec} {own : String → Prop}

/-- Every operation that took effect dealt with files of a job. -/
def Recorded
    (os : Os Location)
    (own : String → Prop)
    (volume : Volume String Location) : Prop :=
  ∀ operation, (operation, true) ∈ volume.log →
    ∀ path ∈ operation.files, own path ∧ Path.namesFile os.style path = true

/-- An operation on files of a job is recorded as one. -/
theorem Recorded.perform
    {volume : Volume String Location}
    (recorded : Recorded os own volume)
    {operation : Operation String}
    (owned : ∀ path ∈ operation.files, own path) :
    Recorded os own (perform os.toHost volume operation).2 := by
  intro done member path touched
  rw [perform_log] at member
  rcases List.mem_append.mp member with before | new
  · exact recorded done before path touched
  · obtain ⟨rfl, succeeded⟩ := Prod.mk.inj (List.mem_singleton.mp new)
    refine ⟨owned path touched, ?_⟩
    rcases perform_cases os.toHost volume done with ⟨failed, _⟩ | ⟨_, applies⟩
    · rw [failed] at succeeded
      cases succeeded
    · obtain ⟨location, located⟩ := Operation.apply_located applies touched
      refine Bool.of_not_eq_false fun namesNone => ?_
      rw [os.locate_none path namesNone] at located
      cases located

/-- Looking at files records nothing. -/
theorem Recorded.perform_nil
    {volume : Volume String Location}
    (recorded : Recorded os own volume)
    {operation : Operation String}
    (looks : operation.files = []) :
    Recorded os own (Lib.perform os.toHost volume operation).2 :=
  recorded.perform (by simp [looks])

/-- A job whose files are all owned. -/
def Owned (os : Os Location) (own : String → Prop) (job : TransferJob) : Prop :=
  job.type = .generic ∧ ∀ entry ∈ job.files,
    own (job.pathOf os.style entry) ∧ own (downloadOf (job.pathOf os.style entry)) ∧
      own (digestOf (job.pathOf os.style entry))

theorem Owned.of_setup
    {before after : TransferJob}
    (owned : Owned os own before)
    (same : TransferJob.SameSetup before after) :
    Owned os own after := by
  obtain ⟨generic, paths⟩ := owned
  refine ⟨same.type.trans generic, ?_⟩
  intro entry member
  rw [same.pathOf_eq]
  exact paths entry (same.files ▸ member)

namespace TransferJob

variable {job : TransferJob} {volume : Volume String Location}

theorem modifyTime_recorded
    (owned : Owned os own job)
    (recorded : Recorded os own volume) :
    Recorded os own (job.modifyTime os volume) := by
  unfold modifyTime
  split
  · exact recorded
  · exact recorded
  · next entry _ found =>
      obtain ⟨final, download, digest⟩ := owned.2 entry (List.mem_of_getElem? found)
      refine ((recorded.perform ?_).perform ?_).perform_nil rfl
      · simpa [Operation.files] using digest
      · simpa [Operation.files] using ⟨download, final⟩

theorem removeDownloadFile_recorded
    (owned : Owned os own job)
    (recorded : Recorded os own volume) :
    Recorded os own (job.removeDownloadFile os volume) := by
  unfold removeDownloadFile
  split
  · exact recorded
  · exact recorded
  · next entry _ found =>
      obtain ⟨_, download, digest⟩ := owned.2 entry (List.mem_of_getElem? found)
      refine (recorded.perform ?_).perform ?_
      · simpa [Operation.files] using download
      · simpa [Operation.files] using digest

theorem syncAll_recorded
    (recorded : Recorded os own volume)
    (stream : Option Handle) :
    Recorded os own (syncAll os stream volume).2 := by
  unfold syncAll
  split
  · exact recorded
  · exact recorded.perform_nil rfl

theorem clearDigest_recorded
    {digestPath : String}
    (owned : own digestPath)
    (recorded : Recorded os own volume) :
    Recorded os own (clearDigest os digestPath volume).2 := by
  unfold clearDigest
  dsimp only
  split
  · refine (recorded.perform_nil rfl).perform ?_
    simpa [Operation.files] using owned
  · exact recorded.perform_nil rfl

theorem createStream_recorded
    (job : TransferJob)
    {path : String}
    (owned : own path)
    (recorded : Recorded os own volume) :
    Recorded os own (createStream os job path volume).volume := by
  have created : Recorded os own (perform os.toHost volume (.create path)).2 :=
    recorded.perform (by simpa [Operation.files] using owned)
  unfold createStream
  dsimp only
  split
  · exact created
  · exact created

theorem startDownload_recorded
    {entry : FileEntry}
    (owned : Owned os own job)
    (member : entry ∈ job.files)
    (recorded : Recorded os own volume) :
    Recorded os own (startDownload os job entry volume).volume := by
  obtain ⟨_, download, digest⟩ := owned.2 entry member
  have made : Recorded os own
      (perform os.toHost volume (.makeParent (job.pathOf os.style entry))).2 :=
    recorded.perform_nil rfl
  have cleared := clearDigest_recorded digest made
  have created := createStream_recorded job download cleared
  unfold startDownload
  dsimp only
  split
  · exact cleared
  · split
    · exact created
    · refine created.perform ?_
      simpa [Operation.files] using digest

theorem openFile_recorded
    (fileNum : Int)
    {entry : FileEntry}
    (owned : Owned os own job)
    (member : entry ∈ job.files)
    (recorded : Recorded os own volume) :
    Recorded os own (job.openFile os fileNum entry volume).volume := by
  have synced := syncAll_recorded (modifyTime_recorded owned recorded) job.dataStream
  unfold openFile
  dsimp only
  split
  · exact synced
  · split
    · next isPrinter => simp [owned.1] at isPrinter
    · exact startDownload_recorded (owned.of_setup (setFileNum_setup job fileNum)) member synced

theorem writeData_recorded
    (recorded : Recorded os own volume)
    (block : FileTransferBlock) :
    Recorded os own (writeData os codec job block volume).volume := by
  unfold writeData
  dsimp only
  split
  · exact recorded
  · split
    · exact recorded.perform_nil rfl
    · exact recorded.perform_nil rfl

theorem write_recorded
    (owned : Owned os own job)
    (recorded : Recorded os own volume)
    (block : FileTransferBlock) :
    Recorded os own (job.write os codec block volume).volume := by
  unfold write
  dsimp only
  split
  · exact recorded
  · split
    · exact recorded
    · next entry found =>
        have opened := openFile_recorded block.fileNum owned
          (List.mem_of_getElem? found) recorded
        split
        · split
          · exact opened
          · exact writeData_recorded opened block
        · exact writeData_recorded recorded block

theorem bothExist_recorded
    (recorded : Recorded os own volume)
    (path : String) :
    Recorded os own (bothExist os path volume).2 := by
  unfold bothExist
  dsimp only
  split
  · exact (recorded.perform_nil rfl).perform_nil rfl
  · exact recorded.perform_nil rfl

theorem openAt_recorded
    {path : String}
    (owned : own path)
    (recorded : Recorded os own volume)
    (writable : Bool)
    (offset : Nat) :
    Recorded os own (job.openAt os path writable offset volume).2 := by
  refine recorded.perform ?_
  cases writable with
  | true => simpa [openOperation, Operation.files] using owned
  | false => simp [openOperation, Operation.files]

theorem setStreamOffset_recorded
    {fileNum offset : Nat}
    {after : TransferJob × Volume String Location}
    (owned : Owned os own job)
    (recorded : Recorded os own volume)
    (moved : job.setStreamOffset os fileNum offset volume = some after) :
    Recorded os own after.2 := by
  obtain ⟨entry, found, rfl⟩ := Option.map_eq_some_iff.mp moved
  obtain ⟨final, download, _⟩ := owned.2 entry (List.mem_of_getElem? found)
  have both := bothExist_recorded recorded (job.pathOf os.style entry)
  dsimp only
  split
  · exact openAt_recorded download both true offset
  · split
    · exact openAt_recorded final (both.perform_nil rfl) false offset
    · exact both.perform_nil rfl

theorem confirm_recorded
    {request : FileTransferSendConfirmRequest}
    {after : TransferJob × Volume String Location}
    (owned : Owned os own job)
    (recorded : Recorded os own volume)
    (confirmed : job.confirm os request volume = some after) :
    Recorded os own after.2 := by
  unfold confirm at confirmed
  split at confirmed
  · obtain rfl := Option.some.inj confirmed
    exact recorded
  · split at confirmed
    · obtain rfl := Option.some.inj confirmed
      exact recorded
    · obtain rfl := Option.some.inj confirmed
      exact recorded
    · split at confirmed
      · exact setStreamOffset_recorded (owned.of_setup (setFileConfirmed_setup job true)) recorded
          confirmed
      · obtain rfl := Option.some.inj confirmed
        exact recorded
    · obtain rfl := Option.some.inj confirmed
      exact recorded

end TransferJob

theorem compareFile_recorded
    {volume : Volume String Location}
    (recorded : Recorded os own volume)
    (path : String)
    (digest : FileTransferDigest) :
    Recorded os own (compareFile os path digest volume).2 := by
  unfold compareFile
  dsimp only
  split
  · exact recorded.perform_nil rfl
  · split
    · exact recorded.perform_nil rfl
    · exact recorded.perform_nil rfl

theorem resumable_recorded
    {volume : Volume String Location}
    (recorded : Recorded os own volume)
    (path : String)
    (digest : FileTransferDigest) :
    Recorded os own (resumable os codec path digest volume).2 := by
  rw [resumable_volume]
  exact (recorded.perform_nil rfl).perform_nil rfl

theorem checkDigest_recorded
    {job : TransferJob}
    {volume : Volume String Location}
    (recorded : Recorded os own volume)
    (fileNum : Int)
    (fileSize lastModified : Nat)
    (isUpload isResume : Bool) :
    Recorded os own
      (checkDigest os codec job fileNum fileSize lastModified isUpload isResume volume).2.1 := by
  have checked : ∀ path digest, Recorded os own
      (isWriteNeedConfirmation os codec isResume path digest volume).2 := by
    intro path digest
    unfold isWriteNeedConfirmation
    dsimp only
    split
    · split
      · exact resumable_recorded recorded path digest
      · exact compareFile_recorded (resumable_recorded recorded path digest) path digest
    · exact compareFile_recorded recorded path digest
  unfold checkDigest
  dsimp only
  split
  · exact recorded
  · split
    · exact checked _ _
    · exact checked _ _

/-- A manager whose jobs are all owned and whose operations were all on owned files. -/
structure Standing
    (os : Os Location)
    (own : String → Prop)
    (manager : Manager Location) : Prop where
  owned : ∀ job ∈ manager.writeJobs, Owned os own job
  recorded : Recorded os own manager.volume

theorem Standing.set
    {manager : Manager Location}
    (standing : Standing os own manager)
    {id : Int}
    {before after : TransferJob}
    (found : getJob id manager.writeJobs = some before)
    (same : TransferJob.SameSetup before after)
    {job : TransferJob}
    (member : job ∈ setJob id after manager.writeJobs) :
    Owned os own job := by
  rcases mem_setJob member with rfl | inside
  · exact (standing.owned before (getJob_mem found).1).of_setup same
  · exact standing.owned job inside

/-- A message that opens no job deals with owned files only. -/
theorem handleRunning_standing
    {manager : Manager Location}
    (standing : Standing os own manager)
    {event : FsEvent}
    (opensNone : event.isNewWrite = false) :
    Standing os own (handleRunning os codec event manager).1 := by
  have ownedJob : ∀ {id job}, getJob id manager.writeJobs = some job → Owned os own job :=
    fun found => standing.owned _ (getJob_mem found).1
  cases event with
  | newWrite path id fileNum files overwriteDetection => cases opensNone
  | cancelWrite id =>
      simp only [handleRunning]
      split
      · exact standing
      · next job found =>
          exact ⟨fun other member => standing.owned other (mem_removeJob member),
            TransferJob.removeDownloadFile_recorded (ownedJob found) standing.recorded⟩
  | writeDone id fileNum =>
      simp only [handleRunning]
      split
      · exact standing
      · next job found =>
          exact ⟨fun other member => standing.owned other (mem_removeJob member),
            TransferJob.modifyTime_recorded (ownedJob found) standing.recorded⟩
  | writeError id fileNum err =>
      simp only [handleRunning]
      split
      · exact standing
      · exact ⟨fun other member => standing.owned other (mem_removeJob member),
          standing.recorded⟩
  | writeBlock id fileNum data compressed =>
      simp only [handleRunning]
      split
      · exact standing
      · next job found =>
          exact ⟨fun other => standing.set found (TransferJob.write_setup ..),
            TransferJob.write_recorded (ownedJob found) standing.recorded _⟩
  | checkDigest id fileNum fileSize lastModified isUpload isResume =>
      simp only [handleRunning]
      split
      · exact standing
      · next job found =>
          exact ⟨fun other => standing.set found (checkDigest_setup ..),
            checkDigest_recorded standing.recorded fileNum fileSize lastModified isUpload
              isResume⟩
  | sendConfirm request =>
      simp only [handleRunning]
      split
      · exact standing
      · next job found =>
          split
          · exact ⟨standing.owned, standing.recorded⟩
          · next confirmed volume done =>
              exact ⟨fun other => standing.set found (TransferJob.confirm_setup done),
                TransferJob.confirm_recorded (ownedJob found) standing.recorded done⟩

theorem step_standing
    {manager : Manager Location}
    (standing : Standing os own manager)
    {event : FsEvent}
    (opensNone : event.isNewWrite = false) :
    Standing os own (manager.step os codec event) := by
  unfold Manager.step handleFs
  split
  · exact standing
  · exact handleRunning_standing standing opensNone

/-- So do all the messages of a run. -/
theorem run_standing
    {manager : Manager Location}
    (standing : Standing os own manager)
    {events : List FsEvent}
    (openNone : ∀ event ∈ events, event.isNewWrite = false) :
    Standing os own (run (Manager.step os codec) manager events) := by
  induction events generalizing manager with
  | nil => exact standing
  | cons event events ih =>
      exact ih (step_standing standing (openNone event List.mem_cons_self))
        fun later member => openNone later (List.mem_cons_of_mem event member)

end Recorded

/-- Contained names keep every run inside the destination. -/
theorem staysInside_of_contained
    {style : Path.Style}
    {base : String}
    {files : List FileEntry}
    (contained : ∀ entry ∈ files, Contained style base entry.name) :
    StaysInside style base files := by
  rintro Location _ os codec id fileNum overwriteDetection disk events rfl openNone path
    ⟨operation, done, touched⟩
  have start : Standing os (OwnPath os.style base files) (Manager.start
      (TransferJob.newWrite id .generic base fileNum files overwriteDetection) disk) := by
    constructor
    · intro job member
      obtain rfl := List.mem_singleton.mp member
      exact ⟨rfl, fun entry inFiles =>
        ⟨⟨entry, inFiles, .inl rfl⟩, ⟨entry, inFiles, .inr (.inl rfl)⟩,
          ⟨entry, inFiles, .inr (.inr rfl)⟩⟩⟩
    · intro done member
      cases member
  obtain ⟨own, names⟩ := (run_standing start openNone).recorded operation done path touched
  exact confined_of_ownPath contained own names

/-- A cancelled job removes a working file of its current file that is there. -/
theorem cancel_touches
    {style : Path.Style}
    {base path : String}
    {files : List FileEntry}
    {number : Nat}
    {entry : FileEntry}
    (current : files[number]? = some entry)
    (working : path = downloadOf (join style base entry.name) ∨
      path = digestOf (join style base entry.name))
    (names : Path.namesFile style path = true)
    (codec : Codec) :
    Touches (run (Manager.step (Os.plain style) codec)
      (Manager.start (TransferJob.newWrite 0 .generic base number files false)
        ((Disk.empty : Disk String).create path 0))
      [.cancelWrite 0]).volume path := by
  obtain ⟨inode, present, _⟩ := (Disk.empty : Disk String).create_at path 0
  have located : (Os.plain style).locate path = some path := by simp [Os.plain, names]
  have ran : (run (Manager.step (Os.plain style) codec)
      (Manager.start (TransferJob.newWrite 0 .generic base number files false)
        ((Disk.empty : Disk String).create path 0))
      [.cancelWrite 0]).volume =
      (perform (Os.plain style).toHost
        (perform (Os.plain style).toHost ⟨(Disk.empty : Disk String).create path 0, []⟩
          (.remove (downloadOf (join style base entry.name)))).2
        (.remove (digestOf (join style base entry.name)))).2 := by
    simp [Manager.step, handleFs, handleRunning, Manager.start, getJob,
      TransferJob.newWrite, TransferJob.removeDownloadFile, TransferJob.currentEntry,
      TransferJob.pathOf, current, Os.plain]
  rw [ran]
  rcases working with rfl | rfl
  · refine ⟨.remove (downloadOf (join style base entry.name)), ?_, by simp [Operation.files]⟩
    have removed := perform_remove_succeeds (Os.plain style).toHost
      ⟨(Disk.empty : Disk String).create (downloadOf (join style base entry.name)) 0, []⟩
      located rfl present
    simp [removed]
  · refine ⟨.remove (digestOf (join style base entry.name)), ?_, by simp [Operation.files]⟩
    have unreached : ¬Operation.Reaches (Os.plain style).toHost
        ((Disk.empty : Disk String).create (digestOf (join style base entry.name)) 0)
        (digestOf (join style base entry.name))
        (.remove (downloadOf (join style base entry.name))) := by
      simp only [Operation.Reaches, Os.plain]
      split
      · simpa using downloadOf_ne_digestOf _ _
      · simp
    have kept := (perform_frame (Os.plain style).toHost
      ⟨(Disk.empty : Disk String).create (digestOf (join style base entry.name)) 0, []⟩
      unreached).names
    have removed := perform_remove_succeeds (Os.plain style).toHost
      (perform (Os.plain style).toHost
        ⟨(Disk.empty : Disk String).create (digestOf (join style base entry.name)) 0, []⟩
        (.remove (downloadOf (join style base entry.name)))).2
      located rfl (kept.trans present)
    rw [perform_log, removed]
    simp

/-- A name that is not contained leads some run outside. -/
theorem contained_of_staysInside
    {style : Path.Style}
    {base : String}
    {files : List FileEntry}
    (stays : StaysInside style base files)
    {entry : FileEntry}
    (member : entry ∈ files) :
    Contained style base entry.name := by
  obtain ⟨number, current⟩ := List.getElem?_of_mem member
  refine Classical.or_iff_not_imp_left.mpr fun outside path working names => ?_
  have isWorking : path = downloadOf (join style base entry.name) ∨
      path = digestOf (join style base entry.name) := by simpa using working
  have confined := stays String (Os.plain style) ⟨id, id, fun _ => none⟩ 0 number false
    ((Disk.empty : Disk String).create path 0) [.cancelWrite 0] rfl (by simp [FsEvent.isNewWrite])
    path (cancel_touches current isWorking names _)
  rcases confined with inside | ⟨stem, extension, inside⟩
  · exact inside
  · -- the only stem of a working file is the path it belongs to
    have same : stem = join style base entry.name := by
      rcases isWorking with rfl | rfl
      · rcases extension with same | same
        · exact (downloadOf_injective same).symm
        · exact absurd same (downloadOf_ne_digestOf _ _)
      · rcases extension with same | same
        · exact absurd same.symm (downloadOf_ne_digestOf _ _)
        · exact (digestOf_injective same).symm
    exact absurd (same ▸ inside) outside

/-- A job stays inside its destination exactly when the names of its files are contained. -/
theorem staysInside_iff_contained
    (style : Path.Style)
    (base : String)
    (files : List FileEntry) :
    StaysInside style base files ↔ ∀ entry ∈ files, Contained style base entry.name :=
  ⟨fun stays _ member => contained_of_staysInside stays member, staysInside_of_contained⟩

/-- A name that goes up takes a job out of its destination. -/
theorem climbing_name_leaves :
    ¬StaysInside .unix "/home/user/in" [⟨"../.profile", 0⟩] := by
  intro stays
  have contained := contained_of_staysInside stays
    (List.mem_singleton_self (⟨"../.profile", 0⟩ : FileEntry))
  have escapes : ¬Contained .unix "/home/user/in" "../.profile" := by decide
  exact escapes contained

end Fs
end OneDesk
