import OneDesk.Fs.HandleFs

/-!
# What the operations of a job leave alone

The number of the current file, the stream and the flags of a job change; what
the job was set up with does not.
-/

namespace OneDesk
namespace Fs

open Lib

/-- Two states of one job: it was set up with the same id, kind, path and files. -/
structure TransferJob.SameSetup (before after : TransferJob) : Prop where
  id : after.id = before.id
  type : after.type = before.type
  dataSource : after.dataSource = before.dataSource
  files : after.files = before.files
  isLastJob : after.isLastJob = before.isLastJob
  enableOverwriteDetection :
    after.enableOverwriteDetection = before.enableOverwriteDetection

namespace TransferJob

theorem SameSetup.refl (job : TransferJob) : SameSetup job job :=
  ⟨rfl, rfl, rfl, rfl, rfl, rfl⟩

theorem SameSetup.trans
    {first second third : TransferJob}
    (one : SameSetup first second)
    (two : SameSetup second third) :
    SameSetup first third :=
  ⟨two.id.trans one.id, two.type.trans one.type, two.dataSource.trans one.dataSource,
    two.files.trans one.files, two.isLastJob.trans one.isLastJob,
    two.enableOverwriteDetection.trans one.enableOverwriteDetection⟩

/-- A job that is set up alike has the same final paths. -/
theorem SameSetup.pathOf_eq
    {before after : TransferJob}
    (same : SameSetup before after)
    (style : Path.Style)
    (entry : FileEntry) :
    after.pathOf style entry = before.pathOf style entry := by
  rw [pathOf, pathOf, same.dataSource]

variable {Location : Type} [DecidableEq Location]
variable (os : Os Location) (codec : Codec) (job : TransferJob)
variable (volume : Volume String Location)

theorem setFileConfirmed_setup (fileConfirmed : Bool) :
    SameSetup job (job.setFileConfirmed fileConfirmed) :=
  ⟨rfl, rfl, rfl, rfl, rfl, rfl⟩

theorem setFileNum_setup (fileNum : Int) :
    SameSetup job { job with fileNum := fileNum } :=
  ⟨rfl, rfl, rfl, rfl, rfl, rfl⟩

theorem createStream_setup (path : String) :
    SameSetup job (createStream os job path volume).job := by
  unfold createStream
  dsimp only
  split
  · exact ⟨rfl, rfl, rfl, rfl, rfl, rfl⟩
  · exact .refl job

theorem startDownload_setup (entry : FileEntry) :
    SameSetup job (startDownload os job entry volume).job := by
  unfold startDownload
  dsimp only
  split
  · exact .refl job
  · split
    · exact createStream_setup ..
    · exact createStream_setup ..

theorem openFile_setup (fileNum : Int) (entry : FileEntry) :
    SameSetup job (job.openFile os fileNum entry volume).job := by
  unfold openFile
  dsimp only
  split
  · exact .refl job
  · split
    · exact (setFileNum_setup job fileNum).trans (createStream_setup ..)
    · exact (setFileNum_setup job fileNum).trans (startDownload_setup ..)

theorem writeData_setup (block : FileTransferBlock) :
    SameSetup job (writeData os codec job block volume).job := by
  unfold writeData
  dsimp only
  split
  · exact .refl job
  · split
    · exact ⟨rfl, rfl, rfl, rfl, rfl, rfl⟩
    · exact .refl job

theorem write_setup (block : FileTransferBlock) :
    SameSetup job (job.write os codec block volume).job := by
  unfold write
  dsimp only
  split
  · exact .refl job
  · split
    · exact .refl job
    · split
      · split
        · exact openFile_setup ..
        · exact (openFile_setup ..).trans (writeData_setup ..)
      · exact writeData_setup ..

theorem seekTo_setup (stream : Option Handle) (offset : Nat) :
    SameSetup job (job.seekTo stream offset) := by
  unfold seekTo
  split
  · exact .refl job
  · exact ⟨rfl, rfl, rfl, rfl, rfl, rfl⟩

theorem openAt_setup (path : String) (writable : Bool) (offset : Nat) :
    SameSetup job (job.openAt os path writable offset volume).1 := by
  unfold openAt
  dsimp only
  split
  · exact seekTo_setup ..
  · exact .refl job

variable {os job volume}

theorem setStreamOffset_setup
    {fileNum offset : Nat}
    {after : TransferJob × Volume String Location}
    (moved : job.setStreamOffset os fileNum offset volume = some after) :
    SameSetup job after.1 := by
  obtain ⟨entry, _, rfl⟩ := Option.map_eq_some_iff.mp moved
  dsimp only
  split
  · exact openAt_setup ..
  · split
    · exact openAt_setup ..
    · exact .refl job

theorem confirm_setup
    {request : FileTransferSendConfirmRequest}
    {after : TransferJob × Volume String Location}
    (confirmed : job.confirm os request volume = some after) :
    SameSetup job after.1 := by
  unfold confirm at confirmed
  split at confirmed
  · obtain rfl := Option.some.inj confirmed
    exact .refl job
  · split at confirmed
    · obtain rfl := Option.some.inj confirmed
      exact ⟨rfl, rfl, rfl, rfl, rfl, rfl⟩
    · obtain rfl := Option.some.inj confirmed
      exact ⟨rfl, rfl, rfl, rfl, rfl, rfl⟩
    · split at confirmed
      · exact (setFileConfirmed_setup job true).trans (setStreamOffset_setup confirmed)
      · obtain rfl := Option.some.inj confirmed
        exact ⟨rfl, rfl, rfl, rfl, rfl, rfl⟩
    · obtain rfl := Option.some.inj confirmed
      exact .refl job

end TransferJob

theorem checkDigest_setup
    {Location : Type}
    [DecidableEq Location]
    (os : Os Location)
    (codec : Codec)
    (job : TransferJob)
    (fileNum : Int)
    (fileSize lastModified : Nat)
    (isUpload isResume : Bool)
    (volume : Volume String Location) :
    TransferJob.SameSetup job
      (checkDigest os codec job fileNum fileSize lastModified isUpload isResume volume).1 := by
  unfold checkDigest
  split
  · exact .refl job
  · dsimp only
    split
    · exact ⟨rfl, rfl, rfl, rfl, rfl, rfl⟩
    · exact .refl job

/-- A job that is found is in the list. -/
theorem getJob_mem
    {id : Int}
    {jobs : List TransferJob}
    {job : TransferJob}
    (found : getJob id jobs = some job) :
    job ∈ jobs ∧ job.id = id :=
  ⟨List.mem_of_find?_eq_some found, by simpa using List.find?_some found⟩

/-- Replacing a job brings in no other one. -/
theorem mem_setJob
    {id : Int}
    {jobs : List TransferJob}
    {job found : TransferJob}
    (member : found ∈ setJob id job jobs) :
    found = job ∨ found ∈ jobs := by
  induction jobs with
  | nil => exact .inr member
  | cons first jobs ih =>
      simp only [setJob, List.replaceF] at member
      by_cases same : first.id = id
      · simp only [same, if_true] at member
        rcases List.mem_cons.mp member with rfl | inside
        · exact .inl rfl
        · exact .inr (List.mem_cons_of_mem first inside)
      · simp only [same, if_false] at member
        rcases List.mem_cons.mp member with rfl | inside
        · exact .inr List.mem_cons_self
        · rcases ih inside with rfl | present
          · exact .inl rfl
          · exact .inr (List.mem_cons_of_mem first present)

theorem mem_removeJob
    {id : Int}
    {jobs : List TransferJob}
    {found : TransferJob}
    (member : found ∈ removeJob id jobs) :
    found ∈ jobs :=
  List.mem_of_mem_eraseP member

end Fs
end OneDesk
