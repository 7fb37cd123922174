import OneDesk.Fs.TransferJob
import OneDesk.Lib.Run

/-!
# The receiving side

`handle_fs` of `src/ui_cm_interface.rs` for the messages of a write job, with
the check of a digest against what is on the disk.  The connection manager
keeps its write jobs in a list and finds them by their ids.
-/

namespace OneDesk
namespace Fs

open Lib

/-- The messages of a write job. -/
inductive FsEvent where
  | newWrite
      (path : String)
      (id fileNum : Int)
      (files : List (String × UInt64))
      (overwriteDetection : Bool)
  | cancelWrite (id : Int)
  | writeDone (id fileNum : Int)
  | writeError (id fileNum : Int) (err : String)
  | writeBlock (id fileNum : Int) (data : List UInt8) (compressed : Bool)
  | checkDigest
      (id fileNum : Int)
      (fileSize lastModified : Nat)
      (isUpload isResume : Bool)
  | sendConfirm (request : FileTransferSendConfirmRequest)
  deriving DecidableEq

/-- The message opens a job. -/
def FsEvent.isNewWrite : FsEvent → Bool
  | .newWrite .. => true
  | _ => false

/-- What the check of a digest against the disk comes to. -/
inductive DigestCheckResult where
  | isSame
  | needConfirm (digest : FileTransferDigest)
  | noSuchFile
  deriving DecidableEq

/-- The connection manager's write jobs and its disk; a panic ends the process. -/
structure Manager (Location : Type) where
  writeJobs : List TransferJob
  volume : Volume String Location
  panicked : Bool := false

/-- The first job with an id. -/
def getJob (id : Int) (jobs : List TransferJob) : Option TransferJob :=
  jobs.find? fun job => job.id = id

/-- The list without the first job that has an id. -/
def removeJob (id : Int) (jobs : List TransferJob) : List TransferJob :=
  jobs.eraseP fun job => job.id = id

/-- The list with its first job that has an id replaced. -/
def setJob (id : Int) (job : TransferJob) (jobs : List TransferJob) : List TransferJob :=
  jobs.replaceF fun found => if found.id = id then some job else none

variable {Location : Type} [DecidableEq Location]
variable (os : Os Location) (codec : Codec)

/-- The file at a path, if the system lets one look. -/
def metadata
    (volume : Volume String Location)
    (path : String) : Option File × Volume String Location :=
  let found := perform os.toHost volume (.stat path)
  (if found.1 then (os.locate path).bind found.2.disk.file else none, found.2)

/-- The digest of an interrupted transfer that matches the file on offer. -/
def resumable
    (path : String)
    (digest : FileTransferDigest)
    (volume : Volume String Location) : Option FileTransferDigest × Volume String Location :=
  let digestFile := metadata os volume (digestOf path)
  let downloadFile := metadata os digestFile.2 (downloadOf path)
  match digestFile.1, downloadFile.1 with
  | some kept, some download =>
      match codec.fromStr kept.bytes with
      | some localDigest =>
          if localDigest.modified = digest.lastModified ∧ localDigest.size = digest.fileSize ∧
              0 < download.bytes.length then
            (some
              { digest with
                isUpload := false
                isIdentical := true
                transferredSize := download.bytes.length
                isResume := false },
              downloadFile.2)
          else (none, downloadFile.2)
      | none => (none, downloadFile.2)
  | _, _ => (none, downloadFile.2)

/-- Only the digest and the download are looked at. -/
theorem resumable_volume
    (path : String)
    (digest : FileTransferDigest)
    (volume : Volume String Location) :
    (resumable os codec path digest volume).2 =
      (metadata os (metadata os volume (digestOf path)).2 (downloadOf path)).2 := by
  unfold resumable
  dsimp only
  split
  · split
    · split <;> rfl
    · rfl
  · rfl

/-- Compare a file on offer with the file that is there. -/
def compareFile
    (path : String)
    (digest : FileTransferDigest)
    (volume : Volume String Location) : Except FsError DigestCheckResult × Volume String Location :=
  let found := metadata os volume path
  match found.1 with
  | none => (.ok .noSuchFile, found.2)
  | some file =>
      if file.modified < 0 then
        (.error (.bail "second time provided was later than self"), found.2)
      else
        (.ok (.needConfirm
          { digest with
            lastModified := file.modified.toNat
            fileSize := file.bytes.length
            isUpload := false
            isIdentical := file.modified = digest.lastModified ∧
              digest.fileSize = file.bytes.length
            transferredSize := 0
            isResume := false }), found.2)

/-- Whether the user has to be asked before a file is written. -/
def isWriteNeedConfirmation
    (isResume : Bool)
    (path : String)
    (digest : FileTransferDigest)
    (volume : Volume String Location) : Except FsError DigestCheckResult × Volume String Location :=
  if isResume then
    let kept := resumable os codec path digest volume
    match kept.1 with
    | some found => (.ok (.needConfirm found), kept.2)
    | none => compareFile os path digest kept.2
  else compareFile os path digest volume

/-- The answer to a digest that was checked. -/
def answerDigest
    (id fileNum : Int)
    (isUpload : Bool) : DigestCheckResult → FileMessage
  | .isSame => .sendConfirm ⟨id, fileNum, some (.skip true)⟩
  | .needConfirm digest => .digest { digest with isUpload := isUpload }
  | .noSuchFile => .sendConfirm ⟨id, fileNum, some (.offsetBlk 0)⟩

/-- Check a digest for a file of a job; a digest that could be checked is kept. -/
def checkDigest
    (job : TransferJob)
    (fileNum : Int)
    (fileSize lastModified : Nat)
    (isUpload isResume : Bool)
    (volume : Volume String Location) :
    TransferJob × Volume String Location × List FileMessage :=
  match job.files[asUsize fileNum]? with
  | none => (job, volume, [])
  | some file =>
      let checked := isWriteNeedConfirmation os codec isResume (job.pathOf os.style file)
        { id := job.id
          fileNum := fileNum
          lastModified := lastModified
          fileSize := fileSize
          isUpload := false
          isIdentical := false
          transferredSize := 0
          isResume := false } volume
      match checked.1 with
      | .ok result =>
          ({ job with digest := ⟨fileSize, lastModified⟩ }, checked.2,
            [answerDigest job.id fileNum isUpload result])
      | .error error => (job, checked.2, [.error job.id error fileNum])

/-- Handle a message of a running process. -/
def handleRunning
    (event : FsEvent)
    (manager : Manager Location) : Manager Location × List FileMessage :=
  match event with
  | .newWrite path id fileNum files overwriteDetection =>
      let entries := files.map fun file => ⟨file.1, file.2⟩
      ({ manager with
          writeJobs := manager.writeJobs ++
            [TransferJob.newWrite id .generic path fileNum entries overwriteDetection] }, [])
  | .cancelWrite id =>
      match getJob id manager.writeJobs with
      | none => (manager, [])
      | some job =>
          ({ manager with
              writeJobs := removeJob id manager.writeJobs
              volume := job.removeDownloadFile os manager.volume }, [])
  | .writeDone id fileNum =>
      match getJob id manager.writeJobs with
      | none => (manager, [])
      | some job =>
          ({ manager with
              writeJobs := removeJob id manager.writeJobs
              volume := job.modifyTime os manager.volume }, [.done id fileNum])
  | .writeError id fileNum err =>
      match getJob id manager.writeJobs with
      | none => (manager, [])
      | some job =>
          ({ manager with writeJobs := removeJob id manager.writeJobs },
            [.error job.id (.bail err) fileNum])
  | .writeBlock id fileNum data compressed =>
      match getJob id manager.writeJobs with
      | none => (manager, [])
      | some job =>
          let written := job.write os codec ⟨id, fileNum, data, compressed⟩ manager.volume
          ({ manager with
              writeJobs := setJob id written.job manager.writeJobs
              volume := written.volume },
            match written.result with
            | .ok () => []
            | .error error => [.error id error fileNum])
  | .checkDigest id fileNum fileSize lastModified isUpload isResume =>
      match getJob id manager.writeJobs with
      | none => (manager, [])
      | some job =>
          let checked := checkDigest os codec job fileNum fileSize lastModified isUpload isResume
            manager.volume
          ({ manager with
              writeJobs := setJob id checked.1 manager.writeJobs
              volume := checked.2.1 }, checked.2.2)
  | .sendConfirm request =>
      match getJob request.id manager.writeJobs with
      | none => (manager, [])
      | some job =>
          match job.confirm os request manager.volume with
          | none => ({ manager with panicked := true }, [])
          | some (confirmed, volume) =>
              ({ manager with
                  writeJobs := setJob request.id confirmed manager.writeJobs
                  volume := volume }, [])

/-- Handle a message of a write job. -/
def handleFs
    (event : FsEvent)
    (manager : Manager Location) : Manager Location × List FileMessage :=
  if manager.panicked then (manager, []) else handleRunning os codec event manager

/-- The manager at the start of a write job. -/
def Manager.start
    (job : TransferJob)
    (disk : Disk Location) : Manager Location where
  writeJobs := [job]
  volume := ⟨disk, []⟩

/-- One message seen as a step of the manager. -/
def Manager.step (manager : Manager Location) (event : FsEvent) : Manager Location :=
  (handleFs os codec event manager).1

end Fs
end OneDesk
