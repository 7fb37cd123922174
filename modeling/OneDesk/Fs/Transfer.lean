import OneDesk.Fs.ReadJobs

/-!
# Both ends of a transfer

A read job at one end and its write job at the other.  In a download the host
reads and the client writes (`Remote::handle_msg_from_peer` of
`src/client/io_loop.rs`), in an upload the client reads and the host's
connection manager writes (`handle_fs`).  Messages arrive in the order they were
sent.  A reader that has asked for a file waits for the answer, so a digest is
answered in the step that handles it.
-/

namespace OneDesk
namespace Fs

open Lib

/-- Which way the files go. -/
inductive Direction where
  | download
  | upload
  deriving DecidableEq

/-- What becomes of a file that is there already: the strategy that was chosen for the whole
job says so, or the user is asked. -/
inductive Decision where
  | strategy (overwrite : Bool)
  | user (overwrite : Bool)
  deriving DecidableEq

/-- The file is to be overwritten. -/
def Decision.overwrite : Decision → Bool
  | .strategy overwrite => overwrite
  | .user overwrite => overwrite

/-- What the user of the client is shown about a job. -/
inductive JobStatus where
  | jobDone (id fileNum : Int)
  | jobError (id : Int) (error : FsError) (fileNum : Int)
  deriving DecidableEq

/-- The circumstances of a transfer. -/
structure Setting (Source Destination : Type) where
  direction : Direction
  source : Os Source
  destination : Os Destination
  codec : Codec
  /-- The version of the peer supports resuming. -/
  supportsResume : Bool
  /-- The text of an error, some of which comes from the operating system. -/
  errorText : FsError → String

/-- A transfer: the reading side, the write jobs and the disk of the writing side, the messages
under way, those handled so far, the files that were skipped and what the user was shown. -/
structure Transfer (Source Destination : Type) where
  reader : Reader Source
  manager : Manager Destination
  way : List FileMessage := []
  handled : List FileMessage := []
  skipped : List Int := []
  shown : List JobStatus := []

/-- The start of a transfer. -/
def Transfer.start
    {Source Destination : Type}
    (reading writing : TransferJob)
    (origin : Volume String Source)
    (target : Volume String Destination) : Transfer Source Destination where
  reader := { readJobs := [reading], volume := origin }
  manager := ⟨[writing], target, false⟩

/-- An interrupted transfer of the same file goes on, whatever was decided. -/
def goesOn (isResume : Bool) (digest : FileTransferDigest) : Bool :=
  digest.isIdentical && isResume && decide (0 < digest.transferredSize)

/-- The answer to a digest of a file that is there: go on with an interrupted transfer of the
same file, or else do what was decided.  The length that is there is cut to 32 bits. -/
def answerExisting
    (isResume : Bool)
    (decision : Decision)
    (digest : FileTransferDigest) : FileTransferSendConfirmRequest :=
  if goesOn isResume digest then
    ⟨digest.id, digest.fileNum, some (.offsetBlk (UInt32.ofNat digest.transferredSize))⟩
  else
    ⟨digest.id, digest.fileNum,
      some (if decision.overwrite then .offsetBlk 0 else .skip true)⟩

/-- The answer to a digest that was compared with the disk. -/
def answerChecked
    (isResume : Bool)
    (decision : Decision)
    (digest : FileTransferDigest) : DigestCheckResult → FileTransferSendConfirmRequest
  | .isSame => ⟨digest.id, digest.fileNum, some (.skip true)⟩
  | .needConfirm found => answerExisting isResume decision found
  | .noSuchFile => ⟨digest.id, digest.fileNum, some (.offsetBlk 0)⟩

namespace Transfer

variable {Source Destination : Type} [DecidableEq Source] [DecidableEq Destination]
variable (setting : Setting Source Destination)

/-- Give a confirmation to the read job. -/
def confirmReader
    (request : FileTransferSendConfirmRequest)
    (transfer : Transfer Source Destination) : Transfer Source Destination :=
  { transfer with
    reader := transfer.reader.step setting.source setting.codec (.sendConfirm request)
    skipped :=
      if request.union = some (.skip true) then request.fileNum :: transfer.skipped
      else transfer.skipped }

/-- Give a confirmation to the write job. -/
def confirmWriter
    (request : FileTransferSendConfirmRequest)
    (transfer : Transfer Source Destination) : Transfer Source Destination :=
  { transfer with
    manager := (handleFs setting.destination setting.codec (.sendConfirm request)
      transfer.manager).1 }

/-- Show something to the user. -/
def tell (status : JobStatus) (transfer : Transfer Source Destination) :
    Transfer Source Destination :=
  { transfer with shown := transfer.shown ++ [status] }

/-- The client compares the digest of a file with its disk and answers it at both ends. -/
def onDigest
    (decision : Decision)
    (digest : FileTransferDigest)
    (transfer : Transfer Source Destination) : Transfer Source Destination :=
  match getJob digest.id transfer.manager.writeJobs with
  | none => transfer
  | some job =>
      match job.files[asUsize digest.fileNum]? with
      | none => transfer
      | some file =>
          let job := { job with digest := ⟨digest.fileSize, digest.lastModified⟩ }
          let checked := isWriteNeedConfirmation setting.destination setting.codec
            (setting.supportsResume && job.isResume) (job.pathOf setting.destination.style file)
            digest transfer.manager.volume
          let compared := { transfer with
            manager := { transfer.manager with
              writeJobs := setJob digest.id job transfer.manager.writeJobs
              volume := checked.2 } }
          match checked.1 with
          | .error _ => compared
          | .ok result =>
              let request := answerChecked job.isResume decision digest result
              (compared.confirmWriter setting request).confirmReader setting request

/-- The client handles a message of the host's read job. -/
def handleResponse
    (decision : Decision)
    (message : FileMessage)
    (transfer : Transfer Source Destination) : Transfer Source Destination :=
  match message with
  | .digest digest => if digest.isUpload then transfer else transfer.onDigest setting decision digest
  | .block block =>
      -- a block that cannot be written is passed over
      { transfer with
        manager := (handleFs setting.destination setting.codec
          (.writeBlock block.id block.fileNum block.data block.compressed) transfer.manager).1 }
  | .done id fileNum =>
      match getJob id transfer.manager.writeJobs with
      | none => transfer.tell (.jobDone id fileNum)
      | some job =>
          let removed := { transfer with
            manager := { transfer.manager with
              writeJobs := removeJob id transfer.manager.writeJobs
              volume := job.modifyTime setting.destination transfer.manager.volume } }
          match job.jobError with
          | some text => removed.tell (.jobError id (.bail text) fileNum)
          | none => removed.tell (.jobDone id fileNum)
  | .error id error fileNum =>
      { transfer with
        manager := { transfer.manager with
          writeJobs := removeJob id transfer.manager.writeJobs } }.tell (.jobError id error fileNum)
  | .sendConfirm _ => transfer

/-- The client handles what the host's connection manager replies about its write job. -/
def onReply
    (decision : Decision)
    (transfer : Transfer Source Destination) : FileMessage → Transfer Source Destination
  | .digest digest =>
      match getJob digest.id transfer.reader.readJobs with
      | none => transfer
      | some job =>
          match job.files[asUsize digest.fileNum]? with
          | none => transfer
          | some _ =>
              let request := answerExisting job.isResume decision digest
              let answered := transfer.confirmReader setting request
              match decision with
              | .strategy _ => answered.confirmWriter setting request
              | .user _ =>
                  -- what the user says about a read job stays with the client
                  if goesOn job.isResume digest then answered.confirmWriter setting request
                  else answered
  | .sendConfirm request => transfer.confirmReader setting request
  | .done id fileNum => transfer.tell (.jobDone id fileNum)
  | .error id error fileNum => transfer.tell (.jobError id error fileNum)
  | .block _ => transfer

/-- What the host makes of a message of the client's read job. -/
def eventOf : FileMessage → Option FsEvent
  | .block block => some (.writeBlock block.id block.fileNum block.data block.compressed)
  | .done id fileNum => some (.writeDone id fileNum)
  | .digest digest =>
      some (.checkDigest digest.id digest.fileNum digest.fileSize digest.lastModified true
        digest.isResume)
  | .error id error fileNum => some (.writeError id fileNum (setting.errorText error))
  | .sendConfirm request => some (.sendConfirm request)

/-- The host handles a message of the client's read job, and the client its replies. -/
def handleRequest
    (decision : Decision)
    (message : FileMessage)
    (transfer : Transfer Source Destination) : Transfer Source Destination :=
  match eventOf setting message with
  | none => transfer
  | some event =>
      let handled := handleFs setting.destination setting.codec event transfer.manager
      handled.2.foldl (onReply setting decision) { transfer with manager := handled.1 }

/-- What happens in a transfer. -/
inductive Event where
  | tick
  | deliver (decision : Decision)
  deriving DecidableEq

/-- The messages of a tick of the reading side. -/
def ticked (reader : Reader Source) : List FileMessage :=
  if reader.panicked then []
  else (handleReadJobs setting.source setting.codec reader.readJobs reader.volume).2.2

/-- One step of a transfer: the reader has a tick, or the oldest message is handled. -/
def step (transfer : Transfer Source Destination) : Event → Transfer Source Destination
  | .tick =>
      { transfer with
        reader := transfer.reader.step setting.source setting.codec .tick
        way := transfer.way ++ ticked setting transfer.reader }
  | .deliver decision =>
      match transfer.way with
      | [] => transfer
      | message :: rest =>
          let transfer := { transfer with
            way := rest
            handled := transfer.handled ++ [message] }
          match setting.direction with
          | .download => transfer.handleResponse setting decision message
          | .upload => transfer.handleRequest setting decision message

end Transfer

end Fs
end OneDesk
