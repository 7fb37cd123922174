import Mathlib.Algebra.Group.Int.Defs
import OneDesk.Lib.Disk
import OneDesk.Lib.Path

/-!
# Transfer jobs

The file transfer jobs of `libs/hbb_common/src/fs.rs` over a file path: the
reading side cuts files into blocks, the writing side collects the blocks of a
file in `name.download`, keeps a digest of the source in `name.digest` and
renames the download onto the final path when the next file starts or the job
is done.  A file operation takes effect when its call returns, and one that
fails changes nothing.
-/

namespace OneDesk
namespace Fs

open Lib

/-- The operating system of one side: path texts, and which of them can name a file. -/
structure Os (Location : Type) extends Host String Location where
  style : Path.Style
  /-- A path that ends in a separator, `.` or `..` names no file. -/
  locate_none : ∀ path, Path.namesFile style path = false → locate path = none

/-- A system that takes paths as they are written and lets every operation through. -/
def Os.plain (style : Path.Style) : Os String where
  locate := fun path => if Path.namesFile style path then some path else none
  allows := fun _ _ => true
  clock := fun _ => 0
  style := style
  locate_none := by
    intro path names
    simp [names]

/-- Size and modification time of a source file. -/
structure FileDigest where
  size : Nat
  modified : Nat
  deriving DecidableEq

/-- The compressor and the reader of digest files, which are third-party code. -/
structure Codec where
  compress : List UInt8 → List UInt8
  decompress : List UInt8 → List UInt8
  fromStr : List UInt8 → Option FileDigest

/-- A codec that compresses nothing. -/
def plainCodec : Codec :=
  ⟨id, id, fun _ => none⟩

/-- What a job is for. -/
inductive JobType where
  | generic
  | printer
  deriving DecidableEq

/-- A file of a job, named relative to the job's path. -/
structure FileEntry where
  name : String
  modifiedTime : UInt64
  deriving DecidableEq

/-- Some bytes of a file on their way to the other side. -/
structure FileTransferBlock where
  id : Int
  fileNum : Int
  data : List UInt8
  compressed : Bool
  deriving DecidableEq

/-- Size and time of a file, sent to ask whether it is wanted. -/
structure FileTransferDigest where
  id : Int
  fileNum : Int
  lastModified : Nat
  fileSize : Nat
  isUpload : Bool
  isIdentical : Bool
  transferredSize : Nat
  isResume : Bool
  deriving DecidableEq

/-- The answer to a digest: skip the file or send it from an offset on. -/
inductive ConfirmUnion where
  | skip (skipped : Bool)
  | offsetBlk (offset : UInt32)
  deriving DecidableEq

/-- A confirmation for one file of a job. -/
structure FileTransferSendConfirmRequest where
  id : Int
  fileNum : Int
  union : Option ConfirmUnion
  deriving DecidableEq

/-- Why an operation of a job failed. -/
inductive FsError where
  | bail (text : String)
  | io (operation : Operation String)
  deriving DecidableEq

/-- The file messages that a side sends. -/
inductive FileMessage where
  | block (block : FileTransferBlock)
  | digest (digest : FileTransferDigest)
  | done (id fileNum : Int)
  | error (id : Int) (error : FsError) (fileNum : Int)
  | sendConfirm (request : FileTransferSendConfirmRequest)
  deriving DecidableEq

/-- A transfer job over a file path. -/
structure TransferJob where
  id : Int
  type : JobType := .generic
  dataSource : String
  isLastJob : Bool := false
  isResume : Bool := false
  fileNum : Int
  files : List FileEntry
  dataStream : Option Handle := none
  finishedSize : Nat := 0
  transferred : Nat := 0
  enableOverwriteDetection : Bool
  fileConfirmed : Bool := false
  /-- The last file was skipped. -/
  fileSkipped : Bool := false
  fileIsWaiting : Bool := false
  digest : FileDigest := ⟨0, 0⟩
  deriving DecidableEq

/-- The cast of a file number to an index. -/
def asUsize (fileNum : Int) : Nat :=
  (if fileNum < 0 then fileNum + 2 ^ 64 else fileNum).toNat

@[simp] theorem asUsize_natCast (number : Nat) : asUsize number = number := by
  have notNegative : ¬((number : Int) < 0) := by omega
  simp [asUsize, notNegative]

/-- The cast of a modification time to signed seconds. -/
def asI64 (time : UInt64) : Int :=
  time.toInt64.toInt

/-- Size of the buffer that a file is read into. -/
def bufSize : Nat := 128 * 1024

/-- The text after the last dot of a name. -/
def getExt (name : String) : String :=
  if name.toList.contains '.' then
    String.ofList (name.toList.reverse.takeWhile (· != '.')).reverse
  else ""

/-- Files of these kinds are sent as they are. -/
def isCompressedFile (name : String) : Bool :=
  ["xz", "gz", "zip", "7z", "rar", "bz2", "tgz", "png", "jpg"].contains (getExt name)

/-- The text of a digest file. -/
def digestJson (digest : FileDigest) : List UInt8 :=
  ("\x7b\"modified\":" ++ toString digest.modified ++ ",\"size\":" ++ toString digest.size ++
    "\x7d").toUTF8.data.toList

/-- The path of a file: a job over a single file has one entry without a name. -/
def join (style : Path.Style) (path name : String) : String :=
  if name.isEmpty then path else Path.push style path name

/-- Where the blocks of a file are collected. -/
def downloadOf (path : String) : String :=
  path ++ ".download"

/-- Where the digest of a file is kept meanwhile. -/
def digestOf (path : String) : String :=
  path ++ ".digest"

namespace TransferJob

variable {Location : Type} [DecidableEq Location]
variable (os : Os Location) (codec : Codec)

/-- A job that will send the files that were found under its path. -/
def newRead
    (id : Int)
    (type : JobType)
    (dataSource : String)
    (fileNum : Int)
    (files : List FileEntry)
    (enableOverwriteDetection : Bool) : TransferJob where
  id := id
  type := type
  dataSource := dataSource
  fileNum := fileNum
  files := files
  enableOverwriteDetection := enableOverwriteDetection

/-- A job that will receive files. -/
def newWrite
    (id : Int)
    (type : JobType)
    (dataSource : String)
    (fileNum : Int)
    (files : List FileEntry)
    (enableOverwriteDetection : Bool) : TransferJob where
  id := id
  type := type
  dataSource := dataSource
  fileNum := fileNum
  files := files
  enableOverwriteDetection := enableOverwriteDetection

/-- The entry of the current file. -/
def currentEntry (job : TransferJob) : Option FileEntry :=
  job.files[asUsize job.fileNum]?

/-- The final path of an entry. -/
def pathOf (style : Path.Style) (job : TransferJob) (entry : FileEntry) : String :=
  join style job.dataSource entry.name

/-- Publish the current file: drop its digest, rename its download, set its time. -/
def modifyTime
    (job : TransferJob)
    (volume : Volume String Location) : Volume String Location :=
  match job.type, job.currentEntry with
  | .printer, _ | _, none => volume
  | .generic, some entry =>
      let path := job.pathOf os.style entry
      let volume := (perform os.toHost volume (.remove (digestOf path))).2
      let volume := (perform os.toHost volume (.rename (downloadOf path) path)).2
      (perform os.toHost volume (.setModified path (asI64 entry.modifiedTime))).2

/-- Drop what was collected of the current file. -/
def removeDownloadFile
    (job : TransferJob)
    (volume : Volume String Location) : Volume String Location :=
  match job.type, job.currentEntry with
  | .printer, _ | _, none => volume
  | .generic, some entry =>
      let path := job.pathOf os.style entry
      let volume := (perform os.toHost volume (.remove (downloadOf path))).2
      (perform os.toHost volume (.remove (digestOf path))).2

/-- What a fallible operation of a job leaves behind. -/
structure Outcome (Location Value : Type) where
  job : TransferJob
  volume : Volume String Location
  result : Except FsError Value

/-- Flush the stream of the file before. -/
def syncAll
    (stream : Option Handle)
    (volume : Volume String Location) : Except FsError Unit × Volume String Location :=
  match stream with
  | none => (.ok (), volume)
  | some handle =>
      let synced := perform os.toHost volume (.sync handle)
      (if synced.1 then .ok () else .error (.io (.sync handle)), synced.2)

/-- Remove a digest that an earlier transfer left. -/
def clearDigest
    (digestPath : String)
    (volume : Volume String Location) : Except FsError Unit × Volume String Location :=
  let found := perform os.toHost volume (.stat digestPath)
  if found.1 then
    let removed := perform os.toHost found.2 (.remove digestPath)
    (if removed.1 then .ok () else .error (.io (.remove digestPath)), removed.2)
  else (.ok (), found.2)

/-- Create the file that collects the blocks. -/
def createStream
    (job : TransferJob)
    (path : String)
    (volume : Volume String Location) : Outcome Location Unit :=
  let created := perform os.toHost volume (.create path)
  if created.1 then
    ⟨{ job with dataStream := openedAt os.toHost created.2 path true }, created.2, .ok ()⟩
  else ⟨job, created.2, .error (.io (.create path))⟩

/-- Create the download of a file and keep the digest of its source beside it. -/
def startDownload
    (job : TransferJob)
    (entry : FileEntry)
    (volume : Volume String Location) : Outcome Location Unit :=
  let path := job.pathOf os.style entry
  let cleared := clearDigest os (digestOf path)
    (perform os.toHost volume (.makeParent path)).2
  match cleared.1 with
  | .error error => ⟨job, cleared.2, .error error⟩
  | .ok () =>
      let created := createStream os job (downloadOf path) cleared.2
      match created.result with
      | .error _ => created
      | .ok () =>
          { created with
            volume := (perform os.toHost created.volume
              (.save (digestOf path) (digestJson job.digest))).2 }

/-- Turn to the file of a block: publish the one before and create a new download. -/
def openFile
    (job : TransferJob)
    (fileNum : Int)
    (entry : FileEntry)
    (volume : Volume String Location) : Outcome Location Unit :=
  let synced := syncAll os job.dataStream (job.modifyTime os volume)
  match synced.1 with
  | .error error => ⟨job, synced.2, .error error⟩
  | .ok () =>
      let job := { job with fileNum := fileNum }
      match job.type with
      | .printer => createStream os job job.dataSource synced.2
      | .generic => startDownload os job entry synced.2

/-- The bytes that a block stands for. -/
def payload (block : FileTransferBlock) : List UInt8 :=
  if block.compressed then codec.decompress block.data else block.data

/-- Append the bytes of a block to the open stream. -/
def writeData
    (job : TransferJob)
    (block : FileTransferBlock)
    (volume : Volume String Location) : Outcome Location Unit :=
  match job.dataStream with
  | none =>
      ⟨job, volume, .error (.bail (if block.compressed then "data stream is None" else
        "file is None"))⟩
  | some stream =>
      let data := payload codec block
      let written := perform os.toHost volume (.write stream data)
      if written.1 then
        ⟨{ job with
            dataStream := some { stream with position := stream.position + data.length }
            finishedSize := job.finishedSize + data.length
            transferred := job.transferred + block.data.length },
          written.2, .ok ()⟩
      else ⟨job, written.2, .error (.io (.write stream data))⟩

/-- A block opens its file unless the stream of that file is open. -/
def Opens (job : TransferJob) (fileNum : Int) : Prop :=
  asUsize fileNum ≠ asUsize job.fileNum ∨ job.dataStream = none

instance (job : TransferJob) (fileNum : Int) : Decidable (job.Opens fileNum) :=
  inferInstanceAs (Decidable (_ ∨ _))

/-- Take a block of a file: one for another file closes the current one first. -/
def write
    (job : TransferJob)
    (block : FileTransferBlock)
    (volume : Volume String Location) : Outcome Location Unit :=
  if block.id ≠ job.id then ⟨job, volume, .error (.bail "Wrong id")⟩
  else
    match job.files[asUsize block.fileNum]? with
    | none => ⟨job, volume, .error (.bail "Wrong file number")⟩
    | some entry =>
        if job.Opens block.fileNum then
          let opened := job.openFile os block.fileNum entry volume
          match opened.result with
          | .error _ => opened
          | .ok () => writeData os codec opened.job block opened.volume
        else writeData os codec job block volume

/-- Answer a confirmation: the file may be sent. -/
def setFileConfirmed (fileConfirmed : Bool) (job : TransferJob) : TransferJob :=
  { job with fileConfirmed := fileConfirmed, fileSkipped := false }

/-- Answer a confirmation: the file is left out. -/
def setFileSkipped (job : TransferJob) : TransferJob :=
  { ({ job with dataStream := none }.setFileConfirmed false) with
    fileIsWaiting := false
    fileNum := job.fileNum + 1
    fileSkipped := true }

/-- Take over a stream that was opened at an offset. -/
def seekTo (job : TransferJob) (stream : Option Handle) (offset : Nat) : TransferJob :=
  match stream with
  | none => job
  | some handle =>
      { job with
        dataStream := some { handle with position := offset }
        transferred := job.transferred + offset
        finishedSize := job.finishedSize + offset }

/-- Both files of an interrupted transfer are there. -/
def bothExist
    (path : String)
    (volume : Volume String Location) : Bool × Volume String Location :=
  let download := perform os.toHost volume (.stat (downloadOf path))
  if download.1 then perform os.toHost download.2 (.stat (digestOf path)) else download

/-- The two ways to open a file that is there. -/
def openOperation (path : String) : Bool → Operation String
  | true => .openWrite path
  | false => .openRead path

/-- Open a file and seek; a job whose file does not open keeps its stream. -/
def openAt
    (job : TransferJob)
    (path : String)
    (writable : Bool)
    (offset : Nat)
    (volume : Volume String Location) : TransferJob × Volume String Location :=
  let opened := perform os.toHost volume (openOperation path writable)
  (if opened.1 then job.seekTo (openedAt os.toHost opened.2 path writable) offset else job,
    opened.2)

/-- Go on with a file from an offset: a writer finds its download and digest, a reader the
file itself.  There is no result when the index is out of range, where the source panics. -/
def setStreamOffset
    (job : TransferJob)
    (fileNum : Nat)
    (offset : Nat)
    (volume : Volume String Location) : Option (TransferJob × Volume String Location) :=
  (job.files[fileNum]?).map fun entry =>
    let path := job.pathOf os.style entry
    let both := bothExist os path volume
    if both.1 then job.openAt os (downloadOf path) true offset both.2
    else
      let found := perform os.toHost both.2 (.stat path)
      if found.1 then job.openAt os path false offset found.2 else (job, found.2)

/-- Take a confirmation for the current file; one for another file is ignored. -/
def confirm
    (job : TransferJob)
    (request : FileTransferSendConfirmRequest)
    (volume : Volume String Location) : Option (TransferJob × Volume String Location) :=
  if job.fileNum ≠ request.fileNum then some (job, volume)
  else
    match request.union with
    | some (.skip true) => some (job.setFileSkipped, volume)
    | some (.skip false) => some (job.setFileConfirmed true, volume)
    | some (.offsetBlk offset) =>
        if 0 < offset then
          (job.setFileConfirmed true).setStreamOffset os (asUsize request.fileNum) offset.toNat
            volume
        else some (job.setFileConfirmed true, volume)
    | none => some (job, volume)

/-- The digest of the open file, unless the file is dated before 1970. -/
def sendCurrentDigest
    (job : TransferJob)
    (volume : Volume String Location) : Except FsError FileMessage :=
  match job.dataStream with
  | none => .error (.bail "file is None")
  | some stream =>
      let file := volume.disk.files stream.inode
      if file.modified < 0 then .error (.bail "second time provided was later than self")
      else
        .ok (.digest
          { id := job.id
            fileNum := job.fileNum
            lastModified := file.modified.toNat
            fileSize := file.bytes.length
            isUpload := false
            isIdentical := false
            transferredSize := 0
            isResume := job.isResume })

/-- Ask for the current file if nobody has asked yet. -/
def askForConfirm
    (job : TransferJob)
    (volume : Volume String Location) : Outcome Location (List FileMessage) :=
  if job.type = .generic ∧ job.enableOverwriteDetection ∧ !job.fileConfirmed ∧
      !job.fileIsWaiting then
    match job.sendCurrentDigest volume with
    | .error error => ⟨job, volume, .error error⟩
    | .ok message => ⟨{ job with fileIsWaiting := true }, volume, .ok [message]⟩
  else ⟨job, volume, .ok []⟩

/-- Open the current file for reading and ask whether it is wanted. -/
def initDataStream
    (job : TransferJob)
    (volume : Volume String Location) : Outcome Location (List FileMessage) :=
  match job.currentEntry with
  | none => ⟨{ job with dataStream := none }, volume, .ok []⟩
  | some entry =>
      match job.dataStream with
      | some _ => job.askForConfirm volume
      | none =>
          let path := job.pathOf os.style entry
          let opened := perform os.toHost volume (.openRead path)
          if opened.1 then
            askForConfirm
              { job with
                dataStream := openedAt os.toHost opened.2 path false
                fileConfirmed := false
                fileIsWaiting := false } opened.2
          else
            ⟨{ job with
                fileNum := job.fileNum + 1
                fileConfirmed := false
                fileIsWaiting := false },
              opened.2, .error (.io (.openRead path))⟩

/-- The data of a block, compressed where that is shorter. -/
def packed (name : String) (data : List UInt8) : List UInt8 × Bool :=
  if !isCompressedFile name ∧ (codec.compress data).length < data.length then
    (codec.compress data, true)
  else (data, false)

/-- Turn to the next file. -/
def nextFile (job : TransferJob) : TransferJob :=
  { job with
    fileNum := job.fileNum + 1
    dataStream := none
    fileConfirmed := false
    fileIsWaiting := false }

/-- Read the next block: an empty one ends a file. -/
def read
    (job : TransferJob)
    (volume : Volume String Location) : Outcome Location (Option FileTransferBlock) :=
  if job.type = .generic ∧ job.enableOverwriteDetection ∧ !job.fileConfirmed then
    ⟨job, volume, .ok none⟩
  else
    match job.currentEntry with
    | none => ⟨{ job with dataStream := none }, volume, .ok none⟩
    | some entry =>
        match job.dataStream with
        | none => ⟨job, volume, .error (.bail "data stream is None")⟩
        | some stream =>
            let done := perform os.toHost volume (.read stream)
            if done.1 then
              let data := ((done.2.disk.files stream.inode).bytes.drop stream.position).take bufSize
              if data = [] then
                ⟨job.nextFile, done.2, .ok (some ⟨job.id, job.fileNum, [], false⟩)⟩
              else
                let sent := packed codec entry.name data
                ⟨{ job with
                    dataStream := some { stream with position := stream.position + data.length }
                    finishedSize := job.finishedSize + data.length
                    transferred := job.transferred + sent.1.length },
                  done.2, .ok (some ⟨job.id, job.fileNum, sent.1, sent.2⟩)⟩
            else ⟨job.nextFile, done.2, .error (.io (.read stream))⟩

/-- The whole job was skipped. -/
def jobSkipped (job : TransferJob) : Bool :=
  job.fileSkipped && job.files.length == 1

/-- A job that read nothing is completed unless it waits for the peer. -/
def jobCompleted (job : TransferJob) : Bool :=
  !job.enableOverwriteDetection || (!job.fileConfirmed && !job.fileIsWaiting)

/-- The error to report instead of the end of a job. -/
def jobError (job : TransferJob) : Option String :=
  if job.jobSkipped then some "skipped" else none

end TransferJob
end Fs
end OneDesk
