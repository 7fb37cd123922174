import Mathlib.Algebra.GroupWithZero.Nat
import Mathlib.Data.List.DropRight
import OneDesk.Lib.BufWriter
import OneDesk.Lib.Path
import OneDesk.Lib.Run

/-!
# The paste task

`platform/unix/macos/paste_task.rs` of the clipboard library.  A task asks the peer for the files of
a list, block by block, collects every file beside its target under a name of its own, and renames
it when it has as many bytes as its description says.  A thread takes the responses of the peer one
by one; it shares the task with the calls that start and cancel it.

The times and extended attributes of the files are left out, and so are the directories, which are
not on the disk.
-/

namespace OneDesk
namespace Clipboard
namespace Paste

open Lib

inductive FileType
  | file
  | directory
  | symlink
  deriving DecidableEq

/-- `FileDescription`, without permissions and times. -/
structure FileDescription where
  connId : Int
  name : String
  kind : FileType
  size : Nat
  deriving DecidableEq

/-- Why the system says no. -/
inductive Failure
  | refused (operation : Operation String)
  | notFound (text : String)
  deriving DecidableEq

inductive CliprdrError
  | fileError (path : String) (err : Failure)
  | invalidRequest (description : String)
  | commonError (description : String)
  deriving DecidableEq

structure FileContentsResponse where
  connId : Int
  msgFlags : Int
  streamId : Int
  requestedData : List UInt8
  deriving DecidableEq

/-- `ClipboardFile::FileContentsRequest` -/
structure FileContentsRequest where
  streamId : Int
  listIndex : Int
  dwFlags : Int
  nPositionLow : Int
  nPositionHigh : Int
  cbRequested : Int
  haveClipDataId : Bool
  clipDataId : Int
  deriving DecidableEq

/-- A request that a task has sent, and the offset it is about. -/
structure Sent where
  task : Nat
  connId : Int
  offset : Nat
  request : FileContentsRequest
  deriving DecidableEq

/-- Bytes that were taken, with the number of the request that the peer answers with them. -/
structure Answer where
  data : List UInt8
  request : Option Nat
  deriving DecidableEq

/-- `PasteTaskProgress`; times are in milliseconds. -/
structure PasteTaskProgress where
  listIndex : Int
  offset : Nat
  totalSize : Nat
  currentSize : Nat
  lastSentTime : Nat
  downloadFileIndex : Int
  downloadFileSize : Nat
  downloadFilePath : String
  downloadFileCurrentSize : Nat
  fileHandle : Option BufWriter
  error : Option CliprdrError
  isCanceled : Bool
  /-- What the open file consists of.  The source keeps no such record. -/
  taken : List Answer
  deriving DecidableEq

structure PasteTaskHandle where
  /-- The number of the task among all that were started. -/
  task : Nat
  progress : PasteTaskProgress
  targetDir : String
  files : List FileDescription
  deriving DecidableEq

/-- A file that was opened to collect blocks. -/
structure Download where
  path : String
  inode : Nat
  deriving DecidableEq

/-- A file that has got its final name. -/
structure Publication where
  task : Nat
  listIndex : Int
  file : FileDescription
  path : String
  inode : Nat
  bytes : List UInt8
  taken : List Answer
  deriving DecidableEq

/-- The disk, and what the tasks have made of it. -/
structure Target (Location : Type) where
  volume : Volume String Location
  downloads : List Download := []
  published : List Publication := []

/-- `PasteTask`, and the thread that works for it. -/
structure PasteTask (Location : Type) where
  handle : Option PasteTaskHandle := none
  retryCount : Nat := 0
  target : Target Location
  requests : List Sent := []
  tasks : Nat := 0

def blockSize : Nat := 4 * 1024 * 1024

def recvRetryTimes : Nat := 3

def downloadExtension : String := "rddownload"

def receiveWaitTimeout : Nat := 5000

def invalidFileIndex : Int := -1

/-- A number `as i32`. -/
def asI32 (number : Nat) : Int :=
  (Int32.ofNat number).toInt

/-- The entry at an index `as usize`, which is beyond every list when the index is negative. -/
def fileAt (files : List FileDescription) (index : Int) : Option FileDescription :=
  if index < 0 then none else files[index.toNat]?

/-! ## Names -/

/-- The parts of a path without those that count for nothing at its end. -/
def trimParts (parts : List (List Char × Nat)) : List (List Char × Nat) :=
  parts.rdropWhile fun part => part.1 = [] || (part.1 = ['.'] && part.2 ≠ 0)

def partsOf (path : String) : List (List Char × Nat) :=
  trimParts (path.toList.splitOnP (· == '/')).zipIdx

/-- `Path::file_name` -/
def fileName (path : String) : Option (List Char) :=
  ((partsOf path).getLast?.map Prod.fst).filter Path.isNormal

/-- `Path::parent` -/
def parent (path : String) : Option String :=
  if partsOf path = [] then none
  else
    let parts := trimParts (partsOf path).dropLast
    some (if parts = [] ∧ Path.startsRooted .unix path.toList then "/"
      else String.ofList (['/'].intercalate (parts.map Prod.fst)))

/-- `Path::with_file_name` -/
def withFileName (path name : String) : String :=
  Path.push .unix (if (fileName path).isSome then (parent path).getD path else path) name

/-- The last dot of a file name divides stem and extension, unless it comes first. -/
def splitAtDot (name : List Char) : List Char × Option (List Char) :=
  let after := name.rtakeWhile (· ≠ '.')
  let before := name.take (name.length - after.length - 1)
  if '.' ∈ name ∧ before ≠ [] then (before, some after) else (name, none)

/-- The names that `get_first_filename` tries. -/
def numbered (path : String) (kind : FileType) (i : Nat) : Option String :=
  match kind with
  | .file =>
      match (fileName path).map splitAtDot with
      | some (stem, some extension) =>
          some (withFileName path
            (String.ofList stem ++ "-" ++ toString i ++ "." ++ String.ofList extension))
      | _ => some (path ++ " (" ++ toString i ++ ")")
  | .directory => some (path ++ " (" ++ toString i ++ ")")
  | .symlink => none

variable {Location : Type} [DecidableEq Location]
variable (host : Host String Location)

/-- The loop of `get_first_filename`. -/
def firstFree
    (path : String)
    (kind : FileType) :
    Nat → Nat → Volume String Location → Option String × Volume String Location
  | 0, _, volume => (none, volume)
  | count + 1, i, volume =>
      match numbered path kind i with
      | none => (none, volume)
      | some newPath =>
          let found := perform host volume (.stat newPath)
          if found.1 then firstFree path kind count (i + 1) found.2 else (some newPath, found.2)

def getFirstFilename
    (path : String)
    (kind : FileType)
    (volume : Volume String Location) : Option String × Volume String Location :=
  let found := perform host volume (.stat path)
  if found.1 then firstFree host path kind 9999998 1 found.2 else (some path, found.2)

def getNewFilename
    (targetDir : String)
    (fileDesc : FileDescription)
    (volume : Volume String Location) : Option String × Volume String Location :=
  let renameToPath := Path.push .unix targetDir fileDesc.name
  let found := perform host volume (.stat renameToPath)
  if found.1 then getFirstFilename host renameToPath fileDesc.kind found.2
  else (some renameToPath, found.2)

/-- A file has its final name. -/
def Target.publish
    (target : Target Location)
    (task : Nat)
    (listIndex : Int)
    (file : FileDescription)
    (path : String)
    (taken : List Answer) : Target Location :=
  { target with
    published := target.published ++
      [{ task := task
         listIndex := listIndex
         file := file
         path := path
         inode := ((host.locate path).bind target.volume.disk.names).getD 0
         bytes := ((host.locate path).bind target.volume.disk.bytes).getD []
         taken := taken }] }

/-! ## A task -/

namespace PasteTaskHandle

/-- A handle and the disk after a function of the task. -/
abbrev After (Location : Type) := PasteTaskHandle × Target Location

/-- What a function of the task that may fail comes to. -/
abbrev Outcome (Location : Type) := Except CliprdrError Unit × After Location

/-- Change the progress of a task. -/
def advance
    (change : PasteTaskProgress → PasteTaskProgress)
    (handle : PasteTaskHandle) : PasteTaskHandle :=
  { handle with progress := change handle.progress }

def isFinished (handle : PasteTaskHandle) : Bool :=
  handle.progress.isCanceled || handle.progress.error.isSome ||
    decide (asI32 handle.files.length ≤ handle.progress.listIndex)

def onCancelled (handle : PasteTaskHandle) (target : Target Location) : After Location :=
  let volume := match handle.progress.fileHandle with
    | none => target.volume
    | some writer => writer.drop host target.volume
  (handle.advance fun progress => { progress with fileHandle := none },
    { target with
      volume := (perform host volume (.remove handle.progress.downloadFilePath)).2 })

def onError
    (error : CliprdrError)
    (handle : PasteTaskHandle)
    (target : Target Location) : After Location :=
  onCancelled host (handle.advance fun progress => { progress with error := some error }) target

def onDone (handle : PasteTaskHandle) (target : Target Location) : After Location :=
  match handle.progress.fileHandle with
  | none => (handle, target)
  | some writer =>
      if handle.progress.downloadFileIndex = invalidFileIndex then (handle, target)
      else
        -- a flush that fails is logged, and tried again when the writer goes
        let flushed := writer.flush host target.volume
        let target := { target with volume := flushed.2.1.drop host flushed.2.2 }
        let handle := handle.advance fun progress => { progress with fileHandle := none }
        match fileAt handle.files handle.progress.downloadFileIndex with
        | none => (handle, target)
        | some fileDesc =>
            let named := getNewFilename host handle.targetDir fileDesc target.volume
            match named.1 with
            | none => (handle, { target with volume := named.2 })
            | some path =>
                let renamed := perform host named.2 (.rename handle.progress.downloadFilePath path)
                let target := { target with volume := renamed.2 }
                (handle.advance fun progress =>
                    { progress with
                      downloadFilePath := ""
                      downloadFileIndex := invalidFileIndex },
                  if renamed.1 then
                    target.publish host handle.task handle.progress.downloadFileIndex fileDesc path
                      handle.progress.taken
                  else target)

def onFinished (handle : PasteTaskHandle) (target : Target Location) : After Location :=
  let after := if handle.progress.error.isSome then onCancelled host handle target
    else onDone host handle target
  if after.1.progress.currentSize ≠ after.1.progress.totalSize then
    (after.1.advance fun progress =>
      { progress with error := some (.invalidRequest "Failed to download all files") }, after.2)
  else after

/-- The file that collects the blocks is there, or it cannot be. -/
def createDownload
    (handle : PasteTaskHandle)
    (file : FileDescription)
    (path : String)
    (target : Target Location) : After Location :=
  let created := perform host target.volume (.create path)
  if created.1 then
    let opened := openedAt host created.2 path true
    (handle.advance fun progress =>
        { progress with
          downloadFileIndex := progress.listIndex
          downloadFileSize := file.size
          downloadFilePath := path
          downloadFileCurrentSize := 0
          fileHandle := opened.map fun found => { handle := found }
          taken := [] },
      { target with
        volume := created.2
        downloads := target.downloads ++ (opened.map fun found => ⟨path, found.inode⟩).toList })
  else
    (handle.advance fun progress =>
        { progress with error := some (.fileError path (.refused (.create path))) },
      { target with volume := created.2 })

def openNewWriter (handle : PasteTaskHandle) (target : Target Location) : Outcome Location :=
  match fileAt handle.files handle.progress.listIndex with
  | none =>
      (.error (.invalidRequest ("Invalid file index: " ++ toString handle.progress.listIndex ++
        ", file count: " ++ toString handle.files.length)), handle, target)
  | some file =>
      let originalFilePath := Path.push .unix handle.targetDir file.name
      let named := getFirstFilename host (originalFilePath ++ "." ++ downloadExtension) file.kind
        target.volume
      let target := { target with volume := named.2 }
      match named.1 with
      | none =>
          (.error (.commonError ("Failed to get download file path: " ++ originalFilePath)),
            handle, target)
      | some path =>
          match parent path with
          | none =>
              (.error (.commonError ("Failed to get parent of the download file path: " ++
                originalFilePath)), handle, target)
          | some directory =>
              let found := perform host target.volume (.stat directory)
              let made := if found.1 then found else perform host found.2 (.makeParent path)
              let target := { target with volume := made.2 }
              if made.1 then (.ok (), createDownload host handle file path target)
              else
                (.error (.fileError directory (.refused (.makeParent path))), handle, target)

/-- An empty file is made at once. -/
def createEmpty
    (handle : PasteTaskHandle)
    (i : Int)
    (fileDesc : FileDescription)
    (target : Target Location) : Target Location :=
  let named := getNewFilename host handle.targetDir fileDesc target.volume
  match named.1 with
  | none => { target with volume := named.2 }
  | some path =>
      let created := perform host named.2 (.create path)
      let target := { target with volume := created.2 }
      if created.1 then target.publish host handle.task i fileDesc path [] else target

/-- `create_dir_all` of a directory that is not there. -/
def createDirectory
    (handle : PasteTaskHandle)
    (fileDesc : FileDescription)
    (target : Target Location) : Target Location :=
  let path := Path.push .unix handle.targetDir fileDesc.name
  let found := perform host target.volume (.stat path)
  { target with
    volume := if found.1 then found.2 else (perform host found.2 (.makeParent path)).2 }

/-- The loop of `update_next` over the entries from an index on. -/
def openNext
    (handle : PasteTaskHandle) :
    Nat → Int → Target Location → Outcome Location
  | 0, _, target => (.ok (), handle, target)
  | count + 1, i, target =>
      match fileAt handle.files i with
      | none => (.error (.invalidRequest ("Invalid file index: " ++ toString i)), handle, target)
      | some fileDesc =>
          match fileDesc.kind with
          | .file =>
              if fileDesc.size = 0 then
                openNext handle count (i + 1) (createEmpty host handle i fileDesc target)
              else
                openNewWriter host
                  (handle.advance fun progress => { progress with listIndex := i, offset := 0 })
                  target
          | .directory =>
              openNext handle count (i + 1) (createDirectory host handle fileDesc target)
          | .symlink => openNext handle count (i + 1) target

/-- Without an open file the list is at its end. -/
def settle (handle : PasteTaskHandle) : PasteTaskHandle :=
  match handle.progress.fileHandle with
  | some _ => handle
  | none =>
      handle.advance fun progress =>
        { progress with
          listIndex := asI32 handle.files.length
          offset := 0
          downloadFileSize := 0
          downloadFileCurrentSize := 0 }

def updateNext
    (size : Nat)
    (handle : PasteTaskHandle)
    (target : Target Location) : Outcome Location :=
  if handle.isFinished then (.ok (), handle, target)
  else
    let handle := handle.advance fun progress =>
      { progress with currentSize := progress.currentSize + size }
    let isStart := handle.progress.listIndex = -1
    if isStart ∨ handle.progress.downloadFileSize ≤ handle.progress.offset + size then
      let done := if isStart then (handle, target) else onDone host handle target
      let next := handle.progress.listIndex + 1
      let opened := openNext host done.1 (asI32 handle.files.length - next).toNat next done.2
      match opened.1 with
      | .error error => (.error error, opened.2)
      | .ok () => (.ok (), opened.2.1.settle, opened.2.2)
    else
      (.ok (),
        (handle.advance fun progress =>
          { progress with
            offset := progress.offset + size
            downloadFileCurrentSize := progress.downloadFileCurrentSize + size }).settle,
        target)

/-- The request that `send_file_contents_request` sends, if there is anything to ask for. -/
def nextRequest (handle : PasteTaskHandle) : Except CliprdrError (Option Sent) :=
  if handle.isFinished then .ok none
  else
    match fileAt handle.files handle.progress.listIndex with
    | none =>
        .error (.invalidRequest ("Invalid file index: " ++ toString handle.progress.listIndex))
    | some file =>
        .ok (some
          { task := handle.task
            connId := file.connId
            offset := handle.progress.offset
            request :=
              { streamId := handle.progress.listIndex
                listIndex := handle.progress.listIndex
                dwFlags := 2
                nPositionLow := asI32 (handle.progress.offset % 2 ^ 32)
                nPositionHigh := asI32 (handle.progress.offset / 2 ^ 32)
                cbRequested := asI32 (min blockSize (file.size - handle.progress.offset))
                haveClipDataId := false
                clipDataId := 0 } })

def handleFileContentsResponse
    (fileContents : FileContentsResponse)
    (answers : Option Nat)
    (handle : PasteTaskHandle)
    (target : Target Location) : Outcome Location :=
  let path := handle.progress.downloadFilePath
  match handle.progress.fileHandle with
  | none =>
      (.error (.fileError path (.notFound "file handle is not opened")), handle, target)
  | some writer =>
      let data := fileContents.requestedData
      if data = [] then updateNext host 0 handle target
      else
        let written := writer.write host (blockSize * 2) data target.volume
        let target := { target with volume := written.2.2 }
        let handle := handle.advance fun progress =>
          { progress with fileHandle := some written.2.1 }
        if written.1 then
          updateNext host data.length
            (handle.advance fun progress =>
              { progress with taken := progress.taken ++ [⟨data, answers⟩] }) target
        else (.error (.fileError path (.refused (.write writer.handle data))), handle, target)

def checkReceiveTimeout (now : Nat) (handle : PasteTaskHandle) : Bool :=
  !handle.isFinished && decide (receiveWaitTimeout < now - handle.progress.lastSentTime)

end PasteTaskHandle

/-! ## Tasks one after another -/

namespace PasteTask

open PasteTaskHandle

/-- The task before anything was pasted. -/
def new (volume : Volume String Location) : PasteTask Location where
  target := { volume := volume }

/-- `send_file_contents_request`, and what is done when it fails. -/
def sendFileContentsRequest
    (now : Nat)
    (state : PasteTask Location)
    (after : After Location) : PasteTask Location :=
  match after.1.nextRequest with
  | .error error =>
      let failed := onError host error after.1 after.2
      { state with handle := some failed.1, target := failed.2 }
  | .ok none => { state with handle := some after.1, target := after.2 }
  | .ok (some sent) =>
      { state with
        handle := some (after.1.advance fun progress => { progress with lastSentTime := now })
        target := after.2
        requests := state.requests ++ [sent] }

/-- Go on asking, or finish. -/
def proceed
    (now : Nat)
    (state : PasteTask Location)
    (after : After Location) : PasteTask Location :=
  if after.1.isFinished then
    let finished := onFinished host after.1 after.2
    { state with handle := some finished.1, target := finished.2, retryCount := 0 }
  else sendFileContentsRequest host now state after

/-- The handle that `start` makes. -/
def freshHandle
    (task : Nat)
    (targetDir : String)
    (files : List FileDescription)
    (now : Nat) : PasteTaskHandle where
  task := task
  progress :=
    { listIndex := -1
      offset := 0
      totalSize := (files.map FileDescription.size).sum
      currentSize := 0
      lastSentTime := now
      downloadFileIndex := invalidFileIndex
      downloadFileSize := 0
      downloadFilePath := ""
      downloadFileCurrentSize := 0
      fileHandle := none
      error := none
      isCanceled := false
      taken := [] }
  targetDir := targetDir
  files := files

def start
    (targetDir : String)
    (files : List FileDescription)
    (now : Nat)
    (state : PasteTask Location) : PasteTask Location :=
  if state.handle.any fun handle => !handle.isFinished then state
  else
    -- an error of `update_next` is not looked at
    let after :=
      (updateNext host 0 (freshHandle state.tasks targetDir files now) state.target).2
    { proceed host now { state with tasks := state.tasks + 1 } after with
      retryCount := state.retryCount }

def cancel (state : PasteTask Location) : PasteTask Location :=
  match state.handle with
  | none => state
  | some handle =>
      let after := onCancelled host
        (handle.advance fun progress => { progress with isCanceled := true }) state.target
      { state with handle := some after.1, target := after.2 }

/-- A response with a failure flag. -/
def retry
    (now : Nat)
    (fileContents : FileContentsResponse)
    (handle : PasteTaskHandle)
    (state : PasteTask Location) : PasteTask Location :=
  let state := { state with retryCount := state.retryCount + 1 }
  proceed host now state
    (if recvRetryTimes < state.retryCount then
      handle.advance fun progress =>
        { progress with
          error := some (.invalidRequest ("Failed to read file contents, stream id: " ++
            toString fileContents.streamId ++ ", msg_flags: " ++
            toString fileContents.msgFlags)) }
    else handle, state.target)

/-- A response goes to the file of the task. -/
def accepts (handle : PasteTaskHandle) (fileContents : FileContentsResponse) : Bool :=
  !handle.isFinished && fileContents.streamId = handle.progress.listIndex &&
    fileContents.msgFlags = 0x01 &&
    (fileAt handle.files fileContents.streamId).any (·.connId = fileContents.connId)

/-- `handle_file_contents_response`, and what is done when it fails. -/
def accept
    (fileContents : FileContentsResponse)
    (answers : Option Nat)
    (handle : PasteTaskHandle)
    (target : Target Location) : After Location :=
  let handled := handleFileContentsResponse host fileContents answers handle target
  match handled.1 with
  | .ok () => handled.2
  | .error error => onError host error handled.2.1 handled.2.2

/-- The thread has received a response. -/
def response
    (fileContents : FileContentsResponse)
    (answers : Option Nat)
    (now : Nat)
    (state : PasteTask Location) : PasteTask Location :=
  match state.handle with
  | none => state
  | some handle =>
      if handle.isFinished || decide (fileContents.streamId ≠ handle.progress.listIndex) then state
      else if fileContents.msgFlags ≠ 0x01 then retry host now fileContents handle state
      else if accepts handle fileContents then
        proceed host now state (accept host fileContents answers handle state.target)
      else state

/-- The thread has waited in vain. -/
def timeout (now : Nat) (state : PasteTask Location) : PasteTask Location :=
  match state.handle with
  | none => state
  | some handle =>
      if handle.checkReceiveTimeout now then
        let finished := onFinished host (handle.advance fun progress =>
          { progress with
            error := some (.invalidRequest "Failed to read file contents") }) state.target
        { state with handle := some finished.1, target := finished.2, retryCount := 0 }
      else state

end PasteTask

/-- What happens to a task; every event holds its lock. -/
inductive Event
  | start (targetDir : String) (files : List FileDescription) (now : Nat)
  | cancel
  | response (fileContents : FileContentsResponse) (answers : Option Nat) (now : Nat)
  | timeout (now : Nat)
  deriving DecidableEq

/-- One step of the task. -/
def step (state : PasteTask Location) : Event → PasteTask Location
  | .start targetDir files now => state.start host targetDir files now
  | .cancel => state.cancel host
  | .response fileContents answers now => state.response host fileContents answers now
  | .timeout now => state.timeout host now

end Paste
end Clipboard
end OneDesk
