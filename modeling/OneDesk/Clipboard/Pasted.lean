import OneDesk.Clipboard.PasteTask

/-!
# What is pasted

A task publishes whole files and leaves nothing else behind, as long as what it takes from the peer
answers its own requests and no file is taken beyond its size: a response says which file it is
for, but neither which task nor which offset, and a file is published as soon as enough bytes have
come.
-/

namespace OneDesk
namespace Clipboard
namespace Paste

open Lib
open PasteTaskHandle PasteTask

/-- The bytes of some answers. -/
def bytesOf (taken : List Answer) : List UInt8 :=
  (taken.map Answer.data).flatten

/-- The peer has answered a request of a task for a file at an offset. -/
def Answers (requests : List Sent) (task : Nat) (listIndex : Int) (offset : Nat) (answer : Answer) :
    Prop :=
  ∃ number sent, answer.request = some number ∧ requests[number]? = some sent ∧
    sent.task = task ∧ sent.request.listIndex = listIndex ∧ sent.offset = offset

/-- Answers to the requests of a task for a file follow each other from an offset on. -/
def InOrder (requests : List Sent) (task : Nat) (listIndex : Int) : Nat → List Answer → Prop
  | _, [] => True
  | offset, answer :: rest =>
      Answers requests task listIndex offset answer ∧
        InOrder requests task listIndex (offset + answer.data.length) rest

/-- A file has the size of its description and consists of the answers to the requests for it. -/
structure Whole (requests : List Sent) (publication : Publication) : Prop where
  size : publication.bytes.length = publication.file.size
  contents : publication.bytes = bytesOf publication.taken
  inOrder : InOrder requests publication.task publication.listIndex 0 publication.taken

/-- A file that was opened has got its final name, or it has no name at all. -/
def Settled {Location : Type} (target : Target Location) (inode : Nat) : Prop :=
  (∃ publication ∈ target.published, publication.inode = inode) ∨
    ∀ location, target.volume.disk.names location ≠ some inode

/-- A pasted file is whole or absent. -/
structure Sound {Location : Type} (state : PasteTask Location) : Prop where
  whole : ∀ publication ∈ state.target.published, Whole state.requests publication
  cleared : ∀ handle, state.handle = some handle → handle.isFinished = true →
    ∀ download ∈ state.target.downloads, Settled state.target download.inode

variable {Location : Type}

/-- All files but an open one are whole or absent. -/
structure Kept (requests : List Sent) (target : Target Location) (current : Option Nat) : Prop where
  whole : ∀ publication ∈ target.published, Whole requests publication
  allocated : ∀ download ∈ target.downloads, download.inode < target.volume.disk.next
  settled : ∀ download ∈ target.downloads,
    current = some download.inode ∨ Settled target download.inode

/-- The open file of a task is at its path, and all others are whole or absent. -/
structure Sane
    (host : Host String Location)
    (requests : List Sent)
    (handle : PasteTaskHandle)
    (target : Target Location) : Prop where
  kept : Kept requests target (handle.progress.fileHandle.map fun writer => writer.handle.inode)
  named : ∀ writer, handle.progress.fileHandle = some writer →
    ∃ location, host.locate handle.progress.downloadFilePath = some location ∧
      target.volume.disk.names location = some writer.handle.inode

/-- The open file of a task is the one of its index and has got what was taken. -/
structure Collecting
    (requests : List Sent)
    (handle : PasteTaskHandle)
    (disk : Disk Location)
    (writer : BufWriter)
    (file : FileDescription) : Prop where
  isFile : fileAt handle.files handle.progress.listIndex = some file
  kind : file.kind = .file
  inRange : handle.progress.listIndex < asI32 handle.files.length
  index : handle.progress.downloadFileIndex = handle.progress.listIndex
  size : handle.progress.downloadFileSize = file.size
  writes : writer.Writes disk (bytesOf handle.progress.taken)
  inOrder : InOrder requests handle.task handle.progress.listIndex 0 handle.progress.taken
  running : handle.progress.error = none ∧ handle.progress.isCanceled = false

/-- A task with an open file waits for more of it. -/
structure Steady
    (host : Host String Location)
    (requests : List Sent)
    (handle : PasteTaskHandle)
    (target : Target Location) : Prop extends Sane host requests handle target where
  collecting : ∀ writer, handle.progress.fileHandle = some writer →
    ∃ file, Collecting requests handle target.volume.disk writer file
  offset : handle.progress.fileHandle ≠ none →
    handle.progress.offset = (bytesOf handle.progress.taken).length ∧
      handle.progress.offset < handle.progress.downloadFileSize

/-- The state of the task between two events. -/
structure Good (host : Host String Location) (state : PasteTask Location) : Prop where
  idle : state.handle = none → Kept state.requests state.target none
  steady : ∀ handle, state.handle = some handle → Steady host state.requests handle state.target

variable {host : Host String Location} {requests : List Sent} {handle : PasteTaskHandle}
variable {target : Target Location}

/-! ## Answers in order -/

theorem Answers.mono
    {more : List Sent}
    {task : Nat}
    {listIndex : Int}
    {offset : Nat}
    {answer : Answer}
    (answers : Answers requests task listIndex offset answer) :
    Answers (requests ++ more) task listIndex offset answer := by
  obtain ⟨number, sent, isNumber, isSent, same⟩ := answers
  exact ⟨number, sent, isNumber, by rw [List.getElem?_append_left
    (List.getElem?_eq_some_iff.mp isSent).1, isSent], same⟩

theorem InOrder.mono
    {more : List Sent}
    {task : Nat}
    {listIndex : Int}
    {taken : List Answer} :
    ∀ {offset : Nat}, InOrder requests task listIndex offset taken →
      InOrder (requests ++ more) task listIndex offset taken := by
  induction taken with
  | nil => exact fun _ => trivial
  | cons answer rest inductionHypothesis =>
      exact fun inOrder => ⟨inOrder.1.mono, inductionHypothesis inOrder.2⟩

/-- The next answer goes behind the bytes that are there. -/
theorem InOrder.concat
    {task : Nat}
    {listIndex : Int}
    {taken : List Answer}
    {answer : Answer} :
    ∀ {offset : Nat}, InOrder requests task listIndex offset taken →
      Answers requests task listIndex (offset + (bytesOf taken).length) answer →
      InOrder requests task listIndex offset (taken ++ [answer]) := by
  induction taken with
  | nil => exact fun _ answers => ⟨by simpa [bytesOf] using answers, trivial⟩
  | cons first rest inductionHypothesis =>
      intro offset inOrder answers
      refine ⟨inOrder.1, inductionHypothesis inOrder.2 ?_⟩
      simpa [bytesOf, Nat.add_assoc] using answers

theorem bytesOf_concat (taken : List Answer) (answer : Answer) :
    bytesOf (taken ++ [answer]) = bytesOf taken ++ answer.data := by
  simp [bytesOf]

/-! ## Files that are kept -/

theorem Whole.mono
    {more : List Sent}
    {publication : Publication}
    (whole : Whole requests publication) :
    Whole (requests ++ more) publication :=
  ⟨whole.size, whole.contents, whole.inOrder.mono⟩

namespace Kept

variable {current : Option Nat}

theorem mono
    (kept : Kept requests target current)
    (more : List Sent) :
    Kept (requests ++ more) target current :=
  ⟨fun publication member => (kept.whole publication member).mono, kept.allocated, kept.settled⟩

/-- What is settled stays settled. -/
theorem later
    (kept : Kept requests target current)
    {volume : Volume String Location}
    (later : target.volume.disk.Later volume.disk) :
    Kept requests { target with volume := volume } current := by
  refine ⟨kept.whole, ?_, ?_⟩
  · intro download member
    exact (kept.allocated download member).trans_le later.next
  · intro download member
    apply (kept.settled download member).imp_right
    apply Or.imp_right
    exact later.unnamed download.inode (kept.allocated download member)

/-- The open file has been removed. -/
theorem removed
    {inode : Nat}
    (kept : Kept requests target (some inode))
    (unnamed : ∀ location, target.volume.disk.names location ≠ some inode) :
    Kept requests target none := by
  refine ⟨kept.whole, kept.allocated, ?_⟩
  intro download member
  rcases kept.settled download member with isCurrent | settled
  · obtain rfl := Option.some.inj isCurrent
    exact .inr (.inr unnamed)
  · exact .inr settled

/-- A whole file is published, and if it is the open one, none is open any more. -/
theorem published
    (kept : Kept requests target current)
    {publication : Publication}
    (whole : Whole requests publication)
    (closes : ∀ inode, current = some inode → publication.inode = inode) :
    Kept requests { target with published := target.published ++ [publication] } none := by
  refine ⟨?_, kept.allocated, ?_⟩
  · simpa only [List.forall_mem_append, List.forall_mem_singleton] using ⟨kept.whole, whole⟩
  · intro download member
    rcases kept.settled download member with isCurrent | ⟨found, isFound, same⟩ | unnamed
    · exact .inr (.inl ⟨publication, by simp, closes _ isCurrent⟩)
    · exact .inr (.inl ⟨found, by simp [isFound], same⟩)
    · exact .inr (.inr unnamed)

/-- A file has been opened. -/
theorem opened
    (kept : Kept requests target none)
    {download : Download}
    (allocated : download.inode < target.volume.disk.next) :
    Kept requests { target with downloads := target.downloads ++ [download] }
      (some download.inode) := by
  refine ⟨kept.whole, ?_, ?_⟩
  · simpa only [List.forall_mem_append, List.forall_mem_singleton] using
      ⟨kept.allocated, allocated⟩
  · intro found member
    rcases List.mem_append.mp member with old | new
    · rcases kept.settled found old with isCurrent | settled
      · simp at isCurrent
      · exact .inr settled
    · exact .inl (by rw [List.mem_singleton.mp new])

end Kept

/-- A task without an open file is steady. -/
theorem Steady.of_kept
    (kept : Kept requests target none)
    (closed : handle.progress.fileHandle = none) :
    Steady host requests handle target :=
  ⟨⟨by simpa [closed] using kept, by simp [closed]⟩, by simp [closed], by simp [closed]⟩

theorem Sane.kept_of_closed
    (sane : Sane host requests handle target)
    (closed : handle.progress.fileHandle = none) :
    Kept requests target none := by
  simpa [closed] using sane.kept

theorem Steady.both
    {claim : Prop}
    (steady : Steady host requests handle target) :
    Sane host requests handle target ∧ (claim → Steady host requests handle target) :=
  ⟨steady.toSane, fun _ => steady⟩

theorem Steady.mono
    (steady : Steady host requests handle target)
    (more : List Sent) :
    Steady host (requests ++ more) handle target := by
  refine ⟨⟨steady.kept.mono more, steady.named⟩, ?_, steady.offset⟩
  intro writer isOpen
  obtain ⟨file, collecting⟩ := steady.collecting writer isOpen
  exact ⟨file, { collecting with inOrder := collecting.inOrder.mono }⟩

theorem Collecting.unfinished
    {disk : Disk Location}
    {writer : BufWriter}
    {file : FileDescription}
    (collecting : Collecting requests handle disk writer file) :
    handle.isFinished = false := by
  have inRange := collecting.inRange
  obtain ⟨noError, running⟩ := collecting.running
  simpa [isFinished, running, noError] using inRange

/-- A task that is finished has no open file. -/
theorem Steady.closed
    (steady : Steady host requests handle target)
    (finished : handle.isFinished = true) :
    handle.progress.fileHandle = none := by
  cases isOpen : handle.progress.fileHandle with
  | none => rfl
  | some writer =>
      obtain ⟨file, collecting⟩ := steady.collecting writer isOpen
      simp [collecting.unfinished] at finished

theorem Good.sound
    {state : PasteTask Location}
    (good : Good host state) :
    Sound state := by
  cases isHandle : state.handle with
  | none => exact ⟨(good.idle isHandle).whole, by simp [isHandle]⟩
  | some handle =>
      have steady := good.steady handle isHandle
      refine ⟨steady.kept.whole, ?_⟩
      intro found isFound finished download member
      obtain rfl := Option.some.inj (isHandle.symm.trans isFound)
      have kept := steady.kept_of_closed (steady.closed finished)
      exact (kept.settled download member).resolve_left (by simp)

/-! ## Fair responses -/

/-- A name that the file of a description may get. -/
def Candidate (path : String) (kind : FileType) (name : String) : Prop :=
  name = path ∨ ∃ i, 0 < i ∧ i < 9999999 ∧ numbered path kind i = some name

/-- All names that a file may get can name a file, and one of them is free. -/
structure Nameable
    (host : Host String Location)
    (disk : Disk Location)
    (path : String)
    (kind : FileType) : Prop where
  located : ∀ name, Candidate path kind name → ∃ location, host.locate name = some location
  free : ∃ name location, Candidate path kind name ∧ host.locate name = some location ∧
    disk.names location = none

variable [DecidableEq Location]

/-- Some bytes answer what a task has asked for last, and they fit into the file.  With its last
bytes, the file can be flushed and named. -/
structure Fits
    (host : Host String Location)
    (requests : List Sent)
    (target : Target Location)
    (handle : PasteTaskHandle)
    (writer : BufWriter)
    (answer : Answer) : Prop where
  asked : answer.data ≠ [] → Answers requests handle.task handle.progress.listIndex
    handle.progress.offset answer
  inside : handle.progress.offset + answer.data.length ≤ handle.progress.downloadFileSize
  flushed : handle.progress.downloadFileSize ≤ handle.progress.offset + answer.data.length →
    let written := writer.write host (blockSize * 2) answer.data target.volume
    written.1 = true → (written.2.1.flush host written.2.2).1 = true
  nameable : handle.progress.downloadFileSize ≤ handle.progress.offset + answer.data.length →
    ∀ file, fileAt handle.files handle.progress.listIndex = some file →
      Nameable host target.volume.disk (Path.push .unix handle.targetDir file.name) file.kind

/-- A response that the task takes fits. -/
def Fair (host : Host String Location) (state : PasteTask Location) : Event → Prop
  | .response fileContents answers _ =>
      ∀ handle writer, state.handle = some handle → accepts handle fileContents = true →
        handle.progress.fileHandle = some writer →
        Fits host state.requests state.target handle writer ⟨fileContents.requestedData, answers⟩
  | _ => True

/-- The system refuses neither to rename nor to remove a file. -/
structure Obliging (host : Host String Location) : Prop where
  renames : ∀ history source target, host.allows history (.rename source target) = true
  removes : ∀ history path, host.allows history (.remove path) = true

variable {host : Host String Location} {requests : List Sent} {handle : PasteTaskHandle}
variable {target : Target Location}

/-! ## Names -/

theorem firstFree_disk
    (path : String)
    (kind : FileType)
    (count i : Nat)
    (volume : Volume String Location) :
    (firstFree host path kind count i volume).2.disk = volume.disk := by
  induction count generalizing i volume with
  | zero => rfl
  | succ count inductionHypothesis =>
      rw [firstFree]
      split
      · rfl
      · dsimp only
        split
        · rw [inductionHypothesis, perform_stat_disk]
        · exact perform_stat_disk ..

@[simp] theorem getFirstFilename_disk
    (path : String)
    (kind : FileType)
    (volume : Volume String Location) :
    (getFirstFilename host path kind volume).2.disk = volume.disk := by
  unfold getFirstFilename
  dsimp only
  split
  · rw [firstFree_disk, perform_stat_disk]
  · exact perform_stat_disk ..

variable (host) in
@[simp] theorem getNewFilename_disk
    (targetDir : String)
    (fileDesc : FileDescription)
    (volume : Volume String Location) :
    (getNewFilename host targetDir fileDesc volume).2.disk = volume.disk := by
  unfold getNewFilename
  dsimp only
  split
  · rw [getFirstFilename_disk, perform_stat_disk]
  · exact perform_stat_disk ..

omit [DecidableEq Location] in
/-- A file may get a name with every number. -/
theorem numbered_file (path : String) (i : Nat) : ∃ name, numbered path .file i = some name := by
  rw [numbered]
  split
  · exact ⟨_, rfl⟩
  · exact ⟨_, rfl⟩

variable (host) in
/-- The loop finds a name, or all of them are taken. -/
theorem firstFree_cases
    (path : String)
    (count i : Nat)
    (volume : Volume String Location) :
    (∃ j name, i ≤ j ∧ j < i + count ∧ numbered path .file j = some name ∧
        (firstFree host path .file count i volume).1 = some name) ∨
      ∀ j name, i ≤ j → j < i + count → numbered path .file j = some name →
        ∃ location inode, host.locate name = some location ∧
          volume.disk.names location = some inode := by
  induction count generalizing i volume with
  | zero =>
      right
      intro j name least bounded
      omega
  | succ count inductionHypothesis =>
      obtain ⟨name, isName⟩ := numbered_file path i
      rw [firstFree]
      simp only [isName]
      cases found : (perform host volume (.stat name)).1 with
      | false => exact .inl ⟨i, name, le_rfl, by omega, isName, by simp⟩
      | true =>
          obtain ⟨location, inode, located, named⟩ := perform_stat_found host volume found
          simp only [if_true]
          rcases inductionHypothesis (i + 1) (perform host volume (.stat name)).2 with
            ⟨j, other, least, bounded, isOther, result⟩ | taken
          · exact .inl ⟨j, other, by omega, by omega, isOther, result⟩
          · right
            intro j other least bounded isOther
            by_cases first : j = i
            · obtain rfl : name = other := by
                rw [first] at isOther
                exact Option.some.inj (isName.symm.trans isOther)
              exact ⟨location, inode, located, named⟩
            · simpa using taken j other (by omega) (by omega) isOther

omit [DecidableEq Location] in
theorem Nameable.of_names
    {disk after : Disk Location}
    {path : String}
    {kind : FileType}
    (nameable : Nameable host disk path kind)
    (names : after.names = disk.names) :
    Nameable host after path kind :=
  ⟨nameable.located, by rw [names]; exact nameable.free⟩

/-- A file that can be named gets a name. -/
theorem getNewFilename_some
    {targetDir : String}
    {file : FileDescription}
    {volume : Volume String Location}
    (kind : file.kind = .file)
    (nameable : Nameable host volume.disk (Path.push .unix targetDir file.name) file.kind) :
    ∃ name location, (getNewFilename host targetDir file volume).1 = some name ∧
      host.locate name = some location := by
  suffices chosen : ∃ name, (getNewFilename host targetDir file volume).1 = some name ∧
      Candidate (Path.push .unix targetDir file.name) file.kind name by
    obtain ⟨name, isName, candidate⟩ := chosen
    obtain ⟨location, located⟩ := nameable.located name candidate
    exact ⟨name, location, isName, located⟩
  unfold getNewFilename getFirstFilename
  dsimp only
  split
  · next found =>
      split
      · rw [kind] at nameable ⊢
        obtain ⟨_, _, located, named⟩ := perform_stat_found host volume found
        rcases firstFree_cases host (Path.push .unix targetDir file.name) 9999998 1
          (perform host (perform host volume (.stat (Path.push .unix targetDir file.name))).2
            (.stat (Path.push .unix targetDir file.name))).2 with
          ⟨j, name, least, bounded, isName, result⟩ | taken
        · exact ⟨name, result, .inr ⟨j, least, bounded, isName⟩⟩
        · -- one of the names is free
          obtain ⟨name, location, rfl | ⟨j, least, bounded, isName⟩, freeLocated, free⟩ :=
            nameable.free
          · obtain rfl := Option.some.inj (located.symm.trans freeLocated)
            simp [free] at named
          · obtain ⟨other, inode, otherLocated, otherNamed⟩ := taken j name least bounded isName
            obtain rfl := Option.some.inj (freeLocated.symm.trans otherLocated)
            simp [free] at otherNamed
      · exact ⟨_, rfl, .inl rfl⟩
  · exact ⟨_, rfl, .inl rfl⟩

/-! ## The end of a file -/

/-- What is dropped is removed. -/
theorem onCancelled_kept
    (obliging : Obliging host)
    (sane : Sane host requests handle target) :
    Kept requests (onCancelled host handle target).2 none := by
  unfold onCancelled
  cases isOpen : handle.progress.fileHandle with
  | none => exact (sane.kept_of_closed isOpen).later (perform_later ..)
  | some writer =>
      obtain ⟨location, located, named⟩ := sane.named writer isOpen
      have flushed := BufWriter.flush_keeps host writer target.volume
      have dropped : (writer.drop host target.volume).disk.names location =
          some writer.handle.inode := by
        rw [BufWriter.drop, flushed.names, named]
      have kept := sane.kept
      rw [isOpen] at kept
      exact (kept.later (flushed.later.trans (perform_later ..))).removed
        (perform_remove_unnames host _ located (obliging.removes ..) dropped)

omit [DecidableEq Location] in
/-- A file that has a name is published. -/
theorem Kept.publish
    {current : Option Nat}
    {task : Nat}
    {listIndex : Int}
    {file : FileDescription}
    {path : String}
    {taken : List Answer}
    {location : Location}
    {inode : Nat}
    (kept : Kept requests target current)
    (located : host.locate path = some location)
    (named : target.volume.disk.names location = some inode)
    (contents : (target.volume.disk.files inode).bytes = bytesOf taken)
    (size : (bytesOf taken).length = file.size)
    (inOrder : InOrder requests task listIndex 0 taken)
    (closes : ∀ open_, current = some open_ → inode = open_) :
    Kept requests (target.publish host task listIndex file path taken) none := by
  have bytes : (target.volume.disk.bytes location).getD [] = bytesOf taken := by
    simp [Disk.bytes, Disk.file, named, contents]
  refine kept.published ⟨?_, ?_, inOrder⟩ ?_
  · simpa only [located, Option.bind_some, bytes] using size
  · simpa only [located, Option.bind_some] using bytes
  · simpa [located, named] using closes

theorem fileAt_nonneg
    {files : List FileDescription}
    {index : Int}
    {file : FileDescription}
    (isFile : fileAt files index = some file) :
    0 ≤ index := by
  unfold fileAt at isFile
  split at isFile
  · simp at isFile
  · omega

/-- A file that has all its bytes gets its final name. -/
theorem onDone_published
    {writer : BufWriter}
    {file : FileDescription}
    (obliging : Obliging host)
    (sane : Sane host requests handle target)
    (isOpen : handle.progress.fileHandle = some writer)
    (collecting : Collecting requests handle target.volume.disk writer file)
    (complete : (bytesOf handle.progress.taken).length = file.size)
    (flushes : (writer.flush host target.volume).1 = true)
    (nameable : Nameable host target.volume.disk (Path.push .unix handle.targetDir file.name)
      file.kind) :
    Kept requests (onDone host handle target).2 none ∧
      (onDone host handle target).1 = handle.advance fun progress =>
        { progress with
          fileHandle := none
          downloadFilePath := ""
          downloadFileIndex := invalidFileIndex } := by
  obtain ⟨pending, writes⟩ := collecting.writes.flush flushes
  have flushed := BufWriter.flush_keeps host writer target.volume
  obtain ⟨location, located, named⟩ := sane.named writer isOpen
  have indexed : handle.progress.listIndex ≠ invalidFileIndex := by
    have nonneg := fileAt_nonneg collecting.isFile
    unfold invalidFileIndex
    omega
  obtain ⟨name, nameLocation, isName, nameLocated⟩ :=
    getNewFilename_some collecting.kind (nameable.of_names flushed.names)
  have before : (getNewFilename host handle.targetDir file
      (writer.flush host target.volume).2.2).2.disk.names location =
        some writer.handle.inode := by
    rw [getNewFilename_disk, flushed.names, named]
  have renames := perform_rename_succeeds host _ located nameLocated (obliging.renames ..) before
  obtain ⟨moved, files⟩ := perform_rename_named host _ located nameLocated before renames
  have kept := sane.kept
  rw [isOpen] at kept
  simp only [onDone, isOpen, collecting.index, if_neg indexed, BufWriter.drop_empty pending,
    collecting.isFile, isName, renames, if_true, advance, and_true]
  refine Kept.publish (kept.later ?_) nameLocated moved ?_ complete collecting.inOrder ?_
  · refine flushed.later.trans ?_
    rw [← getNewFilename_disk host handle.targetDir file]
    exact perform_later ..
  · have contents := writes.contents
    rw [pending, List.append_nil, flushed.inode] at contents
    rw [files, getNewFilename_disk]
    exact contents
  · intro open_ isCurrent
    exact Option.some.inj isCurrent

/-! ## The next file -/

theorem createEmpty_kept
    {i : Int}
    {file : FileDescription}
    (kept : Kept requests target none)
    (empty : file.size = 0) :
    Kept requests (createEmpty host handle i file target) none := by
  have looked : target.volume.disk.Later
      (getNewFilename host handle.targetDir file target.volume).2.disk := by
    rw [getNewFilename_disk]
    exact .refl _
  unfold createEmpty
  dsimp only
  split
  · exact kept.later looked
  · split
    · next created =>
        obtain ⟨location, inode, located, named, bytes⟩ := perform_created host _ created
        exact (kept.later (looked.trans (perform_later ..))).publish located named bytes
          (by simp [bytesOf, empty]) trivial (by simp)
    · exact kept.later (looked.trans (perform_later ..))

theorem createDirectory_kept
    {file : FileDescription}
    (kept : Kept requests target none) :
    Kept requests (createDirectory host handle file target) none := by
  unfold createDirectory
  dsimp only
  split
  · exact kept.later (perform_later ..)
  · exact kept.later ((perform_later ..).trans (perform_later ..))

/-- A task that runs has no open file, and all files are kept. -/
structure Between
    (requests : List Sent)
    (handle : PasteTaskHandle)
    (target : Target Location) : Prop where
  kept : Kept requests target none
  closed : handle.progress.fileHandle = none
  running : handle.progress.error = none ∧ handle.progress.isCanceled = false

omit [DecidableEq Location] in
theorem Between.steady (between : Between requests handle target) :
    Steady host requests handle target :=
  .of_kept between.kept between.closed

/-- The next file is the one of an index that is to be collected from its start. -/
structure Next (handle : PasteTaskHandle) (file : FileDescription) : Prop where
  isFile : fileAt handle.files handle.progress.listIndex = some file
  kind : file.kind = .file
  inRange : handle.progress.listIndex < asI32 handle.files.length
  nonempty : file.size ≠ 0
  offset : handle.progress.offset = 0

theorem createDownload_steady
    {file : FileDescription}
    {path : String}
    (between : Between requests handle target)
    (next : Next handle file) :
    Steady host requests (createDownload host handle file path target).1
      (createDownload host handle file path target).2 := by
  unfold createDownload
  dsimp only
  split
  · next created =>
      obtain ⟨location, inode, located, named, bytes⟩ := perform_created host _ created
      have opened : openedAt host (perform host target.volume (.create path)).2 path true =
          some ⟨inode, 0, true⟩ := by
        simp [openedAt, located, named]
      have kept := between.kept.later (perform_later host target.volume (.create path))
      simp only [opened, Option.map_some, Option.toList_some]
      refine ⟨⟨kept.opened ?_, ?_⟩, ?_, ?_⟩
      · exact (perform host target.volume (.create path)).2.disk.allocated location inode named
      · rintro writer isOpen
        obtain rfl := Option.some.inj isOpen
        exact ⟨location, located, named⟩
      · rintro writer isOpen
        obtain rfl := Option.some.inj isOpen
        exact ⟨file, next.isFile, next.kind, next.inRange, rfl, rfl,
          ⟨rfl, by simp [bytes], by simpa [advance, bytesOf] using bytes⟩, trivial, between.running⟩
      · intro _
        exact ⟨next.offset, by simpa [advance, next.offset] using Nat.pos_of_ne_zero next.nonempty⟩
  · exact .of_kept (between.kept.later (perform_later ..)) between.closed

theorem openNewWriter_steady
    {file : FileDescription}
    (between : Between requests handle target)
    (next : Next handle file) :
    Steady host requests (openNewWriter host handle target).2.1
      (openNewWriter host handle target).2.2 := by
  unfold openNewWriter
  simp only [next.isFile]
  generalize isNamed : getFirstFilename host
    (Path.push .unix handle.targetDir file.name ++ "." ++ downloadExtension) file.kind
      target.volume = named
  have looked : target.volume.disk.Later named.2.disk := by
    rw [← isNamed, getFirstFilename_disk]
    exact .refl _
  split
  · exact .of_kept (between.kept.later looked) between.closed
  · next path _ =>
      split
      · exact .of_kept (between.kept.later looked) between.closed
      · next directory _ =>
          generalize isMade : (if (perform host named.2 (.stat directory)).1 = true then
              perform host named.2 (.stat directory)
            else perform host (perform host named.2 (.stat directory)).2 (.makeParent path)) = made
          have later : target.volume.disk.Later made.2.disk := by
            rw [← isMade]
            split
            · exact looked.trans (perform_later ..)
            · exact (looked.trans (perform_later ..)).trans (perform_later ..)
          split
          · exact createDownload_steady
              ⟨between.kept.later later, between.closed, between.running⟩ next
          · exact .of_kept (between.kept.later later) between.closed

variable (host) in
/-- The loop opens the next file, if there is one. -/
theorem Between.openNext_steady
    (between : Between requests handle target)
    (count : Nat)
    (i : Int)
    (bounded : 0 < count → i + count ≤ asI32 handle.files.length) :
    Steady host requests (openNext host handle count i target).2.1
      (openNext host handle count i target).2.2 := by
  induction count generalizing i target with
  | zero => exact between.steady
  | succ count inductionHypothesis =>
      have more : 0 < count → i + 1 + count ≤ asI32 handle.files.length := by omega
      rw [openNext]
      split
      · exact between.steady
      · next file isFile =>
          split
          · next kind =>
              split
              · next empty =>
                  exact inductionHypothesis ⟨createEmpty_kept between.kept empty,
                    between.closed, between.running⟩ _ more
              · next nonempty =>
                  exact openNewWriter_steady ⟨between.kept, between.closed, between.running⟩
                    ⟨isFile, kind, by simp only [advance]; omega, nonempty, rfl⟩
          · exact inductionHypothesis ⟨createDirectory_kept between.kept, between.closed,
              between.running⟩ _ more
          · exact inductionHypothesis between _ more

omit [DecidableEq Location] in
theorem Steady.settle (steady : Steady host requests handle target) :
    Steady host requests handle.settle target := by
  unfold PasteTaskHandle.settle
  split
  · exact steady
  · next closed => exact .of_kept (steady.kept_of_closed closed) closed

variable (host) in
/-- A task starts with its first file. -/
theorem Between.updateNext_start
    (between : Between requests handle target)
    (atStart : handle.progress.listIndex = -1) :
    Steady host requests (updateNext host 0 handle target).2.1
      (updateNext host 0 handle target).2.2 := by
  have advanced : Between requests (handle.advance fun progress =>
      { progress with currentSize := progress.currentSize + 0 }) target :=
    ⟨between.kept, between.closed, between.running⟩
  have opened := advanced.openNext_steady host
    (asI32 handle.files.length - (handle.progress.listIndex + 1)).toNat
    (handle.progress.listIndex + 1) (by simp only [advance]; omega)
  unfold updateNext
  split
  · exact between.steady
  · simp only [advance, atStart, true_or, if_true]
    simp only [advance, atStart] at opened
    split
    · exact opened
    · exact opened.settle

/-! ## Responses -/

/-- A task goes on when bytes have been taken, with its next file if they were the last ones. -/
theorem updateNext_taken
    {writer : BufWriter}
    {file : FileDescription}
    {size : Nat}
    (obliging : Obliging host)
    (sane : Sane host requests handle target)
    (isOpen : handle.progress.fileHandle = some writer)
    (collecting : Collecting requests handle target.volume.disk writer file)
    (taken : (bytesOf handle.progress.taken).length = handle.progress.offset + size)
    (inside : handle.progress.offset + size ≤ handle.progress.downloadFileSize)
    (ends : handle.progress.downloadFileSize ≤ handle.progress.offset + size →
      (writer.flush host target.volume).1 = true ∧
        Nameable host target.volume.disk (Path.push .unix handle.targetDir file.name) file.kind) :
    Steady host requests (updateNext host size handle target).2.1
      (updateNext host size handle target).2.2 := by
  have started : handle.progress.listIndex ≠ -1 := by
    have nonneg := fileAt_nonneg collecting.isFile
    omega
  have unfinished : ¬handle.isFinished = true := by
    simpa using collecting.unfinished
  generalize isAdvanced : (handle.advance fun progress =>
    { progress with currentSize := progress.currentSize + size }) = advanced
  have saneAdvanced : Sane host requests advanced target := by
    rw [← isAdvanced]
    exact ⟨sane.kept, sane.named⟩
  have collectingAdvanced : Collecting requests advanced target.volume.disk writer file := by
    obtain ⟨isFile, kind, inRange, index, size, writes, inOrder, running⟩ := collecting
    rw [← isAdvanced]
    exact ⟨isFile, kind, inRange, index, size, writes, inOrder, running⟩
  have same : advanced.progress = { handle.progress with currentSize :=
      handle.progress.currentSize + size } ∧ advanced.targetDir = handle.targetDir := by
    rw [← isAdvanced]
    exact ⟨rfl, rfl⟩
  simp only [updateNext, if_neg unfinished, isAdvanced]
  simp only [same, started, false_or, if_false]
  split
  · next complete =>
      obtain ⟨flushes, nameable⟩ := ends complete
      have whole : (bytesOf handle.progress.taken).length = file.size := by
        rw [← collecting.size]
        omega
      obtain ⟨kept, done⟩ := onDone_published obliging saneAdvanced (by simp only [same, isOpen])
        collectingAdvanced (by simpa only [same] using whole) flushes
        (by simpa only [same] using nameable)
      have between : Between requests (onDone host advanced target).1
          (onDone host advanced target).2 :=
        ⟨kept, by rw [done]; rfl, by rw [done]; exact collectingAdvanced.running⟩
      have opened := between.openNext_steady host
        (asI32 advanced.files.length - (handle.progress.listIndex + 1)).toNat
        (handle.progress.listIndex + 1) (by rw [done]; simp only [advance]; omega)
      split
      · exact opened
      · exact opened.settle
  · next incomplete =>
      refine Steady.settle ⟨⟨saneAdvanced.kept, saneAdvanced.named⟩, ?_, ?_⟩
      · intro found isFound
        obtain ⟨isFile, kind, inRange, index, size, writes, inOrder, running⟩ :=
          collectingAdvanced
        simp only [advance, same, isOpen, Option.some.injEq] at isFound
        subst isFound
        exact ⟨file, isFile, kind, inRange, index, size, writes, inOrder, running⟩
      · intro _
        simp only [advance, same]
        omega

variable (host) in
/-- An open file stays at its path while it is written to. -/
theorem Sane.written
    {writer : BufWriter}
    (sane : Sane host requests handle target)
    (isOpen : handle.progress.fileHandle = some writer)
    (data : List UInt8) :
    Sane host requests
      (handle.advance fun progress =>
        { progress with
          fileHandle := some (writer.write host (blockSize * 2) data target.volume).2.1 })
      { target with
        volume := (writer.write host (blockSize * 2) data target.volume).2.2 } := by
  have keeps := BufWriter.write_keeps host (blockSize * 2) writer data target.volume
  obtain ⟨location, located, named⟩ := sane.named writer isOpen
  have kept := sane.kept
  rw [isOpen, Option.map_some, ← keeps.inode] at kept
  refine ⟨kept.later keeps.later, ?_⟩
  rintro found isFound
  obtain rfl := Option.some.inj isFound
  exact ⟨location, located, by rw [keeps.names, named, keeps.inode]⟩

/-- A task after its writer has taken an answer. -/
def wrote
    (host : Host String Location)
    (writer : BufWriter)
    (answer : Answer)
    (handle : PasteTaskHandle)
    (target : Target Location) : After Location :=
  let written := writer.write host (blockSize * 2) answer.data target.volume
  ((handle.advance fun progress => { progress with fileHandle := some written.2.1 }).advance
      fun progress => { progress with taken := progress.taken ++ [answer] },
    { target with volume := written.2.2 })

/-- A task goes on when bytes that fit have been written. -/
theorem updateNext_wrote
    {writer : BufWriter}
    {answer : Answer}
    (obliging : Obliging host)
    (steady : Steady host requests handle target)
    (isOpen : handle.progress.fileHandle = some writer)
    (fits : Fits host requests target handle writer answer)
    (nonempty : answer.data ≠ [])
    (written : (writer.write host (blockSize * 2) answer.data target.volume).1 = true) :
    Steady host requests
      (updateNext host answer.data.length (wrote host writer answer handle target).1
        (wrote host writer answer handle target).2).2.1
      (updateNext host answer.data.length (wrote host writer answer handle target).1
        (wrote host writer answer handle target).2).2.2 := by
  obtain ⟨file, collecting⟩ := steady.collecting writer isOpen
  obtain ⟨offset, _⟩ := steady.offset (by simp [isOpen])
  have keeps := BufWriter.write_keeps host (blockSize * 2) writer answer.data target.volume
  have sane := steady.toSane.written host isOpen answer.data
  have bytes : (bytesOf (handle.progress.taken ++ [answer])).length =
      handle.progress.offset + answer.data.length := by
    rw [bytesOf_concat, List.length_append, offset]
  refine updateNext_taken obliging ⟨sane.kept, sane.named⟩ rfl
    ⟨collecting.isFile, collecting.kind, collecting.inRange, collecting.index, collecting.size, ?_,
      collecting.inOrder.concat ?_, collecting.running⟩ bytes fits.inside ?_
  · simpa only [wrote, advance, bytesOf_concat] using collecting.writes.write written
  · simpa [offset] using fits.asked nonempty
  · intro complete
    exact ⟨fits.flushed complete written,
      (fits.nameable complete file collecting.isFile).of_names keeps.names⟩

/-- A response that fits leaves the task steady, and one that cannot be written leaves its file at
its path. -/
theorem handleFileContentsResponse_sane
    {fileContents : FileContentsResponse}
    {answers : Option Nat}
    (obliging : Obliging host)
    (steady : Steady host requests handle target)
    (fits : ∀ writer, handle.progress.fileHandle = some writer →
      Fits host requests target handle writer ⟨fileContents.requestedData, answers⟩) :
    Sane host requests (handleFileContentsResponse host fileContents answers handle target).2.1
        (handleFileContentsResponse host fileContents answers handle target).2.2 ∧
      ((handleFileContentsResponse host fileContents answers handle target).1 = .ok () →
        Steady host requests
          (handleFileContentsResponse host fileContents answers handle target).2.1
          (handleFileContentsResponse host fileContents answers handle target).2.2) := by
  unfold handleFileContentsResponse
  cases isOpen : handle.progress.fileHandle with
  | none => exact steady.both
  | some writer =>
      obtain ⟨file, collecting⟩ := steady.collecting writer isOpen
      obtain ⟨offset, more⟩ := steady.offset (by simp [isOpen])
      dsimp only
      split
      · exact Steady.both (updateNext_taken obliging steady.toSane isOpen collecting offset.symm
          (by omega) (by omega))
      · next nonempty =>
          split
          · next written =>
              have next :=
                updateNext_wrote obliging steady isOpen (fits writer isOpen) nonempty written
              simp only [wrote] at next
              exact next.both
          · have sane := steady.toSane.written host isOpen fileContents.requestedData
            exact ⟨sane, by simp⟩

/-- A task that fails drops its open file. -/
theorem onError_steady
    (obliging : Obliging host)
    (sane : Sane host requests handle target)
    (error : CliprdrError) :
    Steady host requests (onError host error handle target).1
      (onError host error handle target).2 :=
  .of_kept (onCancelled_kept obliging ⟨sane.kept, sane.named⟩) rfl

theorem accept_steady
    {fileContents : FileContentsResponse}
    {answers : Option Nat}
    (obliging : Obliging host)
    (steady : Steady host requests handle target)
    (fits : ∀ writer, handle.progress.fileHandle = some writer →
      Fits host requests target handle writer ⟨fileContents.requestedData, answers⟩) :
    Steady host requests (accept host fileContents answers handle target).1
      (accept host fileContents answers handle target).2 := by
  obtain ⟨sane, steadies⟩ := handleFileContentsResponse_sane obliging steady fits
  unfold accept
  dsimp only
  split
  · next handled => exact steadies handled
  · exact onError_steady obliging sane _

/-! ## Runs -/

/-- A task that is finished has no open file any more. -/
theorem onFinished_steady
    (obliging : Obliging host)
    (sane : Sane host requests handle target)
    (steadies : handle.progress.error = none → Steady host requests handle target)
    (finished : handle.isFinished = true) :
    Steady host requests (onFinished host handle target).1 (onFinished host handle target).2 := by
  have ended : Kept requests (if handle.progress.error.isSome then onCancelled host handle target
        else onDone host handle target).2 none ∧
      (if handle.progress.error.isSome then onCancelled host handle target
        else onDone host handle target).1.progress.fileHandle = none := by
    split
    · exact ⟨onCancelled_kept obliging sane, rfl⟩
    · next noError =>
        have steady := steadies (by simpa using noError)
        have closed := steady.closed finished
        simp only [onDone, closed]
        exact ⟨steady.kept_of_closed closed, trivial⟩
  unfold onFinished
  dsimp only
  generalize (if handle.progress.error.isSome then onCancelled host handle target
    else onDone host handle target) = after at ended ⊢
  split
  · exact .of_kept ended.1 ended.2
  · exact .of_kept ended.1 ended.2

omit [DecidableEq Location] in
theorem Good.of_steady
    {state : PasteTask Location}
    (steady : Steady host state.requests handle state.target)
    (isHandle : state.handle = some handle) :
    Good host state := by
  refine ⟨by simp [isHandle], ?_⟩
  intro found isFound
  obtain rfl := Option.some.inj (isHandle.symm.trans isFound)
  exact steady

theorem sendFileContentsRequest_good
    {now : Nat}
    {state : PasteTask Location}
    {after : After Location}
    (obliging : Obliging host)
    (steady : Steady host state.requests after.1 after.2) :
    Good host (sendFileContentsRequest host now state after) := by
  unfold sendFileContentsRequest
  split
  · exact .of_steady (onError_steady obliging steady.toSane _) rfl
  · exact .of_steady steady rfl
  · next sent _ =>
      have sends := steady.mono [sent]
      refine .of_steady ?_ rfl
      refine ⟨⟨sends.kept, sends.named⟩, ?_, sends.offset⟩
      intro writer isOpen
      obtain ⟨file, isFile, kind, inRange, index, size, writes, inOrder, running⟩ :=
        sends.collecting writer isOpen
      exact ⟨file, isFile, kind, inRange, index, size, writes, inOrder, running⟩

theorem proceed_good
    {now : Nat}
    {state : PasteTask Location}
    {after : After Location}
    (obliging : Obliging host)
    (sane : Sane host state.requests after.1 after.2)
    (steadies : after.1.progress.error = none → Steady host state.requests after.1 after.2) :
    Good host (proceed host now state after) := by
  unfold proceed
  split
  · next finished =>
      exact .of_steady (onFinished_steady obliging sane steadies finished) rfl
  · next unfinished =>
      refine sendFileContentsRequest_good obliging (steadies ?_)
      simp only [isFinished, Bool.or_eq_true, not_or] at unfinished
      simpa using unfinished.1.2

theorem Good.start
    {state : PasteTask Location}
    (obliging : Obliging host)
    (good : Good host state)
    (targetDir : String)
    (files : List FileDescription)
    (now : Nat) :
    Good host (state.start host targetDir files now) := by
  unfold PasteTask.start
  split
  · exact good
  · next free =>
      have kept : Kept state.requests state.target none := by
        cases isHandle : state.handle with
        | none => exact good.idle isHandle
        | some handle =>
            have steady := good.steady handle isHandle
            exact steady.kept_of_closed (steady.closed (by simpa [isHandle] using free))
      have fresh : Between state.requests (freshHandle state.tasks targetDir files now)
          state.target :=
        ⟨kept, rfl, rfl, rfl⟩
      have begun := fresh.updateNext_start host rfl
      have proceeds : Good host (proceed host now { state with tasks := state.tasks + 1 }
          (updateNext host 0 (freshHandle state.tasks targetDir files now) state.target).2) :=
        proceed_good obliging begun.toSane fun _ => begun
      exact ⟨proceeds.idle, proceeds.steady⟩

theorem Good.cancel
    {state : PasteTask Location}
    (obliging : Obliging host)
    (good : Good host state) :
    Good host (state.cancel host) := by
  unfold PasteTask.cancel
  split
  · exact good
  · next handle isHandle =>
      have steady := good.steady handle isHandle
      exact .of_steady
        (.of_kept (onCancelled_kept obliging ⟨steady.kept, steady.named⟩) rfl) rfl

theorem Good.response
    {state : PasteTask Location}
    (obliging : Obliging host)
    (good : Good host state)
    {fileContents : FileContentsResponse}
    {answers : Option Nat}
    {now : Nat}
    (fair : Fair host state (.response fileContents answers now)) :
    Good host (state.response host fileContents answers now) := by
  unfold PasteTask.response
  split
  · exact good
  · next handle isHandle =>
      have steady := good.steady handle isHandle
      split
      · exact good
      · split
        · unfold retry
          dsimp only
          split
          · exact proceed_good obliging ⟨steady.kept, steady.named⟩ (by simp [advance])
          · exact proceed_good obliging steady.toSane fun _ => steady
        · split
          · next accepted =>
              have accepts := accept_steady obliging steady
                fun writer isOpen => fair handle writer isHandle accepted isOpen
              exact proceed_good obliging accepts.toSane fun _ => accepts
          · exact good

theorem Good.timeout
    {state : PasteTask Location}
    (obliging : Obliging host)
    (good : Good host state)
    (now : Nat) :
    Good host (state.timeout host now) := by
  unfold PasteTask.timeout
  split
  · exact good
  · next handle isHandle =>
      have steady := good.steady handle isHandle
      split
      · exact .of_steady (onFinished_steady obliging ⟨steady.kept, steady.named⟩
          (by simp [advance]) (by simp [isFinished, advance])) rfl
      · exact good

theorem Good.step
    {state : PasteTask Location}
    (obliging : Obliging host)
    (good : Good host state)
    {event : Event}
    (fair : Fair host state event) :
    Good host (Paste.step host state event) := by
  cases event with
  | start targetDir files now => exact good.start obliging targetDir files now
  | cancel => exact good.cancel obliging
  | response fileContents answers now => exact good.response obliging fair
  | timeout now => exact good.timeout obliging now

/-- Whatever order starts, cancellations, timeouts and responses come in: while the responses that
are taken fit, every pasted file is whole or absent. -/
theorem pasted_sound
    (host : Host String Location)
    (obliging : Obliging host)
    (volume : Volume String Location)
    (events : List Event)
    (fair : Along (step host) (Fair host) (PasteTask.new volume) events)
    (before : List Event)
    (isPrefix : before <+: events) :
    Sound (run (step host) (PasteTask.new volume) before) := by
  refine (run_invariant (Good host) (fun _ _ good fair => good.step obliging fair) ?_
    (fair.restrict isPrefix)).sound
  exact ⟨fun _ => ⟨by simp [PasteTask.new], by simp [PasteTask.new], by simp [PasteTask.new]⟩,
    by simp [PasteTask.new]⟩

/-- A system that refuses nothing and where every path is its own location. -/
def permissive : Host String String where
  locate := some
  allows := fun _ _ => true
  clock := fun _ => 0

/-- A file of two bytes is asked for, and the peer answers. -/
theorem pasted_sound_twoBytes :
    Sound (run (step permissive) (PasteTask.new ⟨Disk.empty, []⟩)
      [.start "/t" [⟨1, "a.txt", .file, 2⟩] 0, .response ⟨1, 1, 0, [5, 7]⟩ (some 0) 1]) := by
  refine pasted_sound permissive ⟨fun _ _ _ => rfl, fun _ _ => rfl⟩ _
    [.start "/t" [⟨1, "a.txt", .file, 2⟩] 0, .response ⟨1, 1, 0, [5, 7]⟩ (some 0) 1]
    ⟨trivial, ?_, trivial⟩ _ (List.prefix_refl _)
  intro handle writer isHandle accepted isOpen
  have opened : (step permissive (PasteTask.new ⟨Disk.empty, []⟩)
      (.start "/t" [⟨1, "a.txt", .file, 2⟩] 0)).handle = some
        { task := 0
          progress :=
            { listIndex := 0
              offset := 0
              totalSize := 2
              currentSize := 0
              lastSentTime := 0
              downloadFileIndex := 0
              downloadFileSize := 2
              downloadFilePath := "/t/a.txt.rddownload"
              downloadFileCurrentSize := 0
              fileHandle := some { handle := ⟨0, 0, true⟩ }
              error := none
              isCanceled := false
              taken := [] }
          targetDir := "/t"
          files := [⟨1, "a.txt", .file, 2⟩] } := by
    decide
  obtain rfl := Option.some.inj (opened.symm.trans isHandle)
  obtain rfl := Option.some.inj isOpen
  refine ⟨fun _ => ?_, by decide, by decide, ?_⟩
  · have sent : (step permissive (PasteTask.new ⟨Disk.empty, []⟩)
        (.start "/t" [⟨1, "a.txt", .file, 2⟩] 0)).requests =
          [⟨0, 1, 0, ⟨0, 0, 2, 0, 0, 2, false, 0⟩⟩] := by
      decide
    rw [sent]
    exact ⟨0, _, rfl, rfl, rfl, rfl, rfl⟩
  · rintro _ file isFile
    obtain rfl := Option.some.inj isFile
    exact ⟨fun name _ => ⟨name, rfl⟩, "/t/a.txt", "/t/a.txt", .inl (by decide), rfl, by decide⟩

/-- The peer answers with more than was asked for; and a late answer to a request of an earlier
task is taken for the file with the same index. -/
theorem longer_and_late_published :
    ¬Sound (run (step permissive) (PasteTask.new ⟨Disk.empty, []⟩)
        [.start "/t" [⟨1, "a.txt", .file, 2⟩] 0, .response ⟨1, 1, 0, [5, 7, 9]⟩ (some 0) 1]) ∧
      ¬Sound (run (step permissive) (PasteTask.new ⟨Disk.empty, []⟩)
        [.start "/t" [⟨1, "b.txt", .file, 2⟩] 0, .cancel, .start "/t" [⟨1, "a.txt", .file, 2⟩] 1,
          .response ⟨1, 1, 0, [5, 7]⟩ (some 0) 2]) := by
  constructor
  · intro sound
    have sizes : ∀ publication ∈ (run (step permissive) (PasteTask.new ⟨Disk.empty, []⟩)
        [.start "/t" [⟨1, "a.txt", .file, 2⟩] 0,
          .response ⟨1, 1, 0, [5, 7, 9]⟩ (some 0) 1]).target.published,
        publication.bytes.length = publication.file.size :=
      fun publication member => (sound.whole publication member).size
    revert sizes
    decide
  · rintro ⟨whole, _⟩
    have late : (run (step permissive) (PasteTask.new ⟨Disk.empty, []⟩)
        [.start "/t" [⟨1, "b.txt", .file, 2⟩] 0, .cancel, .start "/t" [⟨1, "a.txt", .file, 2⟩] 1,
          .response ⟨1, 1, 0, [5, 7]⟩ (some 0) 2]).target.published =
        [⟨1, 0, ⟨1, "a.txt", .file, 2⟩, "/t/a.txt", 1, [5, 7], [⟨[5, 7], some 0⟩]⟩] := by
      decide
    have tasks : ((run (step permissive) (PasteTask.new ⟨Disk.empty, []⟩)
        [.start "/t" [⟨1, "b.txt", .file, 2⟩] 0, .cancel, .start "/t" [⟨1, "a.txt", .file, 2⟩] 1,
          .response ⟨1, 1, 0, [5, 7]⟩ (some 0) 2]).requests.map Sent.task)[0]? = some 0 := by
      decide
    rw [late] at whole
    obtain ⟨⟨number, sent, isNumber, isSent, sameTask, _⟩, _⟩ :=
      (whole _ (List.mem_singleton_self _)).inOrder
    obtain rfl := Option.some.inj isNumber
    rw [List.getElem?_map, isSent, Option.map_some, sameTask] at tasks
    simp at tasks

end Paste
end Clipboard
end OneDesk
