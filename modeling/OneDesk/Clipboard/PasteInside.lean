import OneDesk.Clipboard.PasteNames

/-!
# What a paste task touches

A task joins the names that the peer has sent to its target directory, and does not check where
they lead.  As long as they lead below the directory, everything that the task makes, writes,
renames or removes is there too, and the files that were on the disk before stay as they were.
-/

namespace OneDesk
namespace Clipboard
namespace Paste

open Lib Lib.Path PasteTaskHandle

/-- What an operation makes, writes, renames or removes lies under a directory. -/
def Stays (base : Resolved) (downloads : List Download) : Operation String → Prop
  | .remove path | .create path | .save path _ | .openWrite path | .setModified path _ =>
      base.Under (resolve .unix path)
  -- what is missing on the way to the path is made
  | .makeParent path => base.Under (resolve .unix path)
  | .rename source target =>
      base.Under (resolve .unix source) ∧ base.Under (resolve .unix target)
  -- a write goes to a file that was opened under its path
  | .write handle _ => ∃ download ∈ downloads,
      download.inode = handle.inode ∧ base.Under (resolve .unix download.path)
  | .stat _ | .openRead _ | .read _ | .sync _ => True

variable {Location : Type} [DecidableEq Location]

/-- Since a disk was as it once was, nothing outside a directory was touched, and every file that
was there is the same. -/
structure Confined
    (base : Resolved)
    (begun : Volume String Location)
    (downloads : List Download)
    (volume : Volume String Location) : Prop where
  kept : ∀ location, begun.disk.names location ≠ none → SameAt begun volume location
  stays : ∃ more, volume.log = begun.log ++ more ∧
    ∀ operation, (operation, true) ∈ more → Stays base downloads operation

/-- A system that lets a program look at every path, and where the empty path is no file. -/
structure Truthful (host : Host String Location) : Prop where
  sees : ∀ history path, host.allows history (.stat path) = true
  nameless : host.locate "" = none

/-- A name that leads where it should: below the target directory, or for a directory at least to
it.  Links are not pasted. -/
def LeadsInside (targetDir : String) (file : FileDescription) : Prop :=
  let path := resolve .unix (push .unix targetDir file.name)
  match file.kind with
  | .file => (resolve .unix targetDir).Below path
  | .directory => (resolve .unix targetDir).Under path
  | .symlink => True

/-- A path below the directory where no file was. -/
structure Own
    (host : Host String Location)
    (base : Resolved)
    (begun : Volume String Location)
    (path : String) : Prop where
  below : base.Below (resolve .unix path)
  fresh : ∀ location, host.locate path = some location → begun.disk.names location = none

/-- A file that was not there before, and was opened under a path below the directory. -/
structure Opened
    (base : Resolved)
    (begun : Volume String Location)
    (downloads : List Download)
    (inode : Nat) : Prop where
  fresh : ∀ location, begun.disk.names location ≠ some inode
  download : ∃ download ∈ downloads,
    download.inode = inode ∧ base.Under (resolve .unix download.path)

variable {host : Host String Location} {base : Resolved} {begun volume : Volume String Location}
variable {downloads : List Download}

/-! ## Single operations -/

variable (host volume) in
/-- An operation that takes effect is about files that can be. -/
theorem perform_located
    {operation : Operation String}
    {path : String}
    (succeeds : (perform host volume operation).1 = true)
    (member : path ∈ operation.files) :
    ∃ location, host.locate path = some location := by
  rcases perform_cases host volume operation with ⟨fails, -⟩ | ⟨-, applies⟩
  · rw [fails] at succeeds
    cases succeeds
  · exact Operation.apply_located applies member

namespace Confined

omit [DecidableEq Location] in
theorem refl (begun : Volume String Location) (downloads : List Download) :
    Confined base begun downloads begun :=
  ⟨fun _ _ => ⟨rfl, rfl⟩, [], by simp, by simp⟩

omit [DecidableEq Location] in
/-- More downloads do no harm. -/
theorem mono
    {more : List Download}
    (confined : Confined base begun downloads volume)
    (kept : ∀ download ∈ downloads, download ∈ more) :
    Confined base begun more volume := by
  obtain ⟨done, log, inside⟩ := confined.stays
  refine ⟨confined.kept, done, log, fun operation member => ?_⟩
  have stays := inside operation member
  cases operation with
  | write handle data =>
      obtain ⟨download, isDownload, same, under⟩ := stays
      exact ⟨download, kept download isDownload, same, under⟩
  | _ => exact stays

/-- An operation under the directory that reaches none of the earlier files. -/
theorem perform
    {operation : Operation String}
    (confined : Confined base begun downloads volume)
    (stays : (perform host volume operation).1 = true → Stays base downloads operation)
    (spares : ∀ location, begun.disk.names location ≠ none →
      ¬operation.Reaches host volume.disk location) :
    Confined base begun downloads (Lib.perform host volume operation).2 := by
  obtain ⟨more, log, inside⟩ := confined.stays
  refine ⟨fun location named => (confined.kept location named).trans
    (perform_frame host volume (spares location named)),
    more ++ [(operation, (Lib.perform host volume operation).1)], ?_, ?_⟩
  · rw [perform_log, log, List.append_assoc]
  · intro performed member
    rcases List.mem_append.mp member with earlier | now
    · exact inside performed earlier
    · obtain ⟨rfl, succeeds⟩ := Prod.mk.inj (List.mem_singleton.mp now)
      exact stays succeeds.symm

theorem stat
    (confined : Confined base begun downloads volume)
    (path : String) :
    Confined base begun downloads (Lib.perform host volume (.stat path)).2 :=
  confined.perform (fun _ => trivial) fun _ _ => id

theorem makeParent
    {path : String}
    (confined : Confined base begun downloads volume)
    (under : base.Under (resolve .unix path)) :
    Confined base begun downloads (Lib.perform host volume (.makeParent path)).2 :=
  confined.perform (fun _ => under) fun _ _ => id

theorem create
    {path : String}
    (confined : Confined base begun downloads volume)
    (own : Own host base begun path) :
    Confined base begun downloads (Lib.perform host volume (.create path)).2 :=
  confined.perform (fun _ => own.below.1) fun location named located =>
    named (own.fresh location located)

/-- A path where nothing is seen is the task's own. -/
theorem own
    {path : String}
    (confined : Confined base begun downloads volume)
    (truthful : Truthful host)
    (below : base.Below (resolve .unix path))
    (absent : (Lib.perform host volume (.stat path)).1 = false) :
    Own host base begun path := by
  refine ⟨below, fun location located => ?_⟩
  by_contra named
  obtain ⟨inode, isNamed⟩ := Option.ne_none_iff_exists'.mp named
  have still : volume.disk.names location = some inode := by
    rw [(confined.kept location named).names, isNamed]
  have seen := perform_of_apply host volume (truthful.sees volume.log path)
    (show Operation.apply host volume.log volume.disk (.stat path) = some volume.disk by
      simp [Operation.apply, located, still])
  rw [seen] at absent
  cases absent

/-- The path that a task remembers is removed, if there is one. -/
theorem remove
    {path : String}
    (confined : Confined base begun downloads volume)
    (remembered : ∀ location, host.locate path = some location → Own host base begun path) :
    Confined base begun downloads (Lib.perform host volume (.remove path)).2 := by
  refine confined.perform (fun succeeds => ?_) fun location named located =>
    named ((remembered location located).fresh location located)
  obtain ⟨location, located⟩ := perform_located host volume succeeds (List.mem_singleton_self path)
  exact (remembered location located).below.1

/-- The path that a task remembers is renamed, if there is one. -/
theorem rename
    {source target : String}
    (confined : Confined base begun downloads volume)
    (remembered : ∀ location, host.locate source = some location → Own host base begun source)
    (own : Own host base begun target) :
    Confined base begun downloads (Lib.perform host volume (.rename source target)).2 := by
  refine confined.perform (fun succeeds => ?_) fun location named located => ?_
  · obtain ⟨location, located⟩ := perform_located host volume succeeds (List.mem_cons_self ..)
    exact ⟨(remembered location located).below.1, own.below.1⟩
  · rcases located with located | located
    · exact named ((remembered location located).fresh location located)
    · exact named (own.fresh location located)

variable (host) in
/-- Writing to an opened file. -/
theorem preserves
    {inode : Nat}
    (opened : Opened base begun downloads inode) :
    BufWriter.Preserves host (Confined base begun downloads) inode := by
  rintro volume handle data rfl confined
  refine confined.perform (fun _ => opened.download) fun location named reached => ?_
  obtain ⟨inode, isNamed⟩ := Option.ne_none_iff_exists'.mp named
  refine opened.fresh location ?_
  rw [← (confined.kept location named).names]
  exact reached

end Confined

/-! ## Names -/

/-- A search for a free name has only looked, and what it has found is the task's own. -/
structure Chosen
    (host : Host String Location)
    (base : Resolved)
    (begun : Volume String Location)
    (downloads : List Download)
    (found : Option String × Volume String Location) : Prop where
  confined : Confined base begun downloads found.2
  own : ∀ path, found.1 = some path → Own host base begun path

theorem Confined.firstFree
    {path : String}
    (confined : Confined base begun downloads volume)
    (truthful : Truthful host)
    (below : base.Below (resolve .unix path))
    (kind : FileType)
    (count i : Nat) :
    Chosen host base begun downloads (firstFree host path kind count i volume) := by
  induction count generalizing i volume with
  | zero => exact ⟨confined, fun _ found => (by cases found)⟩
  | succ count inductionHypothesis =>
      rw [Paste.firstFree]
      split
      · exact ⟨confined, fun _ found => (by cases found)⟩
      · next newPath isName =>
          dsimp only
          split
          · exact inductionHypothesis (confined.stat newPath) (i + 1)
          · next absent =>
              refine ⟨confined.stat newPath, fun chosen found => ?_⟩
              obtain rfl := Option.some.inj found
              exact confined.own truthful (numbered_below below isName) (by simpa using absent)

theorem Confined.getFirstFilename
    {path : String}
    (confined : Confined base begun downloads volume)
    (truthful : Truthful host)
    (below : base.Below (resolve .unix path))
    (kind : FileType) :
    Chosen host base begun downloads (getFirstFilename host path kind volume) := by
  unfold Paste.getFirstFilename
  dsimp only
  split
  · exact (confined.stat path).firstFree truthful below kind 9999998 1
  · next absent =>
      refine ⟨confined.stat path, fun chosen found => ?_⟩
      obtain rfl := Option.some.inj found
      exact confined.own truthful below (by simpa using absent)

theorem Confined.getNewFilename
    {targetDir : String}
    {file : FileDescription}
    (confined : Confined base begun downloads volume)
    (truthful : Truthful host)
    (below : base.Below (resolve .unix (push .unix targetDir file.name))) :
    Chosen host base begun downloads (getNewFilename host targetDir file volume) := by
  unfold Paste.getNewFilename
  dsimp only
  split
  · exact (confined.stat _).getFirstFilename truthful below file.kind
  · next absent =>
      refine ⟨confined.stat _, fun chosen found => ?_⟩
      obtain rfl := Option.some.inj found
      exact confined.own truthful below (by simpa using absent)

/-! ## A task -/

/-- By what a task gets at the disk. -/
def PasteTaskHandle.means (handle : PasteTaskHandle) :
    String × Option BufWriter × Int × String × List FileDescription :=
  (handle.progress.downloadFilePath, handle.progress.fileHandle,
    handle.progress.downloadFileIndex, handle.targetDir, handle.files)

/-- The disk is confined, and the task remembers a path and a file of its own. -/
structure Inside
    (host : Host String Location)
    (base : Resolved)
    (begun : Volume String Location)
    (handle : PasteTaskHandle)
    (target : Target Location) : Prop where
  confined : Confined base begun target.downloads target.volume
  remembered : ∀ location, host.locate handle.progress.downloadFilePath = some location →
    Own host base begun handle.progress.downloadFilePath
  opened : ∀ writer, handle.progress.fileHandle = some writer →
    Opened base begun target.downloads writer.handle.inode
  kind : ∀ file, fileAt handle.files handle.progress.downloadFileIndex = some file →
    file.kind = .file
  base : base = resolve .unix handle.targetDir
  leads : ∀ file ∈ handle.files, LeadsInside handle.targetDir file

variable {handle : PasteTaskHandle} {target : Target Location}

theorem fileAt_mem
    {files : List FileDescription}
    {index : Int}
    {file : FileDescription}
    (isFile : fileAt files index = some file) :
    file ∈ files := by
  unfold fileAt at isFile
  split at isFile
  · cases isFile
  · exact List.mem_of_getElem? isFile

namespace Inside

omit [DecidableEq Location]

/-- Progress in other things than those by which a task gets at the disk. -/
theorem progress
    {other : PasteTaskHandle}
    (inside : Inside host base begun handle target)
    (same : other.means = handle.means) :
    Inside host base begun other target := by
  simp only [PasteTaskHandle.means, Prod.mk.injEq] at same
  obtain ⟨path, writer, index, targetDir, files⟩ := same
  refine ⟨inside.confined, ?_, ?_, ?_, ?_, ?_⟩
  · rw [path]
    exact inside.remembered
  · rw [writer]
    exact inside.opened
  · rw [index, files]
    exact inside.kind
  · rw [targetDir]
    exact inside.base
  · rw [targetDir, files]
    exact inside.leads

/-- The same task on another disk. -/
theorem onVolume
    (inside : Inside host base begun handle target)
    (confined : Confined base begun target.downloads volume) :
    Inside host base begun handle { target with volume := volume } :=
  ⟨confined, inside.remembered, inside.opened, inside.kind, inside.base, inside.leads⟩

/-- A file that is published is recorded, which changes no disk. -/
theorem publish
    {task : Nat}
    {listIndex : Int}
    {file : FileDescription}
    {path : String}
    {taken : List Answer}
    (inside : Inside host base begun handle target) :
    Inside host base begun handle (target.publish host task listIndex file path taken) :=
  ⟨inside.confined, inside.remembered, inside.opened, inside.kind, inside.base, inside.leads⟩

/-- The open file is closed. -/
theorem close
    (inside : Inside host base begun handle target) :
    Inside host base begun
      (handle.advance fun progress => { progress with fileHandle := none }) target :=
  ⟨inside.confined, inside.remembered, fun _ isOpen => (by cases isOpen), inside.kind, inside.base,
    inside.leads⟩

/-- A task that remembers no path. -/
theorem forget
    (inside : Inside host base begun handle target)
    (nameless : host.locate "" = none) :
    Inside host base begun
      (handle.advance fun progress =>
        { progress with downloadFilePath := "", downloadFileIndex := invalidFileIndex })
      target := by
  refine ⟨inside.confined, ?_, inside.opened, ?_, inside.base, inside.leads⟩
  · intro location located
    exact absurd (nameless.symm.trans located) (by simp)
  · intro file isFile
    cases isFile

/-- A file of the list that is to be pasted as one leads below the directory. -/
theorem below
    {file : FileDescription}
    (inside : Inside host base begun handle target)
    (member : file ∈ handle.files)
    (kind : file.kind = .file) :
    base.Below (resolve .unix (push .unix handle.targetDir file.name)) := by
  have leads := inside.leads file member
  rw [LeadsInside, kind, ← inside.base] at leads
  exact leads

end Inside

/-- What a cancelled task removes is its own. -/
theorem Inside.onCancelled
    (inside : Inside host base begun handle target) :
    Inside host base begun (onCancelled host handle target).1
      (onCancelled host handle target).2 := by
  refine (inside.onVolume (Confined.remove ?_ inside.remembered)).close
  cases isOpen : handle.progress.fileHandle with
  | none => exact inside.confined
  | some writer =>
      exact (Confined.preserves host (inside.opened writer isOpen)).flush inside.confined

theorem Inside.onError
    (error : CliprdrError)
    (inside : Inside host base begun handle target) :
    Inside host base begun (onError host error handle target).1
      (onError host error handle target).2 := by
  have failed : Inside host base begun
      (handle.advance fun progress => { progress with error := some error }) target :=
    inside.progress rfl
  exact failed.onCancelled

/-- A finished file gets a name of its own. -/
theorem Inside.onDone
    (inside : Inside host base begun handle target)
    (truthful : Truthful host) :
    Inside host base begun (onDone host handle target).1 (onDone host handle target).2 := by
  unfold PasteTaskHandle.onDone
  cases isOpen : handle.progress.fileHandle with
  | none => exact inside
  | some writer =>
      dsimp only
      split
      · exact inside
      · have preserves := Confined.preserves host (inside.opened writer isOpen)
        have flushed := (BufWriter.flush_keeps host writer target.volume).inode
        have dropped := (flushed.symm ▸ preserves).flush (preserves.flush inside.confined)
        have closed := (inside.onVolume dropped).close
        split
        · exact closed
        · next file isFile =>
            have chosen := dropped.getNewFilename truthful
              (inside.below (fileAt_mem isFile) (inside.kind file isFile))
            split
            · exact closed.onVolume chosen.confined
            · next path isPath =>
                have renamed := (closed.onVolume (chosen.confined.rename inside.remembered
                  (chosen.own path isPath))).forget truthful.nameless
                dsimp only
                split
                · exact renamed.publish
                · exact renamed

theorem Inside.onFinished
    (inside : Inside host base begun handle target)
    (truthful : Truthful host) :
    Inside host base begun (onFinished host handle target).1
      (onFinished host handle target).2 := by
  unfold PasteTaskHandle.onFinished
  dsimp only
  generalize isEnded : (if handle.progress.error.isSome then
      PasteTaskHandle.onCancelled host handle target
    else PasteTaskHandle.onDone host handle target) = ended
  have endedInside : Inside host base begun ended.1 ended.2 := by
    rw [← isEnded]
    split
    · exact inside.onCancelled
    · exact inside.onDone truthful
  split
  · exact endedInside.progress rfl
  · exact endedInside

/-! ## The next file -/

omit [DecidableEq Location] in
/-- A file that was created where nothing was is new. -/
theorem Opened.of_created
    {path : String}
    {location : Location}
    {inode : Nat}
    (confined : Confined base begun downloads volume)
    (own : Own host base begun path)
    (located : host.locate path = some location)
    (named : volume.disk.names location = some inode) :
    Opened base begun (downloads ++ [⟨path, inode⟩]) inode := by
  refine ⟨fun other isNamed => ?_, ⟨path, inode⟩, by simp, rfl, own.below.1⟩
  have present : begun.disk.names other ≠ none := by simp [isNamed]
  have still : volume.disk.names other = some inode := by
    rw [(confined.kept other present).names, isNamed]
  obtain rfl := volume.disk.single other location inode still named
  rw [own.fresh other located] at isNamed
  cases isNamed

theorem Inside.createDownload
    {file : FileDescription}
    {path : String}
    (inside : Inside host base begun handle target)
    (own : Own host base begun path)
    (kind : ∀ file, fileAt handle.files handle.progress.listIndex = some file →
      file.kind = .file) :
    Inside host base begun (createDownload host handle file path target).1
      (createDownload host handle file path target).2 := by
  have confined := inside.confined.create own
  unfold PasteTaskHandle.createDownload
  dsimp only
  split
  · next created =>
      obtain ⟨location, inode, located, named, -⟩ := perform_created host _ created
      have opened : openedAt host (perform host target.volume (.create path)).2 path true =
          some ⟨inode, 0, true⟩ := by
        simp [openedAt, located, named]
      simp only [opened, Option.map_some, Option.toList_some]
      refine ⟨confined.mono fun _ => List.mem_append_left _, fun _ _ => own, ?_, kind,
        inside.base, inside.leads⟩
      intro writer isOpen
      obtain rfl := Option.some.inj isOpen
      exact .of_created confined own located named
  · exact (inside.onVolume confined).progress rfl

/-- The parent of a path below the directory lies under it; what is made there is too. -/
theorem Inside.openNewWriter
    (inside : Inside host base begun handle target)
    (truthful : Truthful host)
    (kind : ∀ file, fileAt handle.files handle.progress.listIndex = some file →
      file.kind = .file) :
    Inside host base begun (openNewWriter host handle target).2.1
      (openNewWriter host handle target).2.2 := by
  unfold PasteTaskHandle.openNewWriter
  split
  · exact inside
  · next file isFile =>
      have below := inside.below (fileAt_mem isFile) (kind file isFile)
      have extended : base.Below (resolve .unix
          (push .unix handle.targetDir file.name ++ "." ++ downloadExtension)) := by
        rw [String.append_assoc]
        exact below.append (by decide) (by decide)
      have chosen := inside.confined.getFirstFilename truthful extended file.kind
      dsimp only
      split
      · exact inside.onVolume chosen.confined
      · next path isPath =>
          have own := chosen.own path isPath
          split
          · exact inside.onVolume chosen.confined
          · next directory _ =>
              generalize isMade : (if (perform host (getFirstFilename host
                (push .unix handle.targetDir file.name ++ "." ++ downloadExtension) file.kind
                target.volume).2 (.stat directory)).1 = true then _ else _) = made
              have madeConfined : Confined base begun target.downloads made.2 := by
                rw [← isMade]
                split
                · exact chosen.confined.stat directory
                · exact (chosen.confined.stat directory).makeParent own.below.1
              split
              · exact (inside.onVolume madeConfined).createDownload own kind
              · exact inside.onVolume madeConfined

theorem Inside.createEmpty
    {i : Int}
    {file : FileDescription}
    (inside : Inside host base begun handle target)
    (truthful : Truthful host)
    (member : file ∈ handle.files)
    (kind : file.kind = .file) :
    Inside host base begun handle (createEmpty host handle i file target) := by
  have chosen := inside.confined.getNewFilename truthful (inside.below member kind)
  unfold PasteTaskHandle.createEmpty
  dsimp only
  split
  · exact inside.onVolume chosen.confined
  · next path isPath =>
      have created := inside.onVolume (chosen.confined.create (chosen.own path isPath))
      split
      · exact created.publish
      · exact created

theorem Inside.createDirectory
    {file : FileDescription}
    (inside : Inside host base begun handle target)
    (member : file ∈ handle.files)
    (kind : file.kind = .directory) :
    Inside host base begun handle (createDirectory host handle file target) := by
  have leads := inside.leads file member
  rw [LeadsInside, kind, ← inside.base] at leads
  unfold PasteTaskHandle.createDirectory
  refine inside.onVolume ?_
  split
  · exact inside.confined.stat _
  · exact (inside.confined.stat _).makeParent leads

/-- Every entry takes its own way, and all of them stay inside. -/
theorem Inside.openNext
    (inside : Inside host base begun handle target)
    (truthful : Truthful host)
    (count : Nat)
    (i : Int) :
    Inside host base begun (openNext host handle count i target).2.1
      (openNext host handle count i target).2.2 := by
  induction count generalizing i target with
  | zero => exact inside
  | succ count inductionHypothesis =>
      rw [PasteTaskHandle.openNext]
      split
      · exact inside
      · next file isFile =>
          have member := fileAt_mem isFile
          split
          · next kind =>
              split
              · exact inductionHypothesis (inside.createEmpty truthful member kind) (i + 1)
              · have moved : Inside host base begun
                    (handle.advance fun progress =>
                      { progress with listIndex := i, offset := 0 }) target :=
                  inside.progress rfl
                refine moved.openNewWriter truthful fun found isFound => ?_
                obtain rfl := Option.some.inj (isFile.symm.trans isFound)
                exact kind
          · next kind => exact inductionHypothesis (inside.createDirectory member kind) (i + 1)
          · exact inductionHypothesis inside (i + 1)

omit [DecidableEq Location] in
theorem Inside.settle
    (inside : Inside host base begun handle target) :
    Inside host base begun handle.settle target := by
  refine inside.progress ?_
  unfold PasteTaskHandle.settle
  split
  · rfl
  · rfl

theorem Inside.updateNext
    (inside : Inside host base begun handle target)
    (truthful : Truthful host)
    (size : Nat) :
    Inside host base begun (updateNext host size handle target).2.1
      (updateNext host size handle target).2.2 := by
  have counted : Inside host base begun
      (handle.advance fun progress =>
        { progress with currentSize := progress.currentSize + size }) target :=
    inside.progress rfl
  unfold PasteTaskHandle.updateNext
  dsimp only
  split
  · exact inside
  · split
    · generalize (handle.advance fun progress =>
        { progress with currentSize := progress.currentSize + size }) = counting at counted ⊢
      generalize isDone : (if counting.progress.listIndex = -1 then (counting, target)
        else PasteTaskHandle.onDone host counting target) = done
      have doneInside : Inside host base begun done.1 done.2 := by
        rw [← isDone]
        split
        · exact counted
        · exact counted.onDone truthful
      have opened := doneInside.openNext truthful
      split
      · exact opened _ _
      · exact (opened _ _).settle
    · exact Inside.settle (inside.progress rfl)

/-! ## Responses -/

theorem Inside.handleFileContentsResponse
    (inside : Inside host base begun handle target)
    (truthful : Truthful host)
    (fileContents : FileContentsResponse)
    (answers : Option Nat) :
    Inside host base begun
      (handleFileContentsResponse host fileContents answers handle target).2.1
      (handleFileContentsResponse host fileContents answers handle target).2.2 := by
  unfold PasteTaskHandle.handleFileContentsResponse
  split
  · exact inside
  · next writer isOpen =>
      dsimp only
      split
      · exact inside.updateNext truthful 0
      · have opened := inside.opened writer isOpen
        have kept := BufWriter.write_keeps host (blockSize * 2) writer
          fileContents.requestedData target.volume
        have confined := (Confined.preserves host opened).write (blockSize * 2)
          fileContents.requestedData inside.confined
        have written : Inside host base begun
            (handle.advance fun progress =>
              { progress with
                fileHandle := some (writer.write host (blockSize * 2)
                  fileContents.requestedData target.volume).2.1 })
            { target with
              volume := (writer.write host (blockSize * 2)
                fileContents.requestedData target.volume).2.2 } := by
          refine ⟨confined, inside.remembered, ?_, inside.kind, inside.base, inside.leads⟩
          intro now isNow
          obtain rfl := Option.some.inj isNow
          rw [kept.inode]
          exact opened
        split
        · refine Inside.updateNext ?_ truthful _
          exact written.progress rfl
        · exact written

theorem Inside.accept
    {fileContents : FileContentsResponse}
    {answers : Option Nat}
    (inside : Inside host base begun handle target)
    (truthful : Truthful host) :
    Inside host base begun (PasteTask.accept host fileContents answers handle target).1
      (PasteTask.accept host fileContents answers handle target).2 := by
  have handled := inside.handleFileContentsResponse truthful fileContents answers
  unfold PasteTask.accept
  dsimp only
  split
  · exact handled
  · exact handled.onError _

/-! ## Runs -/

/-- The task that is running, or ran last, is inside. -/
def Contained
    (host : Host String Location)
    (base : Resolved)
    (begun : Volume String Location)
    (state : PasteTask Location) : Prop :=
  ∃ handle, state.handle = some handle ∧ Inside host base begun handle state.target

variable {state : PasteTask Location} {after : After Location} {now : Nat}

theorem Inside.sendFileContentsRequest
    (inside : Inside host base begun after.1 after.2) :
    Contained host base begun (PasteTask.sendFileContentsRequest host now state after) := by
  unfold PasteTask.sendFileContentsRequest
  split
  · exact ⟨_, rfl, inside.onError _⟩
  · exact ⟨_, rfl, inside⟩
  · exact ⟨_, rfl, inside.progress rfl⟩

theorem Inside.proceed
    (inside : Inside host base begun after.1 after.2)
    (truthful : Truthful host) :
    Contained host base begun (PasteTask.proceed host now state after) := by
  unfold PasteTask.proceed
  split
  · exact ⟨_, rfl, inside.onFinished truthful⟩
  · exact inside.sendFileContentsRequest

omit [DecidableEq Location] in
/-- A task that has not begun is inside. -/
theorem Inside.fresh
    {task : Nat}
    {targetDir : String}
    {files : List FileDescription}
    (truthful : Truthful host)
    (leads : ∀ file ∈ files, LeadsInside targetDir file) :
    Inside host (resolve .unix targetDir) target.volume
      (PasteTask.freshHandle task targetDir files now) target :=
  ⟨.refl _ _, fun location located => absurd (truthful.nameless.symm.trans located) (by simp),
    fun _ isOpen => (by cases isOpen), fun _ isFile => (by cases isFile), rfl, leads⟩

theorem contained_start
    {targetDir : String}
    {files : List FileDescription}
    (truthful : Truthful host)
    (leads : ∀ file ∈ files, LeadsInside targetDir file)
    (idle : state.handle.any (fun handle => !handle.isFinished) = false)
    (now : Nat) :
    Contained host (resolve .unix targetDir) state.target.volume
      (step host state (.start targetDir files now)) := by
  have begins : Inside host (resolve .unix targetDir) state.target.volume
      (PasteTask.freshHandle state.tasks targetDir files now) state.target :=
    .fresh truthful leads
  have proceeds : Contained host (resolve .unix targetDir) state.target.volume
      (PasteTask.proceed host now { state with tasks := state.tasks + 1 } _) :=
    (begins.updateNext truthful 0).proceed truthful
  rw [step, PasteTask.start, idle]
  exact proceeds

/-- An event is no new task. -/
def GoesOn : Event → Prop
  | .start _ _ _ => False
  | _ => True

/-- A response, a cancellation and a timeout keep the task inside. -/
theorem Contained.step
    {event : Event}
    (contained : Contained host base begun state)
    (truthful : Truthful host)
    (goesOn : GoesOn event) :
    Contained host base begun (step host state event) := by
  obtain ⟨handle, isHandle, inside⟩ := contained
  cases event with
  | start targetDir files now => exact absurd goesOn id
  | cancel =>
      have canceled : Inside host base begun
          (handle.advance fun progress => { progress with isCanceled := true }) state.target :=
        inside.progress rfl
      simp only [Paste.step, PasteTask.cancel, isHandle]
      exact ⟨_, rfl, canceled.onCancelled⟩
  | response fileContents answers now =>
      simp only [Paste.step, PasteTask.response, isHandle]
      split
      · exact ⟨handle, isHandle, inside⟩
      · split
        · unfold PasteTask.retry
          dsimp only
          refine Inside.proceed ?_ truthful
          dsimp only
          split
          · exact inside.progress rfl
          · exact inside
        · split
          · exact (inside.accept truthful).proceed truthful
          · exact ⟨handle, isHandle, inside⟩
  | timeout now =>
      simp only [Paste.step, PasteTask.timeout, isHandle]
      split
      · refine ⟨_, rfl, Inside.onFinished ?_ truthful⟩
        exact inside.progress rfl
      · exact ⟨handle, isHandle, inside⟩

/-- A task whose names lead inside its target directory touches nothing else, whatever the peer
answers and whenever it is cancelled. -/
theorem paste_confined
    (truthful : Truthful host)
    (state : PasteTask Location)
    (targetDir : String)
    (files : List FileDescription)
    (now : Nat)
    (events : List Event)
    (idle : state.handle.any (fun handle => !handle.isFinished) = false)
    (leads : ∀ file ∈ files, LeadsInside targetDir file)
    (goesOn : ∀ event ∈ events, GoesOn event) :
    let pasted := run (step host) (step host state (.start targetDir files now)) events
    Confined (resolve .unix targetDir) state.target.volume pasted.target.downloads
      pasted.target.volume := by
  dsimp only
  have contained := contained_start truthful leads idle now
  generalize step host state (.start targetDir files now) = begun at contained ⊢
  induction events generalizing begun with
  | nil =>
      obtain ⟨handle, -, inside⟩ := contained
      exact inside.confined
  | cons event events inductionHypothesis =>
      rw [run_cons]
      exact inductionHypothesis (fun other member => goesOn other (List.mem_cons_of_mem _ member)) _
        (contained.step truthful (goesOn event List.mem_cons_self))

/-- A system that refuses nothing, and where every path but the empty one is a file of its own. -/
def rootless : Host String String where
  locate path := if path = "" then none else some path
  allows := fun _ _ => true
  clock := fun _ => 0

theorem rootless_truthful : Truthful rootless :=
  ⟨fun _ _ => rfl, rfl⟩

/-- A file of two bytes is pasted into a directory, and cancelled when all is done. -/
theorem paste_confined_twoBytes :
    Confined (resolve .unix "/t") ⟨Disk.empty, []⟩
      (run (step rootless) (step rootless (PasteTask.new ⟨Disk.empty, []⟩)
        (.start "/t" [⟨1, "a.txt", .file, 2⟩] 0))
        [.response ⟨1, 1, 0, [5, 7]⟩ (some 0) 1, .cancel]).target.downloads
      (run (step rootless) (step rootless (PasteTask.new ⟨Disk.empty, []⟩)
        (.start "/t" [⟨1, "a.txt", .file, 2⟩] 0))
        [.response ⟨1, 1, 0, [5, 7]⟩ (some 0) 1, .cancel]).target.volume := by
  refine paste_confined rootless_truthful (PasteTask.new ⟨Disk.empty, []⟩) "/t"
    [⟨1, "a.txt", .file, 2⟩] 0 [.response ⟨1, 1, 0, [5, 7]⟩ (some 0) 1, .cancel] rfl ?_ ?_
  · intro file member
    obtain rfl := List.mem_singleton.mp member
    show (resolve .unix "/t").Below (resolve .unix (push .unix "/t" "a.txt"))
    decide
  · intro event member
    rcases List.mem_pair.mp member with rfl | rfl
    · trivial
    · trivial

/-- An empty file with an absolute name is made outside the target directory. -/
theorem absolute_name_escapes :
    Truthful rootless ∧
      ¬Confined (resolve .unix "/t") ⟨Disk.empty, []⟩
        (step rootless (PasteTask.new ⟨Disk.empty, []⟩)
          (.start "/t" [⟨1, "/x", .file, 0⟩] 0)).target.downloads
        (step rootless (PasteTask.new ⟨Disk.empty, []⟩)
          (.start "/t" [⟨1, "/x", .file, 0⟩] 0)).target.volume := by
  refine ⟨rootless_truthful, fun confined => ?_⟩
  obtain ⟨more, log, stays⟩ := confined.stays
  have created : (Operation.create "/x", true) ∈ (step rootless
      (PasteTask.new ⟨Disk.empty, []⟩)
      (.start "/t" [⟨1, "/x", .file, 0⟩] 0)).target.volume.log := by
    decide
  rw [log] at created
  have under : (resolve .unix "/t").Under (resolve .unix "/x") := stays _ created
  revert under
  decide

end Paste
end Clipboard
end OneDesk
