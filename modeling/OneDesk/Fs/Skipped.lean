import OneDesk.Fs.Publish
import OneDesk.Fs.ReadJobs

/-!
# Files that are left out

A file is skipped at either end of a transfer, and only a skip that reaches the
writing side turns its job to the next file.  The writing side publishes the
current file when another one opens and when the job is done, so the current
file need not be one that was sent.  This module says which messages leave a
file alone that gets no block, and shows a run that does not.
-/

namespace OneDesk
namespace Fs

open Lib

variable {Location : Type} [DecidableEq Location]

/-- A location holds the final file, the download or the digest of an entry. -/
def Owns
    (os : Os Location)
    (job : TransferJob)
    (number : Nat)
    (location : Location) : Prop :=
  spot os job .final number = some location ∨
    spot os job .download number = some location ∨
    spot os job .digest number = some location

instance
    (os : Os Location)
    (job : TransferJob)
    (number : Nat)
    (location : Location) : Decidable (Owns os job number location) :=
  inferInstanceAs (Decidable (_ ∨ _))

/-- The files of an entry are what they were: at the final path the same contents and the same
time, and the working files neither renamed nor removed nor written to. -/
def LeftAlone
    (os : Os Location)
    (job : TransferJob)
    (number : Nat)
    (before after : Volume String Location) : Prop :=
  ∀ location, Owns os job number location → SameAt before after location

/-- A message of a transfer that is not cancelled, and no block of the given file. -/
def LeavesOut (id : Int) (number : Nat) : FsEvent → Prop
  | .newWrite .. | .cancelWrite _ => False
  | .writeBlock blockId fileNum _ _ => blockId = id → asUsize fileNum ≠ number
  | .writeDone .. | .writeError .. | .checkDigest .. | .sendConfirm _ => True

instance (id : Int) (number : Nat) : (event : FsEvent) → Decidable (LeavesOut id number event)
  | .newWrite .. | .cancelWrite _ => inferInstanceAs (Decidable False)
  | .writeBlock blockId fileNum _ _ =>
      inferInstanceAs (Decidable (blockId = id → asUsize fileNum ≠ number))
  | .writeDone .. | .writeError .. | .checkDigest .. | .sendConfirm _ =>
      inferInstanceAs (Decidable True)

/-- A file of an entry is at none of the locations of another entry. -/
def Apart
    (os : Os Location)
    (job : TransferJob)
    (number : Nat)
    (role : Role)
    (other : Nat) : Prop :=
  ∀ location ∈ spot os job role other, ¬Owns os job number location

instance
    (os : Os Location)
    (job : TransferJob)
    (number : Nat)
    (role : Role)
    (other : Nat) : Decidable (Apart os job number role other) :=
  inferInstanceAs (Decidable (∀ location ∈ spot os job role other, _))

/-- An entry has no working files, and what is at its final path has the time of the entry. -/
def Bare
    (os : Os Location)
    (job : TransferJob)
    (number : Nat)
    (volume : Volume String Location) : Prop :=
  (∀ digest ∈ spot os job .digest number, volume.disk.names digest = none) ∧
    (∀ download ∈ spot os job .download number, volume.disk.names download = none) ∧
    ∀ final ∈ spot os job .final number, ∀ entry ∈ job.files[number]?,
      ∀ file ∈ volume.disk.file final, file.modified = asI64 entry.modifiedTime

instance
    (os : Os Location)
    (job : TransferJob)
    (number : Nat)
    (volume : Volume String Location) : Decidable (Bare os job number volume) :=
  inferInstanceAs (Decidable (
    (∀ digest ∈ spot os job .digest number, _) ∧
      (∀ download ∈ spot os job .download number, _) ∧
      ∀ final ∈ spot os job .final number, ∀ entry ∈ job.files[number]?,
        ∀ file ∈ volume.disk.file final, _))

/-- Publishing the current file does not touch an entry: it is another one with other files, or
there is nothing to publish. -/
def PublishSpares
    (os : Os Location)
    (job : TransferJob)
    (number : Nat)
    (volume : Volume String Location) : Prop :=
  if asUsize job.fileNum = number then Bare os job number volume
  else
    Apart os job number .final (asUsize job.fileNum) ∧
      Apart os job number .download (asUsize job.fileNum) ∧
      Apart os job number .digest (asUsize job.fileNum)

instance
    (os : Os Location)
    (job : TransferJob)
    (number : Nat)
    (volume : Volume String Location) : Decidable (PublishSpares os job number volume) :=
  inferInstanceAs (Decidable (
    if asUsize job.fileNum = number then Bare os job number volume
    else
      Apart os job number .final (asUsize job.fileNum) ∧
        Apart os job number .download (asUsize job.fileNum) ∧
        Apart os job number .digest (asUsize job.fileNum)))

/-- A message does not touch an entry: a block works on files of another one, and what it or the
end of the job publishes is not that entry. -/
def SparesEntry
    (os : Os Location)
    (number : Nat)
    (manager : Manager Location)
    (event : FsEvent) : Prop :=
  match event with
  | .writeBlock id fileNum _ _ =>
      ∀ job ∈ getJob id manager.writeJobs, asUsize fileNum < job.files.length →
        Apart os job number .download (asUsize fileNum) ∧
          Apart os job number .digest (asUsize fileNum) ∧
          (job.Opens fileNum → PublishSpares os job number manager.volume)
  | .writeDone id _ =>
      ∀ job ∈ getJob id manager.writeJobs, PublishSpares os job number manager.volume
  | .newWrite .. | .cancelWrite _ | .writeError .. | .checkDigest .. | .sendConfirm _ => True

instance
    (os : Os Location)
    (number : Nat)
    (manager : Manager Location) :
    (event : FsEvent) → Decidable (SparesEntry os number manager event)
  | .writeBlock id fileNum _ _ =>
      inferInstanceAs (Decidable (∀ job ∈ getJob id manager.writeJobs,
        asUsize fileNum < job.files.length → _))
  | .writeDone id _ =>
      inferInstanceAs (Decidable (∀ job ∈ getJob id manager.writeJobs, _))
  | .newWrite .. | .cancelWrite _ | .writeError .. | .checkDigest .. | .sendConfirm _ =>
      inferInstanceAs (Decidable True)

section Publishing

variable {os : Os Location} {job : TransferJob} {number : Nat}
variable {volume : Volume String Location}

omit [DecidableEq Location] in
theorem owns_of_spot
    {role : Role}
    {location : Location}
    (here : spot os job role number = some location) :
    Owns os job number location := by
  cases role with
  | final => exact .inl here
  | download => exact .inr (.inl here)
  | digest => exact .inr (.inr here)

/-- The files of an entry do not depend on the state of its job. -/
theorem TransferJob.SameSetup.owns_iff
    {after : TransferJob}
    (same : TransferJob.SameSetup job after)
    (location : Location) :
    Owns os after number location ↔ Owns os job number location := by
  simp only [Owns, same.spot_eq]

theorem LeftAlone.of_setup
    {after : TransferJob}
    {before later : Volume String Location}
    (left : LeftAlone os after number before later)
    (same : TransferJob.SameSetup job after) :
    LeftAlone os job number before later :=
  fun location owned => left location ((same.owns_iff location).mpr owned)

theorem LeftAlone.trans
    {first second third : Volume String Location}
    (one : LeftAlone os job number first second)
    (two : LeftAlone os job number second third) :
    LeftAlone os job number first third :=
  fun location owned => (one location owned).trans (two location owned)

theorem LeftAlone.of_disk
    {after : Volume String Location}
    (same : after.disk = volume.disk) :
    LeftAlone os job number volume after :=
  fun location _ => .of_disk same location

/-- An operation that reaches no file of an entry leaves the entry alone. -/
theorem LeftAlone.perform
    {operation : Operation String}
    (unreached : ∀ location, operation.Reaches os.toHost volume.disk location →
      ¬Owns os job number location) :
    LeftAlone os job number volume (perform os.toHost volume operation).2 :=
  fun location owned => perform_frame os.toHost volume fun reached =>
    unreached location reached owned

/-- Where there is no download, publishing drops the digest and dates the file that is there. -/
theorem modifyTime_without_download
    {entry : FileEntry}
    (generic : job.type = .generic)
    (current : job.currentEntry = some entry)
    (absent : ∀ download ∈ spot os job .download (asUsize job.fileNum),
      volume.disk.names download = none) :
    ∃ middle : Volume String Location,
      middle.disk =
        (perform os.toHost volume (.remove (digestOf (job.pathOf os.style entry)))).2.disk ∧
      job.modifyTime os volume =
        (perform os.toHost middle
          (.setModified (job.pathOf os.style entry) (asI64 entry.modifiedTime))).2 := by
  refine ⟨_, ?_, TransferJob.modifyTime_eq generic current⟩
  apply perform_rename_of_absent
  intro location found
  exact perform_remove_absent _ _
    (absent location (spot_eq_some.mpr ⟨entry, current, found⟩)) _

/-- A bare entry has nothing to publish. -/
theorem modifyTime_bare
    (generic : job.type = .generic)
    (bare : Bare os job (asUsize job.fileNum) volume) :
    LeftAlone os job number volume (job.modifyTime os volume) := by
  obtain ⟨noDigest, noDownload, dated⟩ := bare
  cases current : job.currentEntry with
  | none =>
      rw [TransferJob.modifyTime_of_none current]
      exact .of_disk rfl
  | some entry =>
      obtain ⟨middle, sameDisk, published⟩ :=
        modifyTime_without_download generic current noDownload
      have removed := perform_remove_of_absent os.toHost volume fun location found =>
        noDigest location (spot_eq_some.mpr ⟨entry, current, found⟩)
      have same : middle.disk = volume.disk := sameDisk.trans removed
      rw [published]
      intro location _
      refine (SameAt.of_disk same location).trans
        (perform_setModified_same os.toHost middle ?_ location)
      intro final found file present
      rw [same] at present
      exact dated final (spot_eq_some.mpr ⟨entry, current, found⟩) entry current file present

/-- Publishing works on the files of the current entry only. -/
theorem modifyTime_apart
    (generic : job.type = .generic)
    (finalApart : Apart os job number .final (asUsize job.fileNum))
    (downloadApart : Apart os job number .download (asUsize job.fileNum))
    (digestApart : Apart os job number .digest (asUsize job.fileNum)) :
    LeftAlone os job number volume (job.modifyTime os volume) := by
  cases current : job.currentEntry with
  | none =>
      rw [TransferJob.modifyTime_of_none current]
      exact .of_disk rfl
  | some entry =>
      have located : ∀ role location,
          os.locate (role.text (job.pathOf os.style entry)) = some location →
            spot os job role (asUsize job.fileNum) = some location := by
        intro role location found
        exact spot_eq_some.mpr ⟨entry, current, found⟩
      rw [TransferJob.modifyTime_eq generic current]
      refine ((LeftAlone.perform ?_).trans (.perform ?_)).trans (.perform ?_)
      · intro location found
        exact digestApart location (located .digest location found)
      · rintro location (found | found)
        · exact downloadApart location (located .download location found)
        · exact finalApart location (located .final location found)
      · intro location found
        exact finalApart location (located .final location found)

/-- Publishing leaves an entry alone that it spares. -/
theorem modifyTime_spares
    (generic : job.type = .generic)
    (spares : PublishSpares os job number volume) :
    LeftAlone os job number volume (job.modifyTime os volume) := by
  unfold PublishSpares at spares
  split at spares
  · next same =>
      rw [← same] at spares
      exact modifyTime_bare generic spares
  · exact modifyTime_apart generic spares.1 spares.2.1 spares.2.2

/-- When nothing is refused, a file that publishing leaves alone is bare. -/
theorem bare_of_left
    {entry : FileEntry}
    (permits : Permits os)
    (separate : Separate os job)
    (generic : job.type = .generic)
    (current : job.currentEntry = some entry)
    (left : LeftAlone os job (asUsize job.fileNum) volume (job.modifyTime os volume)) :
    Bare os job (asUsize job.fileNum) volume := by
  obtain ⟨final, download, digest, finalSpot, downloadSpot, digestSpot, spots⟩ :=
    separate.spots current
  have noDownload : ∀ location ∈ spot os job .download (asUsize job.fileNum),
      volume.disk.names location = none := by
    intro location here
    obtain rfl : download = location := Option.some.inj (downloadSpot.symm.trans here)
    cases contents : volume.disk.bytes download with
    | none => simpa [Disk.bytes, Disk.file] using contents
    | some bytes =>
        rw [← (left download (owns_of_spot downloadSpot)).names]
        exact (TransferJob.modifyTime_publishes permits generic current spots contents).2.1
  obtain ⟨middle, sameDisk, published⟩ := modifyTime_without_download generic current noDownload
  rw [published] at left
  refine ⟨?_, noDownload, ?_⟩
  · intro location here
    obtain rfl : digest = location := Option.some.inj (digestSpot.symm.trans here)
    rw [← (left digest (owns_of_spot digestSpot)).names, perform_setModified_names, sameDisk]
    exact perform_remove os.toHost volume spots.digest_located (permits _ _)
  · intro location here found isEntry file present
    obtain rfl : final = location := Option.some.inj (finalSpot.symm.trans here)
    obtain rfl : entry = found := Option.some.inj (current.symm.trans isEntry)
    have stays : SameAt volume
        (perform os.toHost volume (.remove (digestOf (job.pathOf os.style entry)))).2 final := by
      refine perform_frame _ _ ?_
      simpa [Operation.Reaches, spots.digest_located] using spots.final_ne_digest.symm
    have inPlace : middle.disk.file final = some file := by
      rw [sameDisk, stays.file]
      exact present
    have dated := perform_setModified_file os.toHost middle (asI64 entry.modifiedTime)
      spots.final_located (permits _ _) inPlace
    have kept := (left final (owns_of_spot finalSpot)).file
    have same := Option.some.inj (dated.symm.trans (kept.trans present))
    exact (congrArg File.modified same).symm

/-- When nothing is refused, publishing leaves its own file alone only if there is nothing to
publish. -/
theorem modifyTime_leaves_iff
    (permits : Permits os)
    (separate : Separate os job)
    (generic : job.type = .generic) :
    LeftAlone os job (asUsize job.fileNum) volume (job.modifyTime os volume) ↔
      Bare os job (asUsize job.fileNum) volume := by
  refine ⟨fun left => ?_, modifyTime_bare generic⟩
  cases current : job.currentEntry with
  | none =>
      have noSpot : ∀ role, spot os job role (asUsize job.fileNum) = none := by
        intro role
        rw [spot, show job.files[asUsize job.fileNum]? = none from current, Option.bind_none]
      simp [Bare, noSpot]
  | some entry => exact bare_of_left permits separate generic current left

end Publishing

/-- The stream of a job writes to no file of an entry. -/
def Detached
    (os : Os Location)
    (job : TransferJob)
    (number : Nat)
    (volume : Volume String Location) : Prop :=
  ∀ stream, job.dataStream = some stream → stream.writable = true →
    ∀ location, Owns os job number location → volume.disk.names location ≠ some stream.inode

/-- The stream of a job writes to no file of an entry but the download of the current one, which
a confirmation may have opened to go on with it. -/
def Clear
    (os : Os Location)
    (job : TransferJob)
    (number : Nat)
    (volume : Volume String Location) : Prop :=
  ∀ stream, job.dataStream = some stream → stream.writable = true →
    ∀ location, Owns os job number location → volume.disk.names location = some stream.inode →
      spot os job .download (asUsize job.fileNum) = some location

section Streaming

variable {os : Os Location} {job : TransferJob} {number : Nat}
variable {volume : Volume String Location}

omit [DecidableEq Location] in
theorem Detached.clear (detached : Detached os job number volume) : Clear os job number volume := by
  intro stream streaming writable location owned named
  exact absurd named (detached stream streaming writable location owned)

omit [DecidableEq Location] in
/-- A stream that goes on with another file writes to no file of an entry. -/
theorem Clear.detached_of_apart
    (clear : Clear os job number volume)
    (apart : Apart os job number .download (asUsize job.fileNum)) :
    Detached os job number volume := by
  intro stream streaming writable location owned named
  exact apart location (clear stream streaming writable location owned named) owned

omit [DecidableEq Location] in
/-- An entry that the publication of the current file spares is not what the stream writes to. -/
theorem Clear.detached
    (clear : Clear os job number volume)
    (spares : PublishSpares os job number volume) :
    Detached os job number volume := by
  unfold PublishSpares at spares
  split at spares
  · next same =>
      intro stream streaming writable location owned named
      have here := clear stream streaming writable location owned named
      rw [spares.2.1 location (same ▸ here)] at named
      cases named
  · exact clear.detached_of_apart spares.2.1

/-- A stream that writes to no file of an entry goes on doing so while the entry is left alone. -/
theorem Detached.of_left
    {current : TransferJob}
    {after : Volume String Location}
    (detached : Detached os current number volume)
    (same : TransferJob.SameSetup job current)
    (left : LeftAlone os job number volume after) :
    Detached os current number after := by
  intro stream streaming writable location owned
  rw [(left location ((same.owns_iff location).mp owned)).names]
  exact detached stream streaming writable location owned

theorem syncAll_disk (stream : Option Handle) :
    (TransferJob.syncAll os stream volume).2.disk = volume.disk := by
  cases stream with
  | none => rfl
  | some handle => exact perform_sync_disk ..

theorem clearDigest_leaves
    {path : String}
    (apart : ∀ location ∈ os.locate path, ¬Owns os job number location) :
    LeftAlone os job number volume (TransferJob.clearDigest os path volume).2 := by
  have looked : (perform os.toHost volume (.stat path)).2.disk = volume.disk :=
    perform_stat_disk ..
  unfold TransferJob.clearDigest
  dsimp only
  split
  · exact (LeftAlone.of_disk looked).trans (.perform apart)
  · exact .of_disk looked

/-- A new download is apart from the files of an entry, and so is its stream. -/
theorem createStream_leaves
    {path : String}
    (here : ∀ location, os.locate path = some location →
      spot os job .download (asUsize job.fileNum) = some location)
    (apart : Apart os job number .download (asUsize job.fileNum))
    (detached : Detached os job number volume) :
    LeftAlone os job number volume (TransferJob.createStream os job path volume).volume ∧
      Detached os (TransferJob.createStream os job path volume).job number
        (TransferJob.createStream os job path volume).volume := by
  have left : LeftAlone os job number volume (perform os.toHost volume (.create path)).2 :=
    .perform fun location found => apart location (here location found)
  unfold TransferJob.createStream
  dsimp only
  split
  · refine ⟨left, ?_⟩
    intro stream streaming _ location owned named
    obtain ⟨opened, located, found⟩ := Option.bind_eq_some_iff.mp streaming
    obtain ⟨inode, openedNamed, same⟩ := Option.bind_eq_some_iff.mp found
    obtain rfl := Option.some.inj same
    obtain rfl := Disk.single _ _ _ _ named openedNamed
    exact apart location (here location located) owned
  · exact ⟨left, detached.of_left (.refl job) left⟩

/-- A new download is apart from the files of an entry, and so is its digest. -/
theorem startDownload_leaves
    {entry : FileEntry}
    (found : job.files[asUsize job.fileNum]? = some entry)
    (downloadApart : Apart os job number .download (asUsize job.fileNum))
    (digestApart : Apart os job number .digest (asUsize job.fileNum))
    (detached : Detached os job number volume) :
    LeftAlone os job number volume (TransferJob.startDownload os job entry volume).volume ∧
      Detached os (TransferJob.startDownload os job entry volume).job number
        (TransferJob.startDownload os job entry volume).volume := by
  let path := job.pathOf os.style entry
  have located : ∀ role location, os.locate (role.text path) = some location →
      spot os job role (asUsize job.fileNum) = some location := by
    intro role location isLocated
    exact spot_eq_some.mpr ⟨entry, found, isLocated⟩
  have digestAway : ∀ location, os.locate (digestOf path) = some location →
      ¬Owns os job number location := by
    intro location isLocated
    exact digestApart location (located .digest location isLocated)
  let made := (perform os.toHost volume (.makeParent path)).2
  let cleared := TransferJob.clearDigest os (digestOf path) made
  have leftCleared : LeftAlone os job number volume cleared.2 :=
    (LeftAlone.of_disk (perform_makeParent_disk ..)).trans (clearDigest_leaves digestAway)
  obtain ⟨leftCreated, detachedCreated⟩ := createStream_leaves (located .download) downloadApart
    (detached.of_left (.refl job) leftCleared)
  unfold TransferJob.startDownload
  dsimp only
  split
  · exact ⟨leftCleared, detached.of_left (.refl job) leftCleared⟩
  · split
    · exact ⟨leftCleared.trans leftCreated, detachedCreated⟩
    · have leftSaved : LeftAlone os job number
          (TransferJob.createStream os job (downloadOf path) cleared.2).volume
          (perform os.toHost (TransferJob.createStream os job (downloadOf path) cleared.2).volume
            (.save (digestOf path) (digestJson job.digest))).2 :=
        .perform digestAway
      exact ⟨(leftCleared.trans leftCreated).trans leftSaved,
        detachedCreated.of_left (TransferJob.createStream_setup ..) leftSaved⟩

/-- Turning to a file leaves an entry alone that has other files, if the publication of the file
before spares it. -/
theorem openFile_leaves
    {entry : FileEntry}
    {fileNum : Int}
    (generic : job.type = .generic)
    (found : job.files[asUsize fileNum]? = some entry)
    (downloadApart : Apart os job number .download (asUsize fileNum))
    (digestApart : Apart os job number .digest (asUsize fileNum))
    (spares : PublishSpares os job number volume)
    (clear : Clear os job number volume) :
    LeftAlone os job number volume (job.openFile os fileNum entry volume).volume ∧
      Detached os (job.openFile os fileNum entry volume).job number
        (job.openFile os fileNum entry volume).volume := by
  have leftSynced : LeftAlone os job number volume
      (TransferJob.syncAll os job.dataStream (job.modifyTime os volume)).2 :=
    (modifyTime_spares generic spares).trans (.of_disk (syncAll_disk _))
  have detached : Detached os job number
      (TransferJob.syncAll os job.dataStream (job.modifyTime os volume)).2 :=
    (clear.detached spares).of_left (.refl job) leftSynced
  have setup : TransferJob.SameSetup job { job with fileNum := fileNum } :=
    TransferJob.setFileNum_setup job fileNum
  unfold TransferJob.openFile
  dsimp only
  split
  · exact ⟨leftSynced, detached⟩
  · let turned : TransferJob := { job with fileNum := fileNum }
    have foundTurned : turned.files[asUsize turned.fileNum]? = some entry := found
    obtain ⟨leftStarted, detachedStarted⟩ :=
      startDownload_leaves foundTurned downloadApart digestApart detached
    split
    · next printer =>
        rw [generic] at printer
        cases printer
    · exact ⟨leftSynced.trans (leftStarted.of_setup setup), detachedStarted⟩

/-- Bytes for a stream that is detached from an entry leave the entry alone. -/
theorem writeData_leaves
    (codec : Codec)
    (block : FileTransferBlock)
    (detached : Detached os job number volume) :
    LeftAlone os job number volume (TransferJob.writeData os codec job block volume).volume ∧
      Detached os (TransferJob.writeData os codec job block volume).job number
        (TransferJob.writeData os codec job block volume).volume := by
  unfold TransferJob.writeData
  split
  · exact ⟨.of_disk rfl, detached⟩
  · next stream streaming =>
      have left : LeftAlone os job number volume (perform os.toHost volume
          (.write stream (TransferJob.payload codec block))).2 := by
        cases writable : stream.writable with
        | false => exact .of_disk (perform_write_readOnly os.toHost volume writable _)
        | true =>
            exact .perform fun location named owned =>
              detached stream streaming writable location owned named
      dsimp only
      split
      · refine ⟨left, ?_⟩
        intro moved isMoved writable location owned
        obtain rfl := Option.some.inj isMoved
        rw [perform_write_names]
        exact detached stream streaming writable location owned
      · exact ⟨left, detached.of_left (.refl job) left⟩

/-- A block of another file leaves an entry alone that it spares. -/
theorem write_leaves
    (codec : Codec)
    (block : FileTransferBlock)
    (generic : job.type = .generic)
    (spares : asUsize block.fileNum < job.files.length →
      Apart os job number .download (asUsize block.fileNum) ∧
        Apart os job number .digest (asUsize block.fileNum) ∧
        (job.Opens block.fileNum → PublishSpares os job number volume))
    (clear : Clear os job number volume) :
    LeftAlone os job number volume (job.write os codec block volume).volume ∧
      Clear os (job.write os codec block volume).job number
        (job.write os codec block volume).volume := by
  unfold TransferJob.write
  split
  · exact ⟨.of_disk rfl, clear⟩
  · split
    · exact ⟨.of_disk rfl, clear⟩
    · next entry found =>
        obtain ⟨downloadApart, digestApart, published⟩ :=
          spares (List.getElem?_eq_some_iff.mp found).1
        split
        · next opens =>
            obtain ⟨leftOpened, detachedOpened⟩ :=
              openFile_leaves generic found downloadApart digestApart (published opens) clear
            dsimp only
            split
            · exact ⟨leftOpened, detachedOpened.clear⟩
            · obtain ⟨leftWritten, detachedWritten⟩ :=
                writeData_leaves codec block detachedOpened
              exact ⟨leftOpened.trans (leftWritten.of_setup (TransferJob.openFile_setup ..)),
                detachedWritten.clear⟩
        · next streaming =>
            have current : asUsize block.fileNum = asUsize job.fileNum := by
              simp only [TransferJob.Opens, not_or, not_not] at streaming
              exact streaming.1
            obtain ⟨leftWritten, detachedWritten⟩ :=
              writeData_leaves codec block (clear.detached_of_apart (current ▸ downloadApart))
            exact ⟨leftWritten, detachedWritten.clear⟩

/-- A file that is opened for writing is the download of the current file. -/
theorem openAt_clear
    {path : String}
    {writable : Bool}
    (offset : Nat)
    (own : writable = true → ∀ location, os.locate path = some location →
      spot os job .download (asUsize job.fileNum) = some location)
    (clear : Clear os job number (job.openAt os path writable offset volume).2) :
    Clear os (job.openAt os path writable offset volume).1 number
      (job.openAt os path writable offset volume).2 := by
  unfold TransferJob.openAt at clear ⊢
  dsimp only at clear ⊢
  split
  · unfold TransferJob.seekTo
    split
    · exact clear
    · next handle opened =>
        intro stream streaming isWritable location owned named
        obtain rfl := Option.some.inj streaming
        obtain ⟨found, located, isOpened⟩ := Option.bind_eq_some_iff.mp opened
        obtain ⟨inode, openedNamed, same⟩ := Option.bind_eq_some_iff.mp isOpened
        obtain rfl := Option.some.inj same
        obtain rfl := Disk.single _ _ _ _ named openedNamed
        exact own isWritable location located
  · exact clear

/-- A confirmation that goes on with the current file opens no other one. -/
theorem setStreamOffset_clear
    {offset : Nat}
    {after : TransferJob × Volume String Location}
    (clear : Clear os job number volume)
    (moved : job.setStreamOffset os (asUsize job.fileNum) offset volume = some after) :
    Clear os after.1 number after.2 := by
  have same : after.2.disk = volume.disk := TransferJob.setStreamOffset_disk os job volume moved
  have stays : Clear os job number after.2 := by
    intro stream streaming writable location owned named
    rw [same] at named
    exact clear stream streaming writable location owned named
  obtain ⟨entry, found, rfl⟩ := Option.map_eq_some_iff.mp moved
  dsimp only at stays ⊢
  split at stays
  · next both =>
      rw [if_pos both]
      refine openAt_clear offset ?_ stays
      intro _ location located
      exact spot_eq_some.mpr ⟨entry, found, located⟩
  · next both =>
      rw [if_neg both]
      split at stays
      · next present =>
          rw [if_pos present]
          exact openAt_clear offset (fun writable => by cases writable) stays
      · next absent =>
          rw [if_neg absent]
          exact stays

theorem confirm_clear
    {request : FileTransferSendConfirmRequest}
    {after : TransferJob × Volume String Location}
    (clear : Clear os job number volume)
    (confirmed : job.confirm os request volume = some after) :
    Clear os after.1 number after.2 := by
  unfold TransferJob.confirm at confirmed
  split at confirmed
  · obtain rfl := Option.some.inj confirmed
    exact clear
  · next current =>
      split at confirmed
      · obtain rfl := Option.some.inj confirmed
        intro stream none
        cases none
      · obtain rfl := Option.some.inj confirmed
        exact clear
      · split at confirmed
        · rw [← not_not.mp current] at confirmed
          have told : Clear os (job.setFileConfirmed true) number volume := clear
          exact setStreamOffset_clear told confirmed
        · obtain rfl := Option.some.inj confirmed
          exact clear
      · obtain rfl := Option.some.inj confirmed
        exact clear

end Streaming

/-- The invariant of a run that leaves a file out: its files are what they were, and the job that
is left does not write to them. -/
structure Spared
    (os : Os Location)
    (job : TransferJob)
    (number : Nat)
    (start : Volume String Location)
    (manager : Manager Location) : Prop where
  left : LeftAlone os job number start manager.volume
  jobs : manager.writeJobs = [] ∨ ∃ current, manager.writeJobs = [current] ∧
    TransferJob.SameSetup job current ∧ Clear os current number manager.volume

section Step

variable {os : Os Location} {job current : TransferJob} {number : Nat}
variable {start volume : Volume String Location}

/-- A message for the job that is left keeps the invariant. -/
theorem handleRunning_spared
    (codec : Codec)
    {event : FsEvent}
    (generic : job.type = .generic)
    (setup : TransferJob.SameSetup job current)
    (left : LeftAlone os job number start volume)
    (clear : Clear os current number volume)
    (leavesOut : LeavesOut job.id number event)
    (spares : SparesEntry os number ⟨[current], volume, false⟩ event) :
    Spared os job number start
      (handleRunning os codec event ⟨[current], volume, false⟩).1 := by
  have stays : Spared os job number start ⟨[current], volume, false⟩ :=
    ⟨left, .inr ⟨current, rfl, setup, clear⟩⟩
  have kind := setup.type.trans generic
  cases event with
  | newWrite path id fileNum files overwriteDetection => exact leavesOut.elim
  | cancelWrite id => exact leavesOut.elim
  | writeDone id fileNum =>
      by_cases own : current.id = id
      · subst own
        have published := modifyTime_spares kind (spares current (by simp))
        simpa [handleRunning] using
          (⟨left.trans (published.of_setup setup), .inl rfl⟩ : Spared os job number start
            ⟨[], current.modifyTime os volume, false⟩)
      · simpa [handleRunning, own] using stays
  | writeError id fileNum err =>
      by_cases own : current.id = id
      · subst own
        simpa [handleRunning] using
          (⟨left, .inl rfl⟩ : Spared os job number start ⟨[], volume, false⟩)
      · simpa [handleRunning, own] using stays
  | writeBlock id fileNum data compressed =>
      by_cases own : current.id = id
      · subst own
        let block : FileTransferBlock := ⟨current.id, fileNum, data, compressed⟩
        obtain ⟨leftAfter, clearAfter⟩ :=
          write_leaves codec block kind (spares current (by simp)) clear
        have setupAfter := TransferJob.write_setup os codec current volume block
        simpa [handleRunning] using
          (⟨left.trans (leftAfter.of_setup setup),
            .inr ⟨_, rfl, setup.trans setupAfter, clearAfter⟩⟩ : Spared os job number start
              ⟨[(current.write os codec block volume).job],
                (current.write os codec block volume).volume, false⟩)
      · simpa [handleRunning, own] using stays
  | checkDigest id fileNum fileSize lastModified isUpload isResume =>
      by_cases own : current.id = id
      · subst own
        have same := checkDigest_disk os codec volume current fileNum fileSize lastModified
          isUpload isResume
        obtain ⟨digest, checked⟩ := checkDigest_job os codec volume current fileNum fileSize
          lastModified isUpload isResume
        have clearAfter : Clear os { current with digest := digest } number
            (checkDigest os codec current fileNum fileSize lastModified isUpload isResume
              volume).2.1 := by
          intro stream streaming writable location owned named
          rw [same] at named
          exact clear stream streaming writable location owned named
        simpa [handleRunning, checked] using
          (⟨left.trans (.of_disk same), .inr ⟨_, rfl,
            setup.trans ⟨rfl, rfl, rfl, rfl, rfl, rfl⟩, clearAfter⟩⟩ : Spared os job number start
              ⟨[{ current with digest := digest }], (checkDigest os codec current fileNum fileSize
                lastModified isUpload isResume volume).2.1, false⟩)
      · simpa [handleRunning, own] using stays
  | sendConfirm request =>
      by_cases own : current.id = request.id
      · cases confirmed : current.confirm os request volume with
        | none =>
            simpa [handleRunning, own, confirmed] using
              (⟨left, .inr ⟨current, rfl, setup, clear⟩⟩ : Spared os job number start
                ⟨[current], volume, true⟩)
        | some after =>
            have same := TransferJob.confirm_disk os current volume confirmed
            have setupAfter := TransferJob.confirm_setup confirmed
            have replaced : setJob request.id after.1 [current] = [after.1] := by
              rw [← own]
              exact setJob_singleton after.1
            simpa [handleRunning, own, confirmed, replaced] using
              (⟨left.trans (.of_disk same), .inr ⟨after.1, rfl, setup.trans setupAfter,
                confirm_clear clear confirmed⟩⟩ : Spared os job number start
                  ⟨[after.1], after.2, false⟩)
      · simpa [handleRunning, own] using stays

/-- Every message that leaves a file out and spares it keeps the invariant. -/
theorem step_spared
    (codec : Codec)
    {manager : Manager Location}
    {event : FsEvent}
    (generic : job.type = .generic)
    (spared : Spared os job number start manager)
    (leavesOut : LeavesOut job.id number event)
    (spares : SparesEntry os number manager event) :
    Spared os job number start (manager.step os codec event) := by
  obtain ⟨jobs, volume, panicked⟩ := manager
  cases panicked with
  | true => simpa [Manager.step, handleFs] using spared
  | false =>
      obtain ⟨left, jobsLeft⟩ := spared
      dsimp only at left jobsLeft
      rcases jobsLeft with rfl | ⟨current, rfl, setup, clear⟩
      · have stays : Spared os job number start ⟨[], volume, false⟩ := ⟨left, .inl rfl⟩
        cases event with
        | newWrite path id fileNum files overwriteDetection => exact leavesOut.elim
        | cancelWrite id => exact leavesOut.elim
        | writeDone _ _ | writeError _ _ _ | writeBlock _ _ _ _ | checkDigest _ _ _ _ _ _
        | sendConfirm _ => simpa [Manager.step, handleFs, handleRunning, getJob] using stays
      · simpa [Manager.step, handleFs] using
          handleRunning_spared codec generic setup left clear leavesOut spares

end Step

/-- In every run without a cancel a file that got no block is left alone at every moment, if each
message spares it. -/
theorem unsent_left_alone
    (os : Os Location)
    (codec : Codec)
    (id fileNum : Int)
    (base : String)
    (files : List FileEntry)
    (overwriteDetection : Bool)
    (disk : Disk Location)
    (number : Nat)
    (events : List FsEvent)
    (leavesOut : ∀ event ∈ events, LeavesOut id number event)
    (spares : Along (Manager.step os codec) (SparesEntry os number)
      (Manager.start (TransferJob.newWrite id .generic base fileNum files overwriteDetection) disk)
      events) :
    ∀ before, before <+: events →
      LeftAlone os (TransferJob.newWrite id .generic base fileNum files overwriteDetection) number
        ⟨disk, []⟩
        (run (Manager.step os codec) (Manager.start
          (TransferJob.newWrite id .generic base fileNum files overwriteDetection) disk)
          before).volume := by
  intro before isPrefix
  let job := TransferJob.newWrite id .generic base fileNum files overwriteDetection
  have uncancelled : Along (Manager.step os codec) (fun _ event => LeavesOut id number event)
      (Manager.start job disk) events := by
    rw [along_iff_forall_split]
    intro first event rest split
    exact leavesOut event (by simp [split])
  have start : Spared os job number ⟨disk, []⟩ (Manager.start job disk) := by
    refine ⟨.of_disk rfl, .inr ⟨job, rfl, .refl job, ?_⟩⟩
    intro stream none
    cases none
  refine (run_invariant (Spared os job number ⟨disk, []⟩) ?_ start
    ((uncancelled.and spares).restrict isPrefix)).left
  intro manager event spared both
  exact step_spared codec rfl spared both.1 both.2

/-- A disk with a file `a` and a download of it that an earlier transfer left. -/
def dated : Disk String :=
  ((((Disk.empty : Disk String).create "/in/a" 5).setFile 0 ⟨[9], 5⟩).create
    "/in/a.download" 0).setFile 1 ⟨[1], 0⟩

/-- The file `a` is skipped at the writing side, and `b` is sent. -/
def skipTold : List FsEvent :=
  [.checkDigest 7 0 3 50 true false, .sendConfirm ⟨7, 0, some (.skip true)⟩,
    .writeBlock 7 1 [4] false, .writeDone 7 1]

/-- A skip that reaches the writing side spares the file it skips. -/
theorem unsent_left_alone_skip_told :
    Along (Manager.step (Os.plain .unix) plainCodec) (SparesEntry (Os.plain .unix) 0)
        (Manager.start twoFiles dated) skipTold ∧
      ∀ before, before <+: skipTold →
        LeftAlone (Os.plain .unix) twoFiles 0 ⟨dated, []⟩
          (run (Manager.step (Os.plain .unix) plainCodec) (Manager.start twoFiles dated)
            before).volume := by
  have spares : Along (Manager.step (Os.plain .unix) plainCodec) (SparesEntry (Os.plain .unix) 0)
      (Manager.start twoFiles dated) skipTold :=
    ⟨by decide, by decide, by decide, by decide, trivial⟩
  exact ⟨spares, unsent_left_alone (Os.plain .unix) plainCodec 7 0 "/in" [⟨"a", 100⟩, ⟨"b", 200⟩]
    false dated 0 skipTold (by decide) spares⟩

/-- A file whose digest was checked and that the sending side then skipped without a word: the
first block of the next file publishes the old download over it. -/
theorem silent_skip_overwrites :
    let events : List FsEvent :=
      [.checkDigest 7 0 3 50 true false, .writeBlock 7 1 [4] false, .writeDone 7 1]
    let after := (run (Manager.step (Os.plain .unix) plainCodec) (Manager.start twoFiles dated)
      events).volume
    (∀ event ∈ events, LeavesOut 7 0 event) ∧
      dated.file "/in/a" = some ⟨[9], 5⟩ ∧
      after.disk.file "/in/a" = some ⟨[1], 100⟩ ∧
      dated.bytes "/in/a.download" = some [1] ∧
      after.disk.names "/in/a.download" = none ∧
      ¬LeftAlone (Os.plain .unix) twoFiles 0 ⟨dated, []⟩ after := by
  refine ⟨by decide, by decide, by decide, by decide, by decide, ?_⟩
  intro left
  have same := (left "/in/a" (by decide)).file
  exact absurd same (by decide)

end Fs
end OneDesk
