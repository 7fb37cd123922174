import OneDesk.Fs.Spots

/-!
# What the operations of a job do to the disk

One lemma for each operation of a generic job, in terms of the three locations
of a file: the final one, the download and the digest.
-/

namespace OneDesk
namespace Fs

open Lib

variable {Location : Type} [DecidableEq Location]

/-- The calls that a block or a resumed file cannot do without are let through. -/
structure Steady (os : Os Location) : Prop where
  stat : ∀ log path, os.allows log (.stat path) = true
  remove : ∀ log path, os.allows log (.remove path) = true
  create : ∀ log path, os.allows log (.create path) = true
  openWrite : ∀ log path, os.allows log (.openWrite path) = true
  write : ∀ log handle data, os.allows log (.write handle data) = true
  sync : ∀ log handle, os.allows log (.sync handle) = true

/-- The system refuses nothing. -/
def Permits (os : Os Location) : Prop :=
  ∀ log operation, os.allows log operation = true

theorem Permits.steady {os : Os Location} (permits : Permits os) : Steady os :=
  ⟨fun _ _ => permits _ _, fun _ _ => permits _ _, fun _ _ => permits _ _,
    fun _ _ => permits _ _, fun _ _ _ => permits _ _, fun _ _ => permits _ _⟩

section Stat

variable (os : Os Location) (volume : Volume String Location)

/-- A permitted look finds exactly the files that are there. -/
theorem perform_stat
    {path : String}
    {location : Location}
    (steady : Steady os)
    (located : os.locate path = some location) :
    (perform os.toHost volume (.stat path)).1 = (volume.disk.names location).isSome := by
  cases named : volume.disk.names location with
  | none =>
      rcases perform_cases os.toHost volume (.stat path) with ⟨failed, _⟩ | ⟨_, applies⟩
      · exact failed
      · simp [Operation.apply, located, named] at applies
  | some inode =>
      rw [perform_of_apply os.toHost volume (steady.stat _ _)
        (show Operation.apply os.toHost volume.log volume.disk (.stat path) =
          some volume.disk by simp [Operation.apply, located, named])]
      rfl

end Stat

namespace TransferJob

variable {os : Os Location} {codec : Codec} {job : TransferJob} {entry : FileEntry}
variable {volume : Volume String Location} {final download digest : Location}

theorem modifyTime_eq
    (generic : job.type = .generic)
    (current : job.currentEntry = some entry) :
    job.modifyTime os volume =
      (perform os.toHost
        (perform os.toHost
          (perform os.toHost volume (.remove (digestOf (job.pathOf os.style entry)))).2
          (.rename (downloadOf (job.pathOf os.style entry)) (job.pathOf os.style entry))).2
        (.setModified (job.pathOf os.style entry) (asI64 entry.modifiedTime))).2 := by
  simp [modifyTime, generic, current]

/-- A job without a current file publishes nothing. -/
theorem modifyTime_of_none
    (current : job.currentEntry = none) :
    job.modifyTime os volume = volume := by
  unfold modifyTime
  rw [current]
  cases job.type <;> rfl

/-- Publishing a file leaves the files of others alone. -/
theorem modifyTime_elsewhere
    (generic : job.type = .generic)
    (current : job.currentEntry = some entry)
    (spots : Spots os (job.pathOf os.style entry) final download digest)
    {location : Location}
    (notFinal : location ≠ final)
    (notDownload : location ≠ download)
    (notDigest : location ≠ digest) :
    SameAt volume (job.modifyTime os volume) location := by
  rw [modifyTime_eq generic current]
  refine ((perform_frame _ _ ?_).trans (perform_frame _ _ ?_)).trans (perform_frame _ _ ?_)
  · simpa [Operation.Reaches, spots.digest_located] using notDigest.symm
  · simpa [Operation.Reaches, spots.download_located, spots.final_located] using
      ⟨notDownload.symm, notFinal.symm⟩
  · simpa [Operation.Reaches, spots.final_located] using notFinal.symm

/-- Publishing a file moves its download to the final location or leaves both as they are. -/
theorem modifyTime_cases
    (generic : job.type = .generic)
    (current : job.currentEntry = some entry)
    (spots : Spots os (job.pathOf os.style entry) final download digest) :
    ((∃ inode, volume.disk.names download = some inode) ∧
      (job.modifyTime os volume).disk.names download = none ∧
      (job.modifyTime os volume).disk.bytes final = volume.disk.bytes download) ∨
    (SameAt volume (job.modifyTime os volume) download ∧
      (job.modifyTime os volume).disk.bytes final = volume.disk.bytes final) := by
  rw [modifyTime_eq generic current]
  have cleared : ∀ location, location ≠ digest →
      SameAt volume
        (perform os.toHost volume (.remove (digestOf (job.pathOf os.style entry)))).2
        location := by
    intro location notDigest
    refine perform_frame _ _ ?_
    simpa [Operation.Reaches, spots.digest_located] using notDigest.symm
  have clearedFinal := cleared final spots.final_ne_digest
  have clearedDownload := cleared download spots.download_ne_digest
  generalize (perform os.toHost volume
    (.remove (digestOf (job.pathOf os.style entry)))).2 = middle at clearedFinal clearedDownload
  have dated : SameAt
      (perform os.toHost middle
        (.rename (downloadOf (job.pathOf os.style entry)) (job.pathOf os.style entry))).2
      (perform os.toHost
        (perform os.toHost middle
          (.rename (downloadOf (job.pathOf os.style entry)) (job.pathOf os.style entry))).2
        (.setModified (job.pathOf os.style entry) (asI64 entry.modifiedTime))).2 download := by
    refine perform_frame _ _ ?_
    simpa [Operation.Reaches, spots.final_located] using spots.final_ne_download
  rw [perform_setModified_bytes]
  cases renamed : (perform os.toHost middle
      (.rename (downloadOf (job.pathOf os.style entry)) (job.pathOf os.style entry))).1 with
  | true =>
      obtain ⟨⟨inode, present⟩, file, gone⟩ := perform_rename_moves os.toHost middle
        spots.download_located spots.final_located spots.final_ne_download.symm renamed
      left
      refine ⟨⟨inode, clearedDownload.names.symm.trans present⟩, dated.names.trans gone, ?_⟩
      rw [Disk.bytes, file, clearedDownload.file, Disk.bytes]
  | false =>
      have same := perform_failed os.toHost middle renamed
      right
      refine ⟨(clearedDownload.trans (.of_disk same download)).trans dated, ?_⟩
      rw [same, clearedFinal.bytes]

/-- Publishing a file whose download is there, when nothing is refused: the final path gets the
collected bytes and the time of the entry, and the working files are gone. -/
theorem modifyTime_publishes
    (permits : Permits os)
    (generic : job.type = .generic)
    (current : job.currentEntry = some entry)
    (spots : Spots os (job.pathOf os.style entry) final download digest)
    {bytes : List UInt8}
    (contents : volume.disk.bytes download = some bytes) :
    (job.modifyTime os volume).disk.file final = some ⟨bytes, asI64 entry.modifiedTime⟩ ∧
      (job.modifyTime os volume).disk.names download = none ∧
      (job.modifyTime os volume).disk.names digest = none := by
  rw [modifyTime_eq generic current]
  have cleared := perform_remove os.toHost volume spots.digest_located
    (permits volume.log (.remove (digestOf (job.pathOf os.style entry))))
  have kept : SameAt volume
      (perform os.toHost volume (.remove (digestOf (job.pathOf os.style entry)))).2 download := by
    refine perform_frame _ _ ?_
    simpa [Operation.Reaches, spots.digest_located] using spots.download_ne_digest.symm
  generalize (perform os.toHost volume
    (.remove (digestOf (job.pathOf os.style entry)))).2 = middle at cleared kept
  obtain ⟨file, isFile, rfl⟩ := Option.map_eq_some_iff.mp contents
  obtain ⟨inode, named, _⟩ := Option.map_eq_some_iff.mp isFile
  have renames := perform_rename_succeeds os.toHost middle spots.download_located
    spots.final_located (permits _ _) (kept.names.trans named)
  obtain ⟨_, moved, gone⟩ := perform_rename_moves os.toHost middle spots.download_located
    spots.final_located spots.final_ne_download.symm renames
  have clearedStill : (perform os.toHost middle
      (.rename (downloadOf (job.pathOf os.style entry)) (job.pathOf os.style entry))).2.disk.names
        digest = none := by
    refine (SameAt.names (perform_frame _ _ ?_)).trans cleared
    simp [Operation.Reaches, spots.download_located, spots.final_located,
      spots.download_ne_digest, spots.final_ne_digest]
  refine ⟨?_, ?_, ?_⟩
  · exact perform_setModified_file os.toHost _ _ spots.final_located (permits _ _)
      (moved.trans (kept.file.trans isFile))
  · rw [perform_setModified_names]
    exact gone
  · rw [perform_setModified_names]
    exact clearedStill

/-- Dropping a download leaves everything but the working files alone. -/
theorem removeDownloadFile_elsewhere
    (generic : job.type = .generic)
    (current : job.currentEntry = some entry)
    (spots : Spots os (job.pathOf os.style entry) final download digest)
    {location : Location}
    (notDownload : location ≠ download)
    (notDigest : location ≠ digest) :
    SameAt volume (job.removeDownloadFile os volume) location := by
  have dropped : job.removeDownloadFile os volume =
      (perform os.toHost
        (perform os.toHost volume (.remove (downloadOf (job.pathOf os.style entry)))).2
        (.remove (digestOf (job.pathOf os.style entry)))).2 := by
    simp [removeDownloadFile, generic, current]
  rw [dropped]
  refine (perform_frame _ _ ?_).trans (perform_frame _ _ ?_)
  · simpa [Operation.Reaches, spots.download_located] using notDownload.symm
  · simpa [Operation.Reaches, spots.digest_located] using notDigest.symm

/-- Dropping a download brings no file into being. -/
theorem removeDownloadFile_absent
    {location : Location}
    (absent : volume.disk.names location = none) :
    (job.removeDownloadFile os volume).disk.names location = none := by
  unfold removeDownloadFile
  split
  · exact absent
  · exact absent
  · exact perform_remove_absent _ _ (perform_remove_absent _ _ absent _) _

theorem removeDownloadFile_of_none
    (current : job.currentEntry = none) :
    job.removeDownloadFile os volume = volume := by
  unfold removeDownloadFile
  rw [current]
  cases job.type <;> rfl

/-- Flushing succeeds and changes nothing. -/
theorem syncAll_steady
    (steady : Steady os)
    (stream : Option Handle)
    (volume : Volume String Location) :
    (syncAll os stream volume).1 = .ok () ∧
      (syncAll os stream volume).2.disk = volume.disk := by
  cases stream with
  | none => exact ⟨rfl, rfl⟩
  | some handle =>
      have synced := perform_of_apply os.toHost volume (steady.sync volume.log handle)
        (show Operation.apply os.toHost volume.log volume.disk (.sync handle) =
          some volume.disk from rfl)
      simp [syncAll, synced]

/-- Clearing a digest succeeds and leaves everything else alone. -/
theorem clearDigest_steady
    (steady : Steady os)
    {digestPath : String}
    (located : os.locate digestPath = some digest)
    (volume : Volume String Location) :
    (clearDigest os digestPath volume).1 = .ok () ∧
      (∀ location, location ≠ digest →
        SameAt volume (clearDigest os digestPath volume).2 location) ∧
      (clearDigest os digestPath volume).2.disk.names digest = none := by
  have looked : (perform os.toHost volume (.stat digestPath)).2.disk = volume.disk :=
    perform_stat_disk ..
  have found := perform_stat os volume steady located
  cases named : volume.disk.names digest with
  | none =>
      have missing : (perform os.toHost volume (.stat digestPath)).1 = false := by
        rw [found, named]
        rfl
      simp only [clearDigest, missing]
      exact ⟨rfl, fun location _ => .of_disk looked location, by simp [named]⟩
  | some inode =>
      have present : (perform os.toHost volume (.stat digestPath)).1 = true := by
        rw [found, named]
        rfl
      have removed := perform_remove_succeeds os.toHost
        (perform os.toHost volume (.stat digestPath)).2 located (steady.remove _ _)
        (by rw [looked]; exact named)
      simp only [clearDigest, present, if_true, removed]
      refine ⟨trivial, ?_, perform_remove os.toHost _ located (steady.remove _ _)⟩
      intro location notDigest
      refine (SameAt.of_disk looked location).trans (perform_frame _ _ ?_)
      simpa [Operation.Reaches, located] using notDigest.symm

/-- Creating a stream succeeds with an empty file and leaves everything else alone. -/
theorem createStream_steady
    (steady : Steady os)
    {path : String}
    (located : os.locate path = some download)
    (job : TransferJob)
    (volume : Volume String Location) :
    ∃ inode, (createStream os job path volume).result = .ok () ∧
      (createStream os job path volume).job =
        { job with dataStream := some ⟨inode, 0, true⟩ } ∧
      (createStream os job path volume).volume.disk.names download = some inode ∧
      (createStream os job path volume).volume.disk.bytes download = some [] ∧
      ∀ location, location ≠ download →
        SameAt volume (createStream os job path volume).volume location := by
  obtain ⟨created, inode, named, empty⟩ :=
    perform_create os.toHost volume located (steady.create volume.log path)
  have opened : openedAt os.toHost (perform os.toHost volume (.create path)).2 path true =
      some ⟨inode, 0, true⟩ := by
    simp [openedAt, located, named]
  simp only [createStream, created, if_true, opened]
  refine ⟨inode, trivial, rfl, named, empty, ?_⟩
  intro location notDownload
  refine perform_frame _ _ ?_
  simpa [Operation.Reaches, located] using notDownload.symm

/-- A new download is empty and open, and only the working files of its file changed. -/
theorem startDownload_steady
    (job : TransferJob)
    (steady : Steady os)
    (spots : Spots os (job.pathOf os.style entry) final download digest)
    (volume : Volume String Location) :
    ∃ inode, (startDownload os job entry volume).result = .ok () ∧
      (startDownload os job entry volume).job =
        { job with dataStream := some ⟨inode, 0, true⟩ } ∧
      (startDownload os job entry volume).volume.disk.names download = some inode ∧
      (startDownload os job entry volume).volume.disk.bytes download = some [] ∧
      ∀ location, location ≠ download → location ≠ digest →
        SameAt volume (startDownload os job entry volume).volume location := by
  let path := job.pathOf os.style entry
  let made := (perform os.toHost volume (.makeParent path)).2
  have madeDisk : made.disk = volume.disk := perform_makeParent_disk ..
  obtain ⟨cleared, clearedElsewhere, _⟩ := clearDigest_steady steady spots.digest_located made
  let clear := (clearDigest os (digestOf path) made).2
  obtain ⟨inode, created, jobAfter, named, empty, createdElsewhere⟩ :=
    createStream_steady steady spots.download_located job clear
  let stream := createStream os job (downloadOf path) clear
  have saved : ∀ location, location ≠ digest →
      SameAt stream.volume (perform os.toHost stream.volume
        (.save (digestOf path) (digestJson job.digest))).2 location := by
    intro location notDigest
    refine perform_frame _ _ ?_
    simpa [Operation.Reaches, path, spots.digest_located] using notDigest.symm
  have unfolded : startDownload os job entry volume =
      { stream with
        volume := (perform os.toHost stream.volume
          (.save (digestOf path) (digestJson job.digest))).2 } := by
    simp only [startDownload]
    rw [show (clearDigest os (digestOf (job.pathOf os.style entry))
      (perform os.toHost volume (.makeParent (job.pathOf os.style entry))).2).1 = .ok () from
        cleared]
    simp only
    rw [show (createStream os job (downloadOf (job.pathOf os.style entry))
      (clearDigest os (digestOf (job.pathOf os.style entry))
        (perform os.toHost volume (.makeParent (job.pathOf os.style entry))).2).2).result =
          .ok () from created]
  have keptDownload := saved download spots.download_ne_digest
  rw [unfolded]
  refine ⟨inode, created, jobAfter, keptDownload.names.trans named,
    keptDownload.bytes.trans empty, ?_⟩
  intro location notDownload notDigest
  exact ((SameAt.of_disk madeDisk location).trans (clearedElsewhere location notDigest)).trans
    ((createdElsewhere location notDownload).trans (saved location notDigest))

/-- A block for another file publishes the current one and starts a new download. -/
theorem openFile_steady
    (steady : Steady os)
    (generic : job.type = .generic)
    (spots : Spots os (job.pathOf os.style entry) final download digest)
    (fileNum : Int)
    (volume : Volume String Location) :
    ∃ inode, (job.openFile os fileNum entry volume).result = .ok () ∧
      (job.openFile os fileNum entry volume).job =
        { job with fileNum := fileNum, dataStream := some ⟨inode, 0, true⟩ } ∧
      (job.openFile os fileNum entry volume).volume.disk.names download = some inode ∧
      (job.openFile os fileNum entry volume).volume.disk.bytes download = some [] ∧
      ∀ location, location ≠ download → location ≠ digest →
        SameAt (job.modifyTime os volume) (job.openFile os fileNum entry volume).volume
          location := by
  obtain ⟨synced, syncedDisk⟩ :=
    syncAll_steady steady job.dataStream (job.modifyTime os volume)
  have unfolded : job.openFile os fileNum entry volume =
      startDownload os { job with fileNum := fileNum } entry
        (syncAll os job.dataStream (job.modifyTime os volume)).2 := by
    simp only [openFile, synced, generic]
  rw [unfolded]
  obtain ⟨inode, result, jobAfter, named, empty, elsewhere⟩ :=
    startDownload_steady { job with fileNum := fileNum } steady spots
      (syncAll os job.dataStream (job.modifyTime os volume)).2
  refine ⟨inode, result, jobAfter, named, empty, ?_⟩
  intro location notDownload notDigest
  exact (SameAt.of_disk syncedDisk location).trans (elsewhere location notDownload notDigest)

/-- Writing to an own download goes over what is there and leaves everything else alone. -/
theorem writeData_at
    (job : TransferJob)
    (volume : Volume String Location)
    (codec : Codec)
    (steady : Steady os)
    {stream : Handle}
    {bytes : List UInt8}
    (streaming : job.dataStream = some stream)
    (writable : stream.writable = true)
    (named : volume.disk.names download = some stream.inode)
    (contents : volume.disk.bytes download = some bytes)
    (block : FileTransferBlock) :
    (writeData os codec job block volume).result = .ok () ∧
      (writeData os codec job block volume).job.dataStream =
        some { stream with position := stream.position + (payload codec block).length } ∧
      (writeData os codec job block volume).job.fileNum = job.fileNum ∧
      (writeData os codec job block volume).volume.disk.names = volume.disk.names ∧
      (writeData os codec job block volume).volume.disk.bytes download =
        some (overwrite bytes stream.position (payload codec block)) ∧
      ∀ location, location ≠ download →
        SameAt volume (writeData os codec job block volume).volume location := by
  obtain ⟨written, after⟩ := perform_write_at os.toHost volume (payload codec block)
    (steady.write volume.log stream (payload codec block)) writable named contents
  simp only [writeData, streaming, written, if_true]
  refine ⟨trivial, trivial, trivial, perform_write_names .., after, ?_⟩
  intro location notDownload
  refine perform_frame _ _ ?_
  intro reaches
  exact notDownload (volume.disk.single location download stream.inode reaches named)

/-- Writing to an own download appends and leaves everything else alone. -/
theorem writeData_steady
    (job : TransferJob)
    (volume : Volume String Location)
    (codec : Codec)
    (steady : Steady os)
    {stream : Handle}
    {bytes : List UInt8}
    (streaming : job.dataStream = some stream)
    (writable : stream.writable = true)
    (named : volume.disk.names download = some stream.inode)
    (contents : volume.disk.bytes download = some bytes)
    (atEnd : stream.position = bytes.length)
    (block : FileTransferBlock) :
    (writeData os codec job block volume).result = .ok () ∧
      (writeData os codec job block volume).job.dataStream =
        some { stream with position := (bytes ++ payload codec block).length } ∧
      (writeData os codec job block volume).job.fileNum = job.fileNum ∧
      (writeData os codec job block volume).volume.disk.names = volume.disk.names ∧
      (writeData os codec job block volume).volume.disk.bytes download =
        some (bytes ++ payload codec block) ∧
      ∀ location, location ≠ download →
        SameAt volume (writeData os codec job block volume).volume location := by
  obtain ⟨succeeds, streamAfter, number, names, after, elsewhere⟩ :=
    writeData_at job volume codec steady streaming writable named contents block
  rw [atEnd, ← List.length_append] at streamAfter
  rw [atEnd, overwrite_length] at after
  exact ⟨succeeds, streamAfter, number, names, after, elsewhere⟩

/-- A block for the open file is written to it. -/
theorem write_of_streaming
    {block : FileTransferBlock}
    (own : block.id = job.id)
    (found : job.files[asUsize block.fileNum]? = some entry)
    (streaming : ¬job.Opens block.fileNum) :
    job.write os codec block volume = writeData os codec job block volume := by
  simp only [write, own, ne_eq, not_true, if_false, found]
  exact if_neg streaming

/-- A block that opens its file is written once that file is open. -/
theorem write_of_opening
    {block : FileTransferBlock}
    (own : block.id = job.id)
    (found : job.files[asUsize block.fileNum]? = some entry)
    (opens : job.Opens block.fileNum)
    (succeeds : (job.openFile os block.fileNum entry volume).result = .ok ()) :
    job.write os codec block volume =
      writeData os codec (job.openFile os block.fileNum entry volume).job block
        (job.openFile os block.fileNum entry volume).volume := by
  simp only [write, own, ne_eq, not_true, if_false, found]
  rw [if_pos opens, succeeds]

/-- Opening a file that is there for writing changes nothing on the disk. -/
theorem openAt_steady
    (job : TransferJob)
    (volume : Volume String Location)
    (steady : Steady os)
    {path : String}
    {inode : Nat}
    (located : os.locate path = some download)
    (named : volume.disk.names download = some inode)
    (offset : Nat) :
    (job.openAt os path true offset volume).1 = job.seekTo (some ⟨inode, 0, true⟩) offset ∧
      (job.openAt os path true offset volume).2.disk = volume.disk := by
  have opened := perform_of_apply os.toHost volume (steady.openWrite volume.log path)
    (show Operation.apply os.toHost volume.log volume.disk (.openWrite path) =
      some volume.disk by simp [Operation.apply, located, named])
  have handle : openedAt os.toHost ⟨volume.disk, volume.log ++ [(.openWrite path, true)]⟩
      path true = some ⟨inode, 0, true⟩ := by
    simp [openedAt, located, named]
  simp only [openAt, openOperation, opened, if_true, handle, and_self]

theorem bothExist_steady
    (steady : Steady os)
    {path : String}
    (spots : Spots os path final download digest)
    {inode digestInode : Nat}
    (named : volume.disk.names download = some inode)
    (digestNamed : volume.disk.names digest = some digestInode) :
    (bothExist os path volume).1 = true ∧ (bothExist os path volume).2.disk = volume.disk := by
  have looked : (perform os.toHost volume (.stat (downloadOf path))).2.disk = volume.disk :=
    perform_stat_disk ..
  have first : (perform os.toHost volume (.stat (downloadOf path))).1 = true := by
    rw [perform_stat os volume steady spots.download_located, named]
    rfl
  simp only [bothExist, first, if_true]
  refine ⟨?_, (perform_stat_disk ..).trans looked⟩
  rw [perform_stat os _ steady spots.digest_located, looked, digestNamed]
  rfl

/-- A resumed file goes on in the download that is there. -/
theorem setStreamOffset_steady
    (job : TransferJob)
    (steady : Steady os)
    {number inode digestInode : Nat}
    (found : job.files[number]? = some entry)
    (spots : Spots os (job.pathOf os.style entry) final download digest)
    (named : volume.disk.names download = some inode)
    (digestNamed : volume.disk.names digest = some digestInode)
    (offset : Nat) :
    ∃ after, job.setStreamOffset os number offset volume =
        some (job.seekTo (some ⟨inode, 0, true⟩) offset, after) ∧
      after.disk = volume.disk := by
  obtain ⟨both, looked⟩ := bothExist_steady steady spots named digestNamed
  obtain ⟨sought, opened⟩ := openAt_steady job
    (bothExist os (job.pathOf os.style entry) volume).2 steady spots.download_located
    (by rw [looked]; exact named) offset
  refine ⟨_, ?_, opened.trans looked⟩
  simp only [setStreamOffset, found, Option.map_some, both, if_true]
  rw [← sought]

end TransferJob

section CheckDigest

variable (os : Os Location) (codec : Codec) (volume : Volume String Location)

theorem compareFile_disk (path : String) (digest : FileTransferDigest) :
    (compareFile os path digest volume).2.disk = volume.disk := by
  have looked : (metadata os volume path).2.disk = volume.disk := perform_stat_disk ..
  unfold compareFile
  dsimp only
  split
  · exact looked
  · split
    · exact looked
    · exact looked

theorem resumable_disk (path : String) (digest : FileTransferDigest) :
    (resumable os codec path digest volume).2.disk = volume.disk := by
  rw [resumable_volume]
  exact (perform_stat_disk ..).trans (perform_stat_disk ..)

/-- Checking a digest looks at the disk and no more. -/
theorem checkDigest_disk
    (job : TransferJob)
    (fileNum : Int)
    (fileSize lastModified : Nat)
    (isUpload isResume : Bool) :
    (checkDigest os codec job fileNum fileSize lastModified isUpload isResume volume).2.1.disk =
      volume.disk := by
  have checked : ∀ path digest,
      (isWriteNeedConfirmation os codec isResume path digest volume).2.disk = volume.disk := by
    intro path digest
    unfold isWriteNeedConfirmation
    dsimp only
    split
    · split
      · exact resumable_disk ..
      · exact (compareFile_disk ..).trans (resumable_disk ..)
    · exact compareFile_disk ..
  unfold checkDigest
  dsimp only
  split
  · rfl
  · split
    · exact checked _ _
    · exact checked _ _

/-- Checking a digest leaves the current file and the stream of a job alone. -/
theorem checkDigest_job
    (job : TransferJob)
    (fileNum : Int)
    (fileSize lastModified : Nat)
    (isUpload isResume : Bool) :
    ∃ digest, (checkDigest os codec job fileNum fileSize lastModified isUpload isResume
      volume).1 = { job with digest := digest } := by
  unfold checkDigest
  dsimp only
  split
  · exact ⟨job.digest, rfl⟩
  · split
    · exact ⟨_, rfl⟩
    · exact ⟨job.digest, rfl⟩

end CheckDigest

end Fs
end OneDesk
