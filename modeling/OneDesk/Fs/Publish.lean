import OneDesk.Fs.Effects

/-!
# Published only when whole

`modify_time` renames the download of whatever file is current onto its final
path: at the first block, at every change of file and at the end of the job.
That download need not be the one the job wrote.  This module says which runs
publish nothing but whole files, and shows one that does not.
-/

namespace OneDesk
namespace Fs

open Lib

variable {Location : Type} [DecidableEq Location]

/-- What a job was sent: of each file the bytes that a resumed transfer kept, and the bytes of
its blocks once there are any. -/
structure Receipt where
  kept : Nat → List UInt8
  sent : Nat → Option (List UInt8)

/-- Nothing was sent yet. -/
def Receipt.start : Receipt :=
  ⟨fun _ => [], fun _ => none⟩

/-- The complete data of a file that has blocks. -/
def Receipt.whole (receipt : Receipt) (number : Nat) : Option (List UInt8) :=
  (receipt.sent number).map fun data => receipt.kept number ++ data

/-- A block that opens a file starts its data, any other one goes on with it. -/
def Receipt.addBlock
    (receipt : Receipt)
    (number : Nat)
    (opens : Bool)
    (data : List UInt8) : Receipt where
  kept := if opens then Function.update receipt.kept number [] else receipt.kept
  sent := Function.update receipt.sent number
    (some (if opens then data else (receipt.sent number).getD [] ++ data))

/-- A resumed file starts from the bytes that are there. -/
def Receipt.resume
    (receipt : Receipt)
    (number : Nat)
    (bytes : List UInt8) : Receipt where
  kept := Function.update receipt.kept number bytes
  sent := Function.update receipt.sent number ((receipt.sent number).map fun _ => [])

/-- Keep account of a message. -/
def Receipt.step
    (os : Os Location)
    (codec : Codec)
    (manager : Manager Location)
    (receipt : Receipt)
    (event : FsEvent) : Receipt :=
  if manager.panicked then receipt
  else
    match event with
    | .writeBlock id fileNum data compressed =>
        match getJob id manager.writeJobs with
        | none => receipt
        | some job =>
            if asUsize fileNum < job.files.length then
              receipt.addBlock (asUsize fileNum) (job.Opens fileNum)
                (TransferJob.payload codec ⟨id, fileNum, data, compressed⟩)
            else receipt
    | .sendConfirm request =>
        match getJob request.id manager.writeJobs, request.union with
        | some job, some (.offsetBlk offset) =>
            if job.fileNum = request.fileNum ∧ 0 < offset then
              match (spot os job .download (asUsize request.fileNum)).bind
                  manager.volume.disk.bytes with
              | some bytes => receipt.resume (asUsize request.fileNum) (bytes.take offset.toNat)
              | none => receipt
            else receipt
        | _, _ => receipt
    | _ => receipt

/-- The manager with the account of what it was sent. -/
abbrev Tracked (Location : Type) := Manager Location × Receipt

/-- One message seen by the manager and by the account. -/
def Tracked.step
    (os : Os Location)
    (codec : Codec)
    (state : Tracked Location)
    (event : FsEvent) : Tracked Location :=
  (state.1.step os codec event, state.2.step os codec state.1 event)

/-- The start of a job, with nothing sent. -/
def Tracked.start (job : TransferJob) (disk : Disk Location) : Tracked Location :=
  (Manager.start job disk, Receipt.start)

/-- At every moment of a run each final path holds what it held before the job, or the complete
data of its file. -/
def PublishedWhole
    (os : Os Location)
    (codec : Codec)
    (job : TransferJob)
    (disk : Disk Location)
    (events : List FsEvent) : Prop :=
  ∀ before after, events = before ++ after →
    ∀ number final, spot os job .final number = some final →
      let held := (run (Tracked.step os codec) (Tracked.start job disk) before).1.volume.disk.bytes
        final
      let account := (run (Tracked.step os codec) (Tracked.start job disk) events).2
      held = disk.bytes final ∨ ∃ data, account.whole number = some data ∧ held = some data

/-- The download of the current file may be published: there is none, or it is the file that
the stream of the job has written a block to. -/
def Publishable
    (os : Os Location)
    (job : TransferJob)
    (volume : Volume String Location)
    (receipt : Receipt) : Prop :=
  ∀ download ∈ spot os job .download (asUsize job.fileNum),
    volume.disk.names download = none ∨
      volume.disk.names download = job.dataStream.map Handle.inode ∧
        (receipt.sent (asUsize job.fileNum)).isSome

instance
    (os : Os Location)
    (job : TransferJob)
    (volume : Volume String Location)
    (receipt : Receipt) : Decidable (Publishable os job volume receipt) :=
  inferInstanceAs (Decidable (∀ download ∈ spot os job .download (asUsize job.fileNum), _))

/-- A file is resumed where its download ends, with its digest beside it. -/
def Resumes
    (os : Os Location)
    (job : TransferJob)
    (volume : Volume String Location)
    (number offset : Nat) : Prop :=
  number < job.files.length →
    ((spot os job .download number).bind volume.disk.bytes).map List.length = some offset ∧
      ((spot os job .digest number).bind volume.disk.names).isSome

instance
    (os : Os Location)
    (job : TransferJob)
    (volume : Volume String Location)
    (number offset : Nat) : Decidable (Resumes os job volume number offset) :=
  inferInstanceAs (Decidable (_ → _))

/-- The offset that a confirmation asks for. -/
def FileTransferSendConfirmRequest.offset
    (request : FileTransferSendConfirmRequest) : Option UInt32 :=
  match request.union with
  | some (.offsetBlk offset) => some offset
  | _ => none

/-- A message that does not lead a job astray: the blocks of a file come in one piece, a file is
published only if its download is the job's own, and a resumed file goes on where it ended. -/
def Careful
    (os : Os Location)
    (state : Tracked Location)
    (event : FsEvent) : Prop :=
  match event with
  | .newWrite .. => False
  | .writeBlock id fileNum _ _ =>
      ∀ job ∈ getJob id state.1.writeJobs, asUsize fileNum < job.files.length →
        job.Opens fileNum →
          state.2.sent (asUsize fileNum) = none ∧ Publishable os job state.1.volume state.2
  | .writeDone id _ =>
      ∀ job ∈ getJob id state.1.writeJobs, Publishable os job state.1.volume state.2
  | .sendConfirm request =>
      ∀ job ∈ getJob request.id state.1.writeJobs, job.fileNum = request.fileNum →
        ∀ offset ∈ request.offset, 0 < offset →
          Resumes os job state.1.volume (asUsize request.fileNum) offset.toNat
  | .cancelWrite _ | .writeError .. | .checkDigest .. => True

instance
    (os : Os Location)
    (state : Tracked Location) :
    (event : FsEvent) → Decidable (Careful os state event)
  | .newWrite .. => inferInstanceAs (Decidable False)
  | .writeBlock id fileNum _ _ =>
      inferInstanceAs (Decidable (∀ job ∈ getJob id state.1.writeJobs,
        asUsize fileNum < job.files.length → job.Opens fileNum →
          state.2.sent (asUsize fileNum) = none ∧ Publishable os job state.1.volume state.2))
  | .writeDone id _ =>
      inferInstanceAs (Decidable (∀ job ∈ getJob id state.1.writeJobs, _))
  | .sendConfirm request =>
      inferInstanceAs (Decidable (∀ job ∈ getJob request.id state.1.writeJobs,
        job.fileNum = request.fileNum → ∀ offset ∈ request.offset, 0 < offset → _))
  | .cancelWrite _ | .writeError .. | .checkDigest .. => inferInstanceAs (Decidable True)

/-- The open stream of a job is at the end of the download of its current file, which holds all
that was kept and sent of it. -/
def Streams
    (os : Os Location)
    (volume : Volume String Location)
    (receipt : Receipt)
    (job : TransferJob) : Prop :=
  ∀ stream, job.dataStream = some stream →
    ∃ download bytes, spot os job .download (asUsize job.fileNum) = some download ∧
      stream.writable = true ∧
      volume.disk.names download = some stream.inode ∧
      volume.disk.bytes download = some bytes ∧
      stream.position = bytes.length ∧
      bytes = receipt.kept (asUsize job.fileNum) ++
        (receipt.sent (asUsize job.fileNum)).getD []

/-- A file is closed: it has no download and no stream. -/
structure Closed
    (os : Os Location)
    (job : TransferJob)
    (manager : Manager Location)
    (number : Nat) : Prop where
  absent : ∀ download, spot os job .download number = some download →
    manager.volume.disk.names download = none
  unstreamed : ∀ current ∈ manager.writeJobs, asUsize current.fileNum = number →
    current.dataStream = none

section Publishing

variable {os : Os Location} {job : TransferJob} {volume : Volume String Location}
variable {receipt : Receipt}

/-- Publishing changes a final path only to the whole data of the current file. -/
theorem modifyTime_finals
    (separate : Separate os job)
    (generic : job.type = .generic)
    (publishable : Publishable os job volume receipt)
    (streams : Streams os volume receipt job)
    {number : Nat}
    {final : Location}
    (here : spot os job .final number = some final) :
    (job.modifyTime os volume).disk.bytes final = volume.disk.bytes final ∨
      (number = asUsize job.fileNum ∧ job.dataStream ≠ none ∧
        (∀ download, spot os job .download number = some download →
          (job.modifyTime os volume).disk.names download = none) ∧
        ∃ data, receipt.whole number = some data ∧
          (job.modifyTime os volume).disk.bytes final = some data) := by
  cases current : job.currentEntry with
  | none =>
      rw [TransferJob.modifyTime_of_none current]
      exact .inl rfl
  | some entry =>
      obtain ⟨currentFinal, download, digest, finalSpot, downloadSpot, digestSpot, spots⟩ :=
        separate.spots current
      by_cases same : number = asUsize job.fileNum
      · subst same
        obtain rfl : final = currentFinal := Option.some.inj (here.symm.trans finalSpot)
        rcases TransferJob.modifyTime_cases generic current spots with
            ⟨⟨inode, present⟩, gone, moved⟩ | ⟨_, kept⟩
        · right
          rcases publishable download downloadSpot with absent | ⟨ownStream, isSent⟩
          · rw [absent] at present
            cases present
          · obtain ⟨data, sent⟩ := Option.isSome_iff_exists.mp isSent
            obtain ⟨stream, streaming, _⟩ :=
              Option.map_eq_some_iff.mp (ownStream.symm.trans present)
            obtain ⟨found, bytes, foundSpot, _, _, contents, _, all⟩ := streams stream streaming
            obtain rfl : download = found := Option.some.inj (downloadSpot.symm.trans foundSpot)
            refine ⟨rfl, by simp [streaming], ?_, bytes, ?_, moved.trans contents⟩
            · intro other otherSpot
              obtain rfl : download = other := Option.some.inj (downloadSpot.symm.trans otherSpot)
              exact gone
            · rw [all, sent]
              simp [Receipt.whole, sent]
        · exact .inl kept
      · left
        exact (TransferJob.modifyTime_elsewhere generic current spots
          (separate.ne here finalSpot (.inr same))
          (separate.ne here downloadSpot (.inl (by decide)))
          (separate.ne here digestSpot (.inl (by decide)))).bytes

/-- Publishing brings no download into being. -/
theorem modifyTime_absent
    (separate : Separate os job)
    (generic : job.type = .generic)
    {number : Nat}
    {download : Location}
    (here : spot os job .download number = some download)
    (absent : volume.disk.names download = none) :
    (job.modifyTime os volume).disk.names download = none := by
  cases current : job.currentEntry with
  | none => rwa [TransferJob.modifyTime_of_none current]
  | some entry =>
      obtain ⟨final, currentDownload, digest, finalSpot, downloadSpot, digestSpot, spots⟩ :=
        separate.spots current
      by_cases same : number = asUsize job.fileNum
      · subst same
        obtain rfl : download = currentDownload := Option.some.inj (here.symm.trans downloadSpot)
        rcases TransferJob.modifyTime_cases generic current spots with
            ⟨⟨inode, present⟩, _⟩ | ⟨kept, _⟩
        · rw [absent] at present
          cases present
        · exact kept.names.trans absent
      · exact (TransferJob.modifyTime_elsewhere generic current spots
          (separate.ne here finalSpot (.inl (by decide)))
          (separate.ne here downloadSpot (.inr same))
          (separate.ne here digestSpot (.inl (by decide)))).names.trans absent

/-- A file is published: it is closed and its final path holds its complete data. -/
def Published
    (os : Os Location)
    (job : TransferJob)
    (state : Tracked Location)
    (number : Nat)
    (final : Location) : Prop :=
  Closed os job state.1 number ∧
    ∃ data, state.2.whole number = some data ∧ state.1.volume.disk.bytes final = some data

/-- What a careful message does to the files of a job: a final path keeps its contents or is
published, and a closed file that was sent stays closed and is sent no more. -/
structure Advances (os : Os Location) (job : TransferJob) (before after : Tracked Location) :
    Prop where
  finals : ∀ number final, spot os job .final number = some final →
    after.1.volume.disk.bytes final = before.1.volume.disk.bytes final ∨
      Published os job after number final
  closed : ∀ number, Closed os job before.1 number → before.2.sent number ≠ none →
    Closed os job after.1 number ∧ after.2.kept number = before.2.kept number ∧
      after.2.sent number = before.2.sent number

/-- A message that changes no file and no account and lets no stream go on advances a job. -/
theorem Advances.of_disk
    {state : Tracked Location}
    {manager : Manager Location}
    (same : manager.volume.disk = state.1.volume.disk)
    (jobs : ∀ after ∈ manager.writeJobs, after.dataStream = none ∨
      ∃ before ∈ state.1.writeJobs, after.fileNum = before.fileNum ∧
        after.dataStream = before.dataStream) :
    Advances os job state (manager, state.2) := by
  constructor
  · intro number final _
    exact .inl (by rw [same])
  · intro number closed _
    refine ⟨⟨?_, ?_⟩, rfl, rfl⟩
    · intro download here
      rw [same]
      exact closed.absent download here
    · intro after member current
      rcases jobs after member with unstreamed | ⟨before, inside, sameNumber, sameStream⟩
      · exact unstreamed
      · rw [sameStream]
        exact closed.unstreamed before inside (by rw [← sameNumber]; exact current)

/-- A block for the open file goes to its download. -/
theorem write_streaming_advances
    (codec : Codec)
    (block : FileTransferBlock)
    {entry : FileEntry}
    (separate : Separate os job)
    (steady : Steady os)
    (streams : Streams os volume receipt job)
    (own : block.id = job.id)
    (found : job.files[asUsize block.fileNum]? = some entry)
    (streaming : ¬job.Opens block.fileNum) :
    Streams os (job.write os codec block volume).volume
        (receipt.addBlock (asUsize block.fileNum) false (TransferJob.payload codec block))
        (job.write os codec block volume).job ∧
      Advances os job (⟨[job], volume, false⟩, receipt)
        (⟨[(job.write os codec block volume).job], (job.write os codec block volume).volume, false⟩,
          receipt.addBlock (asUsize block.fileNum) false (TransferJob.payload codec block)) := by
  rw [TransferJob.write_of_streaming own found streaming]
  simp only [TransferJob.Opens, not_or, not_not] at streaming
  obtain ⟨current, isOpen⟩ := streaming
  obtain ⟨stream, streamed⟩ := Option.ne_none_iff_exists'.mp isOpen
  obtain ⟨download, bytes, here, writable, named, contents, atEnd, all⟩ := streams stream streamed
  obtain ⟨_, streamAfter, numberAfter, names, appended, elsewhere⟩ :=
    TransferJob.writeData_steady job volume codec steady streamed writable named contents atEnd
      block
  have setup := TransferJob.writeData_setup os codec job volume block
  constructor
  · intro opened isStream
    rw [streamAfter] at isStream
    obtain rfl := Option.some.inj isStream
    refine ⟨download, bytes ++ TransferJob.payload codec block, ?_, writable, ?_, appended, rfl, ?_⟩
    · rw [numberAfter, setup.spot_eq]
      exact here
    · rw [names]
      exact named
    · rw [numberAfter, ← current]
      rw [← current] at all
      simp [Receipt.addBlock, all]
  · constructor
    · intro number final finalSpot
      exact .inl (elsewhere final (separate.ne finalSpot here (.inl (by decide)))).bytes
    · intro number closed _
      have other : number ≠ asUsize block.fileNum := by
        rintro rfl
        have unstreamed := closed.unstreamed job (by simp) current.symm
        exact isOpen unstreamed
      refine ⟨⟨?_, ?_⟩, by simp [Receipt.addBlock], by simp [Receipt.addBlock, other]⟩
      · intro closedDownload closedSpot
        simp only [names]
        exact closed.absent closedDownload closedSpot
      · intro after member isCurrent
        obtain rfl := List.mem_singleton.mp member
        rw [numberAfter, ← current] at isCurrent
        exact absurd isCurrent.symm other

/-- A block that opens a file publishes the current one and starts the download of its own. -/
theorem write_opening_advances
    (codec : Codec)
    (block : FileTransferBlock)
    {entry : FileEntry}
    (separate : Separate os job)
    (generic : job.type = .generic)
    (steady : Steady os)
    (streams : Streams os volume receipt job)
    (publishable : Publishable os job volume receipt)
    (own : block.id = job.id)
    (found : job.files[asUsize block.fileNum]? = some entry)
    (opens : job.Opens block.fileNum)
    (fresh : receipt.sent (asUsize block.fileNum) = none) :
    Streams os (job.write os codec block volume).volume
        (receipt.addBlock (asUsize block.fileNum) true (TransferJob.payload codec block))
        (job.write os codec block volume).job ∧
      Advances os job (⟨[job], volume, false⟩, receipt)
        (⟨[(job.write os codec block volume).job], (job.write os codec block volume).volume, false⟩,
          receipt.addBlock (asUsize block.fileNum) true (TransferJob.payload codec block)) := by
  obtain ⟨_, download, digest, _, here, digestSpot, spots⟩ := separate.spots found
  obtain ⟨inode, succeeds, opened, named, empty, openElsewhere⟩ :=
    TransferJob.openFile_steady steady generic spots block.fileNum volume
  rw [TransferJob.write_of_opening own found opens succeeds, opened]
  obtain ⟨_, streamAfter, numberAfter, names, appended, writeElsewhere⟩ :=
    TransferJob.writeData_steady
      { job with fileNum := block.fileNum, dataStream := some ⟨inode, 0, true⟩ }
      (job.openFile os block.fileNum entry volume).volume codec steady rfl rfl named empty rfl block
  have setup : TransferJob.SameSetup job
      { job with fileNum := block.fileNum, dataStream := some ⟨inode, 0, true⟩ } :=
    ⟨rfl, rfl, rfl, rfl, rfl, rfl⟩
  have setupAfter := setup.trans (TransferJob.writeData_setup os codec _
    (job.openFile os block.fileNum entry volume).volume block)
  have elsewhere : ∀ location, location ≠ download → location ≠ digest →
      SameAt (job.modifyTime os volume) _ location := fun location notDownload notDigest =>
    (openElsewhere location notDownload notDigest).trans (writeElsewhere location notDownload)
  have absentAfter : ∀ number other, number ≠ asUsize block.fileNum →
      spot os job .download number = some other →
      (job.modifyTime os volume).disk.names other = none →
      (TransferJob.writeData os codec
        { job with fileNum := block.fileNum, dataStream := some ⟨inode, 0, true⟩ } block
        (job.openFile os block.fileNum entry volume).volume).volume.disk.names other = none := by
    intro number other differs otherSpot absent
    exact (elsewhere other (separate.ne otherSpot here (.inr differs))
      (separate.ne otherSpot digestSpot (.inl (by decide)))).names.trans absent
  constructor
  · intro stream isStream
    rw [streamAfter] at isStream
    obtain rfl := Option.some.inj isStream
    refine ⟨download, [] ++ TransferJob.payload codec block, ?_, rfl, ?_, appended, rfl, ?_⟩
    · rw [numberAfter, setupAfter.spot_eq]
      exact here
    · rw [names]
      exact named
    · rw [numberAfter]
      simp [Receipt.addBlock]
  · constructor
    · intro number final finalSpot
      have kept := (elsewhere final (separate.ne finalSpot here (.inl (by decide)))
        (separate.ne finalSpot digestSpot (.inl (by decide)))).bytes
      rcases modifyTime_finals separate generic publishable streams finalSpot with
          same | ⟨isCurrent, streaming, gone, data, whole, published⟩
      · exact .inl (kept.trans same)
      · -- the published file had a stream, so the block is for another one
        have differs : number ≠ asUsize block.fileNum := by
          rintro rfl
          rcases opens with other | none
          · exact other isCurrent
          · exact streaming none
        right
        refine ⟨⟨?_, ?_⟩, data, ?_, kept.trans published⟩
        · intro other otherSpot
          exact absentAfter number other differs otherSpot (gone other otherSpot)
        · intro after member afterCurrent
          obtain rfl := List.mem_singleton.mp member
          rw [numberAfter] at afterCurrent
          exact absurd afterCurrent.symm differs
        · simpa [Receipt.whole, Receipt.addBlock, differs] using whole
    · intro number closed sent
      have differs : number ≠ asUsize block.fileNum := by
        rintro rfl
        exact sent fresh
      refine ⟨⟨?_, ?_⟩, by simp [Receipt.addBlock, differs], by simp [Receipt.addBlock, differs]⟩
      · intro other otherSpot
        exact absentAfter number other differs otherSpot
          (modifyTime_absent separate generic otherSpot (closed.absent other otherSpot))
      · intro after member afterCurrent
        obtain rfl := List.mem_singleton.mp member
        rw [numberAfter] at afterCurrent
        exact absurd afterCurrent.symm differs

/-- The end of a job publishes its current file. -/
theorem modifyTime_advances
    (separate : Separate os job)
    (generic : job.type = .generic)
    (streams : Streams os volume receipt job)
    (publishable : Publishable os job volume receipt) :
    Advances os job (⟨[job], volume, false⟩, receipt)
      (⟨[], job.modifyTime os volume, false⟩, receipt) := by
  constructor
  · intro number final finalSpot
    rcases modifyTime_finals separate generic publishable streams finalSpot with
        same | ⟨_, _, gone, data, whole, published⟩
    · exact .inl same
    · exact .inr ⟨⟨gone, by simp⟩, data, whole, published⟩
  · intro number closed _
    exact ⟨⟨fun download here => modifyTime_absent separate generic here
      (closed.absent download here), by simp⟩, rfl, rfl⟩

/-- A cancelled job drops its download. -/
theorem removeDownloadFile_advances
    (separate : Separate os job)
    (generic : job.type = .generic) :
    Advances os job (⟨[job], volume, false⟩, receipt)
      (⟨[], job.removeDownloadFile os volume, false⟩, receipt) := by
  constructor
  · intro number final finalSpot
    left
    cases current : job.currentEntry with
    | none => simp only [TransferJob.removeDownloadFile_of_none current]
    | some entry =>
        obtain ⟨_, _, _, _, downloadSpot, digestSpot, spots⟩ := separate.spots current
        exact (TransferJob.removeDownloadFile_elsewhere generic current spots
          (separate.ne finalSpot downloadSpot (.inl (by decide)))
          (separate.ne finalSpot digestSpot (.inl (by decide)))).bytes
  · intro number closed _
    exact ⟨⟨fun download here => TransferJob.removeDownloadFile_absent
      (closed.absent download here), by simp⟩, rfl, rfl⟩

/-- A resumed file goes on where its download ends. -/
theorem resume_advances
    (receipt : Receipt)
    {download : Location}
    {bytes : List UInt8}
    {inode offset : Nat}
    (here : spot os job .download (asUsize job.fileNum) = some download)
    (named : volume.disk.names download = some inode)
    (contents : volume.disk.bytes download = some bytes)
    (atEnd : bytes.length = offset)
    {after : Volume String Location}
    (same : after.disk = volume.disk) :
    Streams os after (receipt.resume (asUsize job.fileNum) (bytes.take offset))
        ((job.setFileConfirmed true).seekTo (some ⟨inode, 0, true⟩) offset) ∧
      Advances os job (⟨[job], volume, false⟩, receipt)
        (⟨[(job.setFileConfirmed true).seekTo (some ⟨inode, 0, true⟩) offset], after, false⟩,
          receipt.resume (asUsize job.fileNum) (bytes.take offset)) := by
  have setup : TransferJob.SameSetup job
      ((job.setFileConfirmed true).seekTo (some ⟨inode, 0, true⟩) offset) :=
    (TransferJob.setFileConfirmed_setup job true).trans (TransferJob.seekTo_setup ..)
  have whole : bytes.take offset = bytes := by
    rw [← atEnd, List.take_length]
  constructor
  · intro stream isStream
    obtain rfl := Option.some.inj isStream
    refine ⟨download, bytes, ?_, rfl, ?_, ?_, atEnd.symm, ?_⟩
    · rw [setup.spot_eq]
      exact here
    · rw [same]
      exact named
    · rw [same]
      exact contents
    · have forgotten : ((receipt.sent (asUsize job.fileNum)).map fun _ => []).getD [] =
          ([] : List UInt8) := by
        cases receipt.sent (asUsize job.fileNum) <;> rfl
      rw [show asUsize ((job.setFileConfirmed true).seekTo (some ⟨inode, 0, true⟩) offset).fileNum =
        asUsize job.fileNum from rfl]
      simp [Receipt.resume, whole, forgotten]
  · constructor
    · intro number final _
      exact .inl (by simp only [same])
    · intro number closed _
      have differs : number ≠ asUsize job.fileNum := by
        rintro rfl
        have absent := closed.absent download here
        simp only [named] at absent
        cases absent
      refine ⟨⟨?_, ?_⟩, by simp [Receipt.resume, differs], by simp [Receipt.resume, differs]⟩
      · intro other otherSpot
        simp only [same]
        exact closed.absent other otherSpot
      · intro current member isCurrent
        obtain rfl := List.mem_singleton.mp member
        exact absurd isCurrent.symm differs

end Publishing

/-- What is left of a job after a message. -/
def Left (os : Os Location) (job : TransferJob) (state : Tracked Location) : Prop :=
  state.1.writeJobs = [] ∨ ∃ current, state.1.writeJobs = [current] ∧
    TransferJob.SameSetup job current ∧ Streams os state.1.volume state.2 current

/-- The invariant of a careful run: the job that is left streams its own download, and every
final path holds what it held before or is published. -/
structure Sound
    (os : Os Location)
    (job : TransferJob)
    (disk : Disk Location)
    (state : Tracked Location) : Prop where
  left : Left os job state
  finals : ∀ number final, spot os job .final number = some final →
    state.1.volume.disk.bytes final = disk.bytes final ∨ Published os job state number final

section Step

variable {os : Os Location} {codec : Codec} {job current : TransferJob} {disk : Disk Location}
variable {state : Tracked Location} {event : FsEvent}

/-- What advances the current state of a job advances the job. -/
theorem Advances.of_setup
    {before after : Tracked Location}
    (advances : Advances os current before after)
    (same : TransferJob.SameSetup job current) :
    Advances os job before after := by
  have closed_iff : ∀ manager number,
      Closed os current manager number ↔ Closed os job manager number := by
    intro manager number
    constructor
    · intro closed
      exact ⟨fun download here => closed.absent download (by rwa [same.spot_eq]),
        closed.unstreamed⟩
    · intro closed
      exact ⟨fun download here => closed.absent download (by rwa [same.spot_eq] at here),
        closed.unstreamed⟩
  constructor
  · intro number final here
    rcases advances.finals number final (by rwa [same.spot_eq]) with kept | ⟨closed, published⟩
    · exact .inl kept
    · exact .inr ⟨(closed_iff _ _).mp closed, published⟩
  · intro number closed sent
    obtain ⟨closedAfter, accounts⟩ :=
      advances.closed number ((closed_iff _ _).mpr closed) sent
    exact ⟨(closed_iff _ _).mp closedAfter, accounts⟩

/-- Advancing keeps the final paths in order. -/
theorem Sound.finals_of_advances
    {after : Tracked Location}
    (sound : Sound os job disk state)
    (advances : Advances os job state after) :
    ∀ number final, spot os job .final number = some final →
      after.1.volume.disk.bytes final = disk.bytes final ∨ Published os job after number final := by
  intro number final here
  rcases advances.finals number final here with kept | published
  · rcases sound.finals number final here with initial | ⟨closed, data, whole, held⟩
    · exact .inl (kept.trans initial)
    · have sent : state.2.sent number ≠ none := by
        intro none
        simp [Receipt.whole, none] at whole
      obtain ⟨closedAfter, keptAfter, sentAfter⟩ := advances.closed number closed sent
      refine .inr ⟨closedAfter, data, ?_, kept.trans held⟩
      rw [Receipt.whole, keptAfter, sentAfter]
      exact whole
  · exact .inr published

theorem Advances.refl (state : Tracked Location) : Advances os job state state :=
  .of_disk rfl fun after member => .inr ⟨after, member, rfl, rfl⟩

@[simp] theorem getJob_singleton (id : Int) :
    getJob id [current] = if current.id = id then some current else none := by
  simp only [getJob, List.find?]
  by_cases same : current.id = id
  · simp [same]
  · simp [same]

@[simp] theorem setJob_singleton (after : TransferJob) :
    setJob current.id after [current] = [after] := by
  simp [setJob, List.replaceF]

@[simp] theorem removeJob_singleton : removeJob current.id [current] = [] := by
  simp [removeJob]

/-- A careful block advances a job. -/
theorem writeBlock_advances
    {volume : Volume String Location}
    {receipt : Receipt}
    {fileNum : Int}
    {data : List UInt8}
    {compressed : Bool}
    (separate : Separate os current)
    (generic : current.type = .generic)
    (steady : Steady os)
    (streams : Streams os volume receipt current)
    (careful : Careful os (⟨[current], volume, false⟩, receipt)
      (.writeBlock current.id fileNum data compressed)) :
    Advances os current (⟨[current], volume, false⟩, receipt)
        (Tracked.step os codec (⟨[current], volume, false⟩, receipt)
          (.writeBlock current.id fileNum data compressed)) ∧
      Left os current (Tracked.step os codec (⟨[current], volume, false⟩, receipt)
        (.writeBlock current.id fileNum data compressed)) := by
  have setup := TransferJob.write_setup os codec current volume
    ⟨current.id, fileNum, data, compressed⟩
  cases found : current.files[asUsize fileNum]? with
  | none =>
      have beyond : ¬asUsize fileNum < current.files.length := by
        rw [List.getElem?_eq_none_iff] at found
        omega
      have unchanged : Tracked.step os codec (⟨[current], volume, false⟩, receipt)
          (.writeBlock current.id fileNum data compressed) =
          (⟨[current], volume, false⟩, receipt) := by
        simp [Tracked.step, Manager.step, handleFs, handleRunning, Receipt.step, beyond,
          TransferJob.write]
      rw [unchanged]
      exact ⟨.refl _, .inr ⟨current, rfl, .refl current, streams⟩⟩
  | some entry =>
      have inside : asUsize fileNum < current.files.length :=
        (List.getElem?_eq_some_iff.mp found).1
      have stepped : Tracked.step os codec (⟨[current], volume, false⟩, receipt)
          (.writeBlock current.id fileNum data compressed) =
          (⟨[(current.write os codec ⟨current.id, fileNum, data, compressed⟩ volume).job],
            (current.write os codec ⟨current.id, fileNum, data, compressed⟩ volume).volume, false⟩,
            receipt.addBlock (asUsize fileNum) (current.Opens fileNum)
              (TransferJob.payload codec ⟨current.id, fileNum, data, compressed⟩)) := by
        simp [Tracked.step, Manager.step, handleFs, handleRunning, Receipt.step, inside]
      rw [stepped]
      by_cases opens : current.Opens fileNum
      · obtain ⟨fresh, publishable⟩ := careful current (by simp) inside opens
        obtain ⟨streamsAfter, advances⟩ := write_opening_advances codec
          ⟨current.id, fileNum, data, compressed⟩ separate generic steady streams publishable rfl
          found opens fresh
        simp only [opens, decide_true]
        exact ⟨advances, .inr ⟨_, rfl, setup, streamsAfter⟩⟩
      · obtain ⟨streamsAfter, advances⟩ := write_streaming_advances codec
          ⟨current.id, fileNum, data, compressed⟩ separate steady streams rfl found opens
        simp only [opens, decide_false]
        exact ⟨advances, .inr ⟨_, rfl, setup, streamsAfter⟩⟩

/-- A confirmation with an offset resumes the current file, or panics when there is none. -/
theorem resumes_advance
    {volume : Volume String Location}
    {receipt : Receipt}
    {offset : UInt32}
    (separate : Separate os current)
    (steady : Steady os)
    (streams : Streams os volume receipt current)
    (positive : 0 < offset)
    (careful : Careful os (⟨[current], volume, false⟩, receipt)
      (.sendConfirm ⟨current.id, current.fileNum, some (.offsetBlk offset)⟩)) :
    Advances os current (⟨[current], volume, false⟩, receipt)
        (Tracked.step os codec (⟨[current], volume, false⟩, receipt)
          (.sendConfirm ⟨current.id, current.fileNum, some (.offsetBlk offset)⟩)) ∧
      Left os current (Tracked.step os codec (⟨[current], volume, false⟩, receipt)
        (.sendConfirm ⟨current.id, current.fileNum, some (.offsetBlk offset)⟩)) := by
  cases found : current.files[asUsize current.fileNum]? with
  | none =>
      have sameFiles : (current.setFileConfirmed true).files = current.files := rfl
      have stepped : Tracked.step os codec (⟨[current], volume, false⟩, receipt)
          (.sendConfirm ⟨current.id, current.fileNum, some (.offsetBlk offset)⟩) =
          (⟨[current], volume, true⟩, receipt) := by
        simp [Tracked.step, Manager.step, handleFs, handleRunning, Receipt.step,
          TransferJob.confirm, positive, TransferJob.setStreamOffset, sameFiles, found, spot]
      rw [stepped]
      exact ⟨.of_disk rfl fun after member => .inr ⟨after, member, rfl, rfl⟩,
        .inr ⟨current, rfl, .refl current, streams⟩⟩
  | some entry =>
      have inside : asUsize current.fileNum < current.files.length :=
        (List.getElem?_eq_some_iff.mp found).1
      obtain ⟨measured, digestPresent⟩ := careful current (by simp) rfl offset rfl positive inside
      obtain ⟨bytes, held, atEnd⟩ := Option.map_eq_some_iff.mp measured
      obtain ⟨download, here, contents⟩ := Option.bind_eq_some_iff.mp held
      obtain ⟨digestInode, digestHeld⟩ := Option.isSome_iff_exists.mp digestPresent
      obtain ⟨digest, digestSpot, digestNamed⟩ := Option.bind_eq_some_iff.mp digestHeld
      obtain ⟨inode, named⟩ : ∃ inode, volume.disk.names download = some inode := by
        obtain ⟨file, isFile, _⟩ := Option.map_eq_some_iff.mp contents
        obtain ⟨inode, named, _⟩ := Option.map_eq_some_iff.mp isFile
        exact ⟨inode, named⟩
      obtain ⟨_, foundDownload, foundDigest, _, foundSpot, foundDigestSpot, spots⟩ :=
        separate.spots found
      obtain rfl : download = foundDownload := Option.some.inj (here.symm.trans foundSpot)
      obtain rfl : digest = foundDigest :=
        Option.some.inj (digestSpot.symm.trans foundDigestSpot)
      obtain ⟨after, sought, same⟩ := TransferJob.setStreamOffset_steady
        (current.setFileConfirmed true) steady found spots named digestNamed offset.toNat
      obtain ⟨streamsAfter, advances⟩ :=
        resume_advances receipt here named contents atEnd same
      have stepped : Tracked.step os codec (⟨[current], volume, false⟩, receipt)
          (.sendConfirm ⟨current.id, current.fileNum, some (.offsetBlk offset)⟩) =
          (⟨[(current.setFileConfirmed true).seekTo (some ⟨inode, 0, true⟩) offset.toNat],
            after, false⟩,
            receipt.resume (asUsize current.fileNum) (bytes.take offset.toNat)) := by
        simp [Tracked.step, Manager.step, handleFs, handleRunning, Receipt.step,
          TransferJob.confirm, positive, sought, here, contents]
      rw [stepped]
      have setup : TransferJob.SameSetup current
          ((current.setFileConfirmed true).seekTo (some ⟨inode, 0, true⟩) offset.toNat) :=
        (TransferJob.setFileConfirmed_setup current true).trans (TransferJob.seekTo_setup ..)
      exact ⟨advances, .inr ⟨_, rfl, setup, streamsAfter⟩⟩

/-- A careful confirmation advances a job. -/
theorem sendConfirm_advances
    {volume : Volume String Location}
    {receipt : Receipt}
    {request : FileTransferSendConfirmRequest}
    (separate : Separate os current)
    (steady : Steady os)
    (streams : Streams os volume receipt current)
    (own : current.id = request.id)
    (careful : Careful os (⟨[current], volume, false⟩, receipt) (.sendConfirm request)) :
    Advances os current (⟨[current], volume, false⟩, receipt)
        (Tracked.step os codec (⟨[current], volume, false⟩, receipt) (.sendConfirm request)) ∧
      Left os current
        (Tracked.step os codec (⟨[current], volume, false⟩, receipt) (.sendConfirm request)) := by
  obtain ⟨id, fileNum, union⟩ := request
  obtain rfl : current.id = id := own
  by_cases stale : current.fileNum = fileNum
  · subst stale
    -- a confirmation without an offset changes the flags of the job at most
    have flags : ∀ after : TransferJob, TransferJob.SameSetup current after →
        (after.dataStream = none ∨ (after.fileNum = current.fileNum ∧
          after.dataStream = current.dataStream)) →
        Advances os current (⟨[current], volume, false⟩, receipt)
          (⟨[after], volume, false⟩, receipt) ∧
        Left os current (⟨[after], volume, false⟩, receipt) := by
      intro after setup stream
      constructor
      · refine .of_disk rfl ?_
        intro job member
        obtain rfl := List.mem_singleton.mp member
        rcases stream with none | ⟨sameNumber, sameStream⟩
        · exact .inl none
        · exact .inr ⟨current, by simp, sameNumber, sameStream⟩
      · refine .inr ⟨after, rfl, setup, ?_⟩
        intro handle isStream
        rcases stream with none | ⟨sameNumber, sameStream⟩
        · rw [none] at isStream
          cases isStream
        · rw [sameNumber, setup.spot_eq]
          exact streams handle (sameStream ▸ isStream)
    cases union with
    | none =>
        have stepped := flags current (.refl current) (.inr ⟨rfl, rfl⟩)
        simpa [Tracked.step, Manager.step, handleFs, handleRunning, Receipt.step,
          TransferJob.confirm] using stepped
    | some union =>
        cases union with
        | skip skipped =>
            cases skipped with
            | true =>
                have stepped := flags current.setFileSkipped ⟨rfl, rfl, rfl, rfl, rfl, rfl⟩
                  (.inl rfl)
                simpa [Tracked.step, Manager.step, handleFs, handleRunning, Receipt.step,
                  TransferJob.confirm] using stepped
            | false =>
                have stepped := flags (current.setFileConfirmed true)
                  (TransferJob.setFileConfirmed_setup ..) (.inr ⟨rfl, rfl⟩)
                simpa [Tracked.step, Manager.step, handleFs, handleRunning, Receipt.step,
                  TransferJob.confirm] using stepped
        | offsetBlk offset =>
            by_cases positive : 0 < offset
            · exact resumes_advance separate steady streams positive careful
            · have stepped := flags (current.setFileConfirmed true)
                (TransferJob.setFileConfirmed_setup ..) (.inr ⟨rfl, rfl⟩)
              simpa [Tracked.step, Manager.step, handleFs, handleRunning, Receipt.step,
                TransferJob.confirm, positive] using stepped
  · have unchanged : Tracked.step os codec (⟨[current], volume, false⟩, receipt)
        (.sendConfirm ⟨current.id, fileNum, union⟩) = (⟨[current], volume, false⟩, receipt) := by
      cases union with
      | none =>
          simp [Tracked.step, Manager.step, handleFs, handleRunning, Receipt.step,
            TransferJob.confirm, stale]
      | some union =>
          cases union <;> simp [Tracked.step, Manager.step, handleFs, handleRunning, Receipt.step,
            TransferJob.confirm, stale]
    rw [unchanged]
    exact ⟨.refl _, .inr ⟨current, rfl, .refl current, streams⟩⟩

/-- A careful message advances the job that is left. -/
theorem current_advances
    (codec : Codec)
    {volume : Volume String Location}
    {receipt : Receipt}
    (separate : Separate os current)
    (generic : current.type = .generic)
    (steady : Steady os)
    (streams : Streams os volume receipt current)
    (careful : Careful os (⟨[current], volume, false⟩, receipt) event) :
    Advances os current (⟨[current], volume, false⟩, receipt)
        (Tracked.step os codec (⟨[current], volume, false⟩, receipt) event) ∧
      Left os current (Tracked.step os codec (⟨[current], volume, false⟩, receipt) event) := by
  have stays : Advances os current (⟨[current], volume, false⟩, receipt)
        (⟨[current], volume, false⟩, receipt) ∧
      Left os current (⟨[current], volume, false⟩, receipt) :=
    ⟨.refl _, .inr ⟨current, rfl, .refl current, streams⟩⟩
  cases event with
  | newWrite path id fileNum files overwriteDetection => exact careful.elim
  | cancelWrite id =>
      by_cases own : current.id = id
      · subst own
        have stepped : Advances os current (⟨[current], volume, false⟩, receipt)
            (⟨[], current.removeDownloadFile os volume, false⟩, receipt) ∧
            Left os current (⟨[], current.removeDownloadFile os volume, false⟩, receipt) :=
          ⟨removeDownloadFile_advances separate generic, .inl rfl⟩
        simpa [Tracked.step, Manager.step, handleFs, handleRunning, Receipt.step] using stepped
      · simpa [Tracked.step, Manager.step, handleFs, handleRunning, Receipt.step, own] using stays
  | writeDone id fileNum =>
      by_cases own : current.id = id
      · subst own
        have publishable : Publishable os current volume receipt := careful current (by simp)
        have stepped : Advances os current (⟨[current], volume, false⟩, receipt)
            (⟨[], current.modifyTime os volume, false⟩, receipt) ∧
            Left os current (⟨[], current.modifyTime os volume, false⟩, receipt) :=
          ⟨modifyTime_advances separate generic streams publishable, .inl rfl⟩
        simpa [Tracked.step, Manager.step, handleFs, handleRunning, Receipt.step] using stepped
      · simpa [Tracked.step, Manager.step, handleFs, handleRunning, Receipt.step, own] using stays
  | writeError id fileNum err =>
      by_cases own : current.id = id
      · subst own
        have stepped : Advances os current (⟨[current], volume, false⟩, receipt)
            (⟨[], volume, false⟩, receipt) ∧ Left os current (⟨[], volume, false⟩, receipt) :=
          ⟨.of_disk rfl (by simp), .inl rfl⟩
        simpa [Tracked.step, Manager.step, handleFs, handleRunning, Receipt.step] using stepped
      · simpa [Tracked.step, Manager.step, handleFs, handleRunning, Receipt.step, own] using stays
  | writeBlock id fileNum data compressed =>
      by_cases own : current.id = id
      · subst own
        exact writeBlock_advances separate generic steady streams careful
      · simpa [Tracked.step, Manager.step, handleFs, handleRunning, Receipt.step, own] using stays
  | checkDigest id fileNum fileSize lastModified isUpload isResume =>
      by_cases own : current.id = id
      · subst own
        have same := checkDigest_disk os codec volume current fileNum fileSize lastModified
          isUpload isResume
        obtain ⟨digest, checked⟩ := checkDigest_job os codec volume current fileNum fileSize
          lastModified isUpload isResume
        have stepped : Tracked.step os codec (⟨[current], volume, false⟩, receipt)
            (.checkDigest current.id fileNum fileSize lastModified isUpload isResume) =
            (⟨[{ current with digest := digest }], (checkDigest os codec current fileNum fileSize
              lastModified isUpload isResume volume).2.1, false⟩, receipt) := by
          simp [Tracked.step, Manager.step, handleFs, handleRunning, Receipt.step, checked]
        rw [stepped]
        constructor
        · refine .of_disk same ?_
          intro after member
          obtain rfl := List.mem_singleton.mp member
          exact .inr ⟨current, by simp, rfl, rfl⟩
        · refine .inr ⟨_, rfl, ⟨rfl, rfl, rfl, rfl, rfl, rfl⟩, ?_⟩
          intro stream isStream
          simp only [same]
          exact streams stream isStream
      · simpa [Tracked.step, Manager.step, handleFs, handleRunning, Receipt.step, own] using stays
  | sendConfirm request =>
      by_cases own : current.id = request.id
      · exact sendConfirm_advances separate steady streams own careful
      · simpa [Tracked.step, Manager.step, handleFs, handleRunning, Receipt.step, own] using stays

/-- A careful message advances a job, whatever is left of it. -/
theorem step_advances
    (codec : Codec)
    (separate : Separate os job)
    (generic : job.type = .generic)
    (steady : Steady os)
    (left : Left os job state)
    (careful : Careful os state event) :
    Advances os job state (Tracked.step os codec state event) ∧
      Left os job (Tracked.step os codec state event) := by
  obtain ⟨⟨jobs, volume, panicked⟩, receipt⟩ := state
  cases panicked with
  | true =>
      have stepped : Tracked.step os codec (⟨jobs, volume, true⟩, receipt) event =
          (⟨jobs, volume, true⟩, receipt) := by
        simp [Tracked.step, Manager.step, handleFs, Receipt.step]
      rw [stepped]
      exact ⟨.refl _, left⟩
  | false =>
      rcases left with rfl | ⟨current, rfl, setup, streams⟩
      · have stepped : Tracked.step os codec (⟨[], volume, false⟩, receipt) event =
            (⟨[], volume, false⟩, receipt) := by
          cases event with
          | newWrite path id fileNum files overwriteDetection => exact careful.elim
          | cancelWrite _ | writeDone _ _ | writeError _ _ _ | writeBlock _ _ _ _
          | checkDigest _ _ _ _ _ _ | sendConfirm _ =>
              simp [Tracked.step, Manager.step, handleFs, handleRunning, Receipt.step, getJob]
        rw [stepped]
        exact ⟨.refl _, .inl rfl⟩
      · obtain ⟨advances, leftAfter⟩ := current_advances codec (separate.of_setup setup)
          (setup.type.trans generic) steady streams careful
        refine ⟨advances.of_setup setup, ?_⟩
        rcases leftAfter with none | ⟨after, only, setupAfter, streamsAfter⟩
        · exact .inl none
        · exact .inr ⟨after, only, setup.trans setupAfter, streamsAfter⟩

/-- A closed file that was sent keeps its complete data to the end of a careful run. -/
theorem run_whole
    (separate : Separate os job)
    (generic : job.type = .generic)
    (steady : Steady os)
    {events : List FsEvent}
    (careful : Along (Tracked.step os codec) (Careful os) state events)
    (left : Left os job state)
    {number : Nat}
    (closed : Closed os job state.1 number)
    {data : List UInt8}
    (whole : state.2.whole number = some data) :
    (run (Tracked.step os codec) state events).2.whole number = some data := by
  induction events generalizing state with
  | nil => exact whole
  | cons event events ih =>
      obtain ⟨now, later⟩ := careful
      obtain ⟨advances, leftAfter⟩ := step_advances codec separate generic steady left now
      have sent : state.2.sent number ≠ none := by
        intro none
        simp [Receipt.whole, none] at whole
      obtain ⟨closedAfter, kept, same⟩ := advances.closed number closed sent
      refine ih later leftAfter closedAfter ?_
      rw [Receipt.whole, kept, same]
      exact whole

/-- Careful messages keep the invariant. -/
theorem run_sound
    (separate : Separate os job)
    (generic : job.type = .generic)
    (steady : Steady os)
    {events : List FsEvent}
    (careful : Along (Tracked.step os codec) (Careful os) state events)
    (sound : Sound os job disk state) :
    Sound os job disk (run (Tracked.step os codec) state events) := by
  refine run_invariant (Sound os job disk) ?_ sound careful
  intro state event sound now
  obtain ⟨advances, leftAfter⟩ := step_advances codec separate generic steady sound.left now
  exact ⟨leftAfter, sound.finals_of_advances advances⟩

end Step

/-- A job that receives two files into `/in`. -/
def twoFiles : TransferJob :=
  TransferJob.newWrite 7 .generic "/in" 0 [⟨"a", 100⟩, ⟨"b", 200⟩] false

theorem Os.plain_steady (style : Path.Style) : Steady (Os.plain style) :=
  ⟨fun _ _ => rfl, fun _ _ => rfl, fun _ _ => rfl, fun _ _ => rfl, fun _ _ _ => rfl, fun _ _ => rfl⟩

theorem twoFiles_separate : Separate (Os.plain .unix) twoFiles := by
  refine separate_of_names ⟨by decide, by decide⟩ ?_ (Os.plain_discerns ?_)
  · intro entry member _
    refine Path.appends_unix _ ?_
    revert entry
    decide
  · intro entry member role
    revert entry
    cases role <;> decide

/-- A disk on which an earlier transfer left one byte of `a`. -/
def leftover : Disk String :=
  ((Disk.empty : Disk String).create "/in/a.download" 0).setFile 0 ⟨[1], 0⟩

end Fs
end OneDesk
