import OneDesk.Fs.Delivery

/-!
# Answers to digests

A digest is answered in the step that handles it, when nothing else is under
way.  The reading side always takes the answer; the writing side is not always
told, and takes an answer for another file than its own for none.
-/

namespace OneDesk
namespace Fs

open Lib

variable {Source Destination : Type} [DecidableEq Source] [DecidableEq Destination]
variable {setting : Setting Source Destination} {disk : Disk Source}
variable {reading writing : TransferJob} {first : Nat} {behind ahead : Stage}
variable {transfer : Transfer Source Destination} {rest : List FileMessage}

/-- A single job takes a confirmation. -/
theorem handleFs_sendConfirm_single
    (os : Os Destination)
    (codec : Codec)
    {manager : Manager Destination}
    {job after : TransferJob}
    {later : Volume String Destination}
    {request : FileTransferSendConfirmRequest}
    (running : manager.panicked = false)
    (single : manager.writeJobs = [job])
    (own : job.id = request.id)
    (confirmed : job.confirm os request manager.volume = some (after, later)) :
    (handleFs os codec (.sendConfirm request) manager).1 =
      { manager with writeJobs := [after], volume := later } := by
  simp only [handleFs, running, Bool.false_eq_true, if_false, handleRunning, single, ← own,
    getJob_singleton, if_true, setJob_singleton, confirmed]

/-- The answer of the user reaches the only write job. -/
theorem Transfer.confirmWriter_single
    (setting : Setting Source Destination)
    {transfer : Transfer Source Destination}
    {job confirmed : TransferJob}
    {later : Volume String Destination}
    {request : FileTransferSendConfirmRequest}
    (running : transfer.manager.panicked = false)
    (single : transfer.manager.writeJobs = [job])
    (own : job.id = request.id)
    (isConfirmed : job.confirm setting.destination request transfer.manager.volume =
      some (confirmed, later)) :
    transfer.confirmWriter setting request =
      { transfer with
        manager := { transfer.manager with writeJobs := [confirmed], volume := later } } := by
  simp only [Transfer.confirmWriter]
  rw [handleFs_sendConfirm_single setting.destination setting.codec running single own isConfirmed]

/-- What becomes of a digest of which a part of given length may be left. -/
inductive Answers
    (setting : Setting Source Destination)
    (digest : FileTransferDigest)
    (kept : Nat)
    (resumes : Prop)
    (asked : Transfer Source Destination) : Transfer Source Destination → Prop
  /-- The digest could not be checked, and the reading side waits. -/
  | waits : Answers setting digest kept resumes asked asked
  /-- Only the reading side takes the answer. -/
  | aside {union : ConfirmUnion} (plain : union = .skip true ∨ union = .offsetBlk 0) :
      Answers setting digest kept resumes asked
        (asked.confirmReader setting ⟨digest.id, digest.fileNum, some union⟩)
  /-- Both sides take the answer. -/
  | both {union : ConfirmUnion}
      (plain : union = .skip true ∨ union = .offsetBlk 0 ∨
        union = .offsetBlk (UInt32.ofNat kept) ∧ 0 < kept ∧ resumes) :
      Answers setting digest kept resumes asked
        ((asked.confirmWriter setting ⟨digest.id, digest.fileNum, some union⟩).confirmReader
          setting ⟨digest.id, digest.fileNum, some union⟩)

/-- The answer to a digest of a file that is there. -/
theorem answerExisting_cases
    (isResume : Bool)
    (decision : Decision)
    {digest found : FileTransferDigest}
    (id : found.id = digest.id)
    (fileNum : found.fileNum = digest.fileNum) :
    ∃ union, answerExisting isResume decision found = ⟨digest.id, digest.fileNum, some union⟩ ∧
      (goesOn isResume found = false ∧ (union = .skip true ∨ union = .offsetBlk 0) ∨
        goesOn isResume found = true ∧ isResume = true ∧ 0 < found.transferredSize ∧
          union = .offsetBlk (UInt32.ofNat found.transferredSize)) := by
  unfold answerExisting
  rw [id, fileNum]
  by_cases goes : goesOn isResume found = true
  · have parts : (found.isIdentical = true ∧ isResume = true) ∧ 0 < found.transferredSize := by
      simpa [goesOn] using goes
    exact ⟨_, if_pos goes, .inr ⟨goes, parts.1.2, parts.2, rfl⟩⟩
  · refine ⟨_, if_neg goes, .inl ⟨by simpa using goes, ?_⟩⟩
    split
    · exact .inr rfl
    · exact .inl rfl

namespace Transfer

/-- The client asks for the one file that a digest is about. -/
theorem onDigest_single
    {digest : FileTransferDigest}
    {job : TransferJob}
    {file : FileEntry}
    (single : transfer.manager.writeJobs = [job])
    (own : job.id = digest.id)
    (found : job.files[asUsize digest.fileNum]? = some file)
    (decision : Decision) :
    transfer.onDigest setting decision digest =
      let checked := isWriteNeedConfirmation setting.destination setting.codec
        (setting.supportsResume && job.isResume) (job.pathOf setting.destination.style file)
        digest transfer.manager.volume
      let asked : Transfer Source Destination :=
        { transfer with
          manager := { transfer.manager with
            writeJobs := [{ job with digest := ⟨digest.fileSize, digest.lastModified⟩ }]
            volume := checked.2 } }
      match checked.1 with
      | .error _ => asked
      | .ok result =>
          (asked.confirmWriter setting
            (answerChecked job.isResume decision digest result)).confirmReader setting
              (answerChecked job.isResume decision digest result) := by
  simp only [onDigest, single, ← own, getJob_singleton, if_true, found, setJob_singleton]
  rfl

/-- What the client makes of a digest in a download. -/
theorem onDigest_answers
    {digest : FileTransferDigest}
    {job : TransferJob}
    {file : FileEntry}
    (steady : Steady setting.destination)
    (single : transfer.manager.writeJobs = [job])
    (own : job.id = digest.id)
    (found : job.files[asUsize digest.fileNum]? = some file)
    (decision : Decision) :
    ∃ volume, volume.disk = transfer.manager.volume.disk ∧
      Answers setting digest
        (keptLength setting.destination setting.codec transfer.manager.volume.disk
          (job.pathOf setting.destination.style file) digest)
        (setting.supportsResume = true ∧ job.isResume = true)
        { transfer with
          manager := { transfer.manager with
            writeJobs := [{ job with digest := ⟨digest.fileSize, digest.lastModified⟩ }]
            volume := volume } }
        (transfer.onDigest setting decision digest) := by
  obtain ⟨same, kinds⟩ := isWriteNeedConfirmation_cases steady setting.codec
    transfer.manager.volume (setting.supportsResume && job.isResume)
    (job.pathOf setting.destination.style file) digest
  refine ⟨_, same, ?_⟩
  rw [onDigest_single single own found]
  rcases kinds with ⟨resumes, left, other, isOther, id, fileNum, _, size⟩ | none | ⟨error, failed⟩ |
    ⟨other, isOther, id, fileNum, size⟩
  · obtain ⟨union, answer, kind⟩ := answerExisting_cases job.isResume decision id fileNum
    simp only [isOther, answerChecked, answer]
    refine .both ?_
    rcases kind with ⟨_, plain⟩ | ⟨_, _, _, rfl⟩
    · exact plain.imp_right .inl
    · exact .inr (.inr ⟨by rw [size], left, by simpa using resumes⟩)
  · simp only [none, answerChecked]
    exact .both (.inr (.inl rfl))
  · simp only [failed]
    exact .waits
  · obtain ⟨union, answer, kind⟩ := answerExisting_cases job.isResume decision id fileNum
    simp only [isOther, answerChecked, answer]
    rcases kind with ⟨_, plain⟩ | ⟨_, _, positive, _⟩
    · exact .both (plain.imp_right .inl)
    · omega

/-- What the client makes of its own digest that came back from the host. -/
theorem onReply_answers
    {digest found : FileTransferDigest}
    {job : TransferJob}
    {kept : Nat}
    {resumes : Prop}
    (waiting : getJob digest.id transfer.reader.readJobs = some job)
    (inside : asUsize digest.fileNum < job.files.length)
    (id : found.id = digest.id)
    (fileNum : found.fileNum = digest.fileNum)
    (size : job.isResume = true → found.transferredSize = 0 ∨
      found.transferredSize = kept ∧ 0 < kept ∧ resumes)
    (decision : Decision) :
    Answers setting digest kept resumes transfer
      (onReply setting decision transfer (.digest found)) := by
  obtain ⟨entry, isEntry⟩ : ∃ entry, job.files[asUsize digest.fileNum]? = some entry :=
    ⟨_, List.getElem?_eq_getElem inside⟩
  obtain ⟨union, answer, kind⟩ := answerExisting_cases job.isResume decision id fileNum
  simp only [onReply, id, fileNum, waiting, isEntry, answer]
  cases decision with
  | strategy overwrite =>
      refine .both ?_
      rcases kind with ⟨_, plain⟩ | ⟨_, resuming, positive, rfl⟩
      · exact plain.imp_right .inl
      · obtain ⟨rfl, left, may⟩ := (size resuming).resolve_left (by omega)
        exact .inr (.inr ⟨rfl, left, may⟩)
  | user overwrite =>
      rcases kind with ⟨stays, plain⟩ | ⟨goes, resuming, positive, rfl⟩
      · simp only [stays, Bool.false_eq_true, if_false]
        exact .aside plain
      · obtain ⟨rfl, left, may⟩ := (size resuming).resolve_left (by omega)
        simp only [goes, if_true]
        exact .both (.inr (.inr ⟨rfl, left, may⟩))

/-- What the file manager compares with what there is of a file. -/
def offerOf (job : TransferJob) (digest : FileTransferDigest) : FileTransferDigest where
  id := job.id
  fileNum := digest.fileNum
  lastModified := digest.lastModified
  fileSize := digest.fileSize
  isUpload := false
  isIdentical := false
  transferredSize := 0
  isResume := false

section CheckDigest

variable {digest : FileTransferDigest} {job : TransferJob} {file : FileEntry}
variable {checked : Except FsError DigestCheckResult × Volume String Destination}

/-- The file manager answers a digest that it could check. -/
theorem handleFs_checkDigest
    {result : DigestCheckResult}
    (running : transfer.manager.panicked = false)
    (single : transfer.manager.writeJobs = [job])
    (own : job.id = digest.id)
    (found : job.files[asUsize digest.fileNum]? = some file)
    (isChecked : isWriteNeedConfirmation setting.destination setting.codec digest.isResume
      (job.pathOf setting.destination.style file) (offerOf job digest) transfer.manager.volume =
        checked)
    (outcome : checked.1 = .ok result) :
    handleFs setting.destination setting.codec
      (.checkDigest digest.id digest.fileNum digest.fileSize digest.lastModified true
        digest.isResume) transfer.manager =
      ({ transfer.manager with
          writeJobs := [{ job with digest := ⟨digest.fileSize, digest.lastModified⟩ }]
          volume := checked.2 }, [answerDigest job.id digest.fileNum true result]) := by
  subst isChecked
  rw [offerOf] at outcome
  simp only [handleFs, running, Bool.false_eq_true, if_false, handleRunning, single, ← own,
    getJob_singleton, if_true, checkDigest, found, outcome, setJob_singleton, offerOf]

/-- The file manager reports a digest that it could not check. -/
theorem handleFs_checkDigest_error
    {error : FsError}
    (running : transfer.manager.panicked = false)
    (single : transfer.manager.writeJobs = [job])
    (own : job.id = digest.id)
    (found : job.files[asUsize digest.fileNum]? = some file)
    (isChecked : isWriteNeedConfirmation setting.destination setting.codec digest.isResume
      (job.pathOf setting.destination.style file) (offerOf job digest) transfer.manager.volume =
        checked)
    (outcome : checked.1 = .error error) :
    handleFs setting.destination setting.codec
      (.checkDigest digest.id digest.fileNum digest.fileSize digest.lastModified true
        digest.isResume) transfer.manager =
      ({ transfer.manager with writeJobs := [job], volume := checked.2 },
        [.error job.id error digest.fileNum]) := by
  subst isChecked
  rw [offerOf] at outcome
  simp only [handleFs, running, Bool.false_eq_true, if_false, handleRunning, single, ← own,
    getJob_singleton, if_true, checkDigest, found, outcome, setJob_singleton, offerOf]

end CheckDigest

/-- What the host and the client make of a digest in an upload. -/
theorem handleRequest_answers
    {digest : FileTransferDigest}
    {job waiting : TransferJob}
    {file : FileEntry}
    (steady : Steady setting.destination)
    (running : transfer.manager.panicked = false)
    (single : transfer.manager.writeJobs = [job])
    (own : job.id = digest.id)
    (found : job.files[asUsize digest.fileNum]? = some file)
    (reads : getJob digest.id transfer.reader.readJobs = some waiting)
    (inside : asUsize digest.fileNum < waiting.files.length)
    (decision : Decision) :
    ∃ after volume told, volume.disk = transfer.manager.volume.disk ∧
      (∃ kept, after = { job with digest := kept }) ∧
      (∀ id fileNum, JobStatus.jobDone id fileNum ∉ told) ∧
      Answers setting digest
        (keptLength setting.destination setting.codec transfer.manager.volume.disk
          (job.pathOf setting.destination.style file) digest)
        (digest.isResume = true ∧ ∃ job ∈ transfer.reader.readJobs, job.isResume = true)
        { transfer with
          manager := { transfer.manager with writeJobs := [after], volume := volume }
          shown := transfer.shown ++ told }
        (transfer.handleRequest setting decision (.digest digest)) := by
  have member : waiting ∈ transfer.reader.readJobs := List.mem_of_find?_eq_some reads
  let checked := isWriteNeedConfirmation setting.destination setting.codec digest.isResume
    (job.pathOf setting.destination.style file) (offerOf job digest) transfer.manager.volume
  let noted : TransferJob := { job with digest := ⟨digest.fileSize, digest.lastModified⟩ }
  have isNoted : ∃ kept, noted = { job with digest := kept } := ⟨_, rfl⟩
  obtain ⟨same, kinds⟩ := isWriteNeedConfirmation_cases steady setting.codec
    transfer.manager.volume digest.isResume
    (job.pathOf setting.destination.style file) (offerOf job digest)
  have stepped : ∀ replies after, handleFs setting.destination setting.codec
      (.checkDigest digest.id digest.fileNum digest.fileSize digest.lastModified true
        digest.isResume) transfer.manager =
        ({ transfer.manager with writeJobs := [after], volume := checked.2 }, replies) →
      transfer.handleRequest setting decision (.digest digest) =
        replies.foldl (onReply setting decision)
          { transfer with
            manager := { transfer.manager with writeJobs := [after], volume := checked.2 } } := by
    intro replies after isHandled
    simp only [handleRequest, eventOf, isHandled]
  have noMore : ∀ jobs, ({ transfer with
      manager := { transfer.manager with writeJobs := jobs, volume := checked.2 } } :
        Transfer Source Destination) =
      { transfer with
        manager := { transfer.manager with writeJobs := jobs, volume := checked.2 }
        shown := transfer.shown ++ [] } := by
    simp
  rcases kinds with ⟨resumes, left, other, isOther, id, fileNum, _, size⟩ | none | ⟨error, failed⟩ |
    ⟨other, isOther, id, fileNum, size⟩
  · rw [stepped _ noted (handleFs_checkDigest running single own found rfl isOther)]
    refine ⟨noted, checked.2, [], same, isNoted, by simp, ?_⟩
    rw [← noMore]
    simp only [List.foldl_cons, List.foldl_nil, answerDigest]
    refine onReply_answers ?_ inside ?_ ?_ ?_ decision
    · exact reads
    · exact id.trans own
    · exact fileNum
    · exact fun resuming => .inr ⟨size, left, resumes, waiting, member, resuming⟩
  · rw [stepped _ noted (handleFs_checkDigest running single own found rfl none)]
    refine ⟨noted, checked.2, [], same, isNoted, by simp, ?_⟩
    rw [← noMore]
    simp only [List.foldl_cons, List.foldl_nil, answerDigest, onReply, own]
    exact .aside (.inr rfl)
  · rw [stepped _ _ (handleFs_checkDigest_error running single own found rfl failed)]
    refine ⟨job, checked.2, [.jobError job.id error digest.fileNum], same, ⟨job.digest, rfl⟩,
      by simp, ?_⟩
    exact .waits
  · rw [stepped _ noted (handleFs_checkDigest running single own found rfl isOther)]
    refine ⟨noted, checked.2, [], same, isNoted, by simp, ?_⟩
    rw [← noMore]
    simp only [List.foldl_cons, List.foldl_nil, answerDigest]
    refine onReply_answers ?_ inside ?_ ?_ ?_ decision
    · exact reads
    · exact id.trans own
    · exact fileNum
    · exact fun _ => .inl size

end Transfer

namespace Afoot

/-- Both ends go on from the stage that an answer leads to. -/
theorem answered
    (afoot : Afoot setting disk reading writing first behind transfer behind)
    (way : transfer.way = [])
    (asking : behind.phase = .asking)
    (working : Working setting disk reading writing first behind transfer)
    {after : Stage}
    {reader : Reader Source}
    {manager : Manager Destination}
    {skipped : List Int}
    (reads : Reads setting disk reading skipped after reader)
    (running : manager.panicked = false)
    (sending : after.phase = .sending)
    (sound : after.failed = behind.failed)
    (grows : behind.number ≤ after.number)
    (keeps : ∀ number ∈ transfer.skipped, number ∈ skipped)
    (skips : ∀ number ∈ skipped, number ∈ transfer.skipped ∨
      number = behind.number ∧ behind.number < after.number)
    (passed : ∀ number : Nat, behind.number ≤ number → number < after.number →
      (number : Int) ∈ skipped)
    {job : TransferJob}
    {current : Nat}
    (single : manager.writeJobs = [job])
    (kept : Writing setting.destination writing first
      (contentsOf setting.source disk reading) (fun number => (number : Int) ∈ skipped)
      manager.volume.disk after.toCursor current job) :
    Afoot setting disk reading writing first after
      { transfer with reader := reader, manager := manager, skipped := skipped } after := by
  have notEnded : behind.phase ≠ .ended := by
    rw [asking]
    nofun
  refine ⟨reads, ?_, running, afoot.first_le.trans grows, ?_, ?_, ?_, ?_, afoot.told, ?_, .inl ?_⟩
  · rw [way]
    rfl
  · intro number member
    rcases skips number member with before | ⟨rfl, moves⟩
    · have := afoot.skipped number before
      omega
    · exact_mod_cast moves
  · intro number completes
    obtain ⟨fromFirst, before, notSkipped⟩ := afoot.completed number completes
    refine ⟨fromFirst, before.trans_le grows, fun member => ?_⟩
    rcases skips number member with earlier | ⟨same, _⟩
    · exact notSkipped earlier
    · omega
  · exact fun id fileNum member => absurd (afoot.finished id fileNum member) notEnded
  · exact fun id fileNum member => absurd (afoot.closed id fileNum member) notEnded
  · intro id fileNum member
    rw [way] at member
    cases member
  · refine ⟨sound.trans working.sound, ?_, ?_, job, current, single, kept⟩
    · rw [sending]
      nofun
    · intro number fromFirst before
      by_cases earlier : number < behind.number
      · exact (working.passed number fromFirst earlier).imp_right (keeps _)
      · exact .inr (passed number (Nat.le_of_not_lt earlier) before)

/-- A file that the reading side leaves out, whether the write job is told or not. -/
theorem leavesOut
    {number : Nat}
    {failed : Bool}
    (afoot : Afoot setting disk reading writing first ⟨⟨number, 0⟩, .asking, failed⟩ transfer
      ⟨⟨number, 0⟩, .asking, failed⟩)
    (way : transfer.way = [])
    (working : Working setting disk reading writing first ⟨⟨number, 0⟩, .asking, failed⟩ transfer)
    {manager : Manager Destination}
    (running : manager.panicked = false)
    {job : TransferJob}
    {current : Nat}
    (single : manager.writeJobs = [job])
    (kept : Writing setting.destination writing first
      (contentsOf setting.source disk reading)
      (fun other => (other : Int) ∈ (number : Int) :: transfer.skipped)
      manager.volume.disk ⟨number + 1, 0⟩ current job) :
    Afoot setting disk reading writing first ⟨⟨number + 1, 0⟩, .sending, failed⟩
      (({ transfer with manager := manager } : Transfer Source Destination).confirmReader setting
        ⟨reading.id, number, some (.skip true)⟩)
      ⟨⟨number + 1, 0⟩, .sending, failed⟩ := by
  have answered := afoot.answered way rfl working (afoot.reads.skip rfl) running rfl rfl
    (Nat.le_succ number) (fun _ => List.mem_cons_of_mem _) ?_ ?_ single kept
  · simpa only [Transfer.confirmReader, if_true] using answered
  · intro other member
    rcases List.mem_cons.mp member with rfl | before
    · exact .inr ⟨rfl, Nat.lt_succ_self number⟩
    · exact .inl before
  · intro other fromHere before
    obtain rfl : other = number := by
      dsimp only at fromHere before
      omega
    exact List.mem_cons_self

/-- A file that the reading side sends from an offset, where the write job is ready for it. -/
theorem takesUp
    {number : Nat}
    {failed : Bool}
    (afoot : Afoot setting disk reading writing first ⟨⟨number, 0⟩, .asking, failed⟩ transfer
      ⟨⟨number, 0⟩, .asking, failed⟩)
    (way : transfer.way = [])
    (working : Working setting disk reading writing first ⟨⟨number, 0⟩, .asking, failed⟩ transfer)
    {offset : UInt32}
    (reads : Reads setting disk reading transfer.skipped
      ⟨⟨number, offset.toNat⟩, .sending, failed⟩
      (transfer.reader.step setting.source setting.codec
        (.sendConfirm ⟨reading.id, number, some (.offsetBlk offset)⟩)))
    {manager : Manager Destination}
    (running : manager.panicked = false)
    {job : TransferJob}
    {current : Nat}
    (single : manager.writeJobs = [job])
    (kept : Writing setting.destination writing first
      (contentsOf setting.source disk reading) (fun other => (other : Int) ∈ transfer.skipped)
      manager.volume.disk ⟨number, offset.toNat⟩ current job) :
    Afoot setting disk reading writing first ⟨⟨number, offset.toNat⟩, .sending, failed⟩
      (({ transfer with manager := manager } : Transfer Source Destination).confirmReader setting
        ⟨reading.id, number, some (.offsetBlk offset)⟩)
      ⟨⟨number, offset.toNat⟩, .sending, failed⟩ := by
  have answered := afoot.answered way rfl working reads running rfl rfl
    (Nat.le_refl number) (fun _ member => member) (fun _ => .inl)
    (fun other fromHere before => absurd fromHere (Nat.not_le_of_lt before)) single kept
  simpa [Transfer.confirmReader] using answered

/-- Both ends are told to take the whole file. -/
theorem answersWhole
    {number : Nat}
    {failed : Bool}
    (afoot : Afoot setting disk reading writing first ⟨⟨number, 0⟩, .asking, failed⟩ transfer
      ⟨⟨number, 0⟩, .asking, failed⟩)
    (way : transfer.way = [])
    (working : Working setting disk reading writing first ⟨⟨number, 0⟩, .asking, failed⟩ transfer)
    {job : TransferJob}
    {current : Nat}
    (single : transfer.manager.writeJobs = [job])
    (ownJob : job.id = reading.id)
    (kept : Writing setting.destination writing first
      (contentsOf setting.source disk reading) (fun other => (other : Int) ∈ transfer.skipped)
      transfer.manager.volume.disk ⟨number, 0⟩ current job) :
    ∃ next, Afoot setting disk reading writing first next
        ((transfer.confirmWriter setting
          ⟨reading.id, number, some (.offsetBlk 0)⟩).confirmReader setting
            ⟨reading.id, number, some (.offsetBlk 0)⟩) next ∧
      Spares setting writing ⟨⟨number, 0⟩, .asking, failed⟩ next transfer
        ((transfer.confirmWriter setting
          ⟨reading.id, number, some (.offsetBlk 0)⟩).confirmReader setting
            ⟨reading.id, number, some (.offsetBlk 0)⟩) := by
  have reads : Reads setting disk reading transfer.skipped
      ⟨⟨number, (0 : UInt32).toNat⟩, .sending, failed⟩
      (transfer.reader.step setting.source setting.codec
        (.sendConfirm ⟨reading.id, number, some (.offsetBlk 0)⟩)) :=
    afoot.reads.takeWhole rfl
  obtain ⟨confirmed, isConfirmed, keptAfter⟩ := kept.confirm_whole reading.id number
  rw [Transfer.confirmWriter_single setting afoot.running single ownJob isConfirmed]
  exact ⟨_, afoot.takesUp way working reads afoot.running rfl keptAfter,
    .of_disk (fun _ awaits => awaits) rfl⟩

/-- Both ends are told to go on behind what is left of the file. -/
theorem answersResume
    (matched : Matched setting reading writing first)
    {number length : Nat}
    {failed : Bool}
    (afoot : Afoot setting disk reading writing first ⟨⟨number, 0⟩, .asking, failed⟩ transfer
      ⟨⟨number, 0⟩, .asking, failed⟩)
    (way : transfer.way = [])
    (working : Working setting disk reading writing first ⟨⟨number, 0⟩, .asking, failed⟩ transfer)
    {job : TransferJob}
    (single : transfer.manager.writeJobs = [job])
    (ownJob : job.id = reading.id)
    (kept : Writing setting.destination writing first
      (contentsOf setting.source disk reading) (fun other => (other : Int) ∈ transfer.skipped)
      transfer.manager.volume.disk ⟨number, 0⟩ number job)
    {entry : FileEntry}
    (found : writing.files[number]? = some entry)
    {digest : FileTransferDigest}
    (isLength : keptLength setting.destination setting.codec transfer.manager.volume.disk
      (writing.pathOf setting.destination.style entry) digest = length)
    (left : 0 < length)
    (positive : 0 < UInt32.ofNat length)
    (reopens : ∀ source ∈ reading.files[number]?, Reopens setting.source transfer.reader.volume
      (reading.pathOf setting.source.style source))
    (isPrefix : ∀ download ∈ fileAt setting.destination transfer.manager.volume.disk
        (downloadOf (writing.pathOf setting.destination.style entry)),
      download.bytes <+: contentsOf setting.source disk reading number) :
    ∃ next, Afoot setting disk reading writing first next
        ((transfer.confirmWriter setting
          ⟨reading.id, number, some (.offsetBlk (UInt32.ofNat length))⟩).confirmReader setting
            ⟨reading.id, number, some (.offsetBlk (UInt32.ofNat length))⟩) next ∧
      Spares setting writing ⟨⟨number, 0⟩, .asking, failed⟩ next transfer
        ((transfer.confirmWriter setting
          ⟨reading.id, number, some (.offsetBlk (UInt32.ofNat length))⟩).confirmReader setting
            ⟨reading.id, number, some (.offsetBlk (UInt32.ofNat length))⟩) := by
  obtain ⟨digestFile, download, isKept, isDownload, whole⟩ := keptLength_pos (isLength.symm ▸ left)
  rw [isLength] at whole
  subst whole
  obtain ⟨confirmed, later, isConfirmed, same, keptAfter⟩ := kept.confirm_resume
    matched.permits.steady matched.separate found isKept isDownload
    (isPrefix download isDownload) positive (by
      rw [UInt32.toNat_ofNat']
      exact Nat.mod_le _ _) reading.id
  rw [Transfer.confirmWriter_single setting afoot.running single ownJob isConfirmed]
  refine ⟨_, afoot.takesUp way working (afoot.reads.resume rfl positive reopens)
    afoot.running rfl (same ▸ keptAfter), .of_disk ?_ same⟩
  rintro other (behind | ⟨rfl, _⟩)
  · exact .inl behind
  · exact .inr ⟨rfl, rfl⟩

/-- An answer to a digest brings both ends to one stage, if what is left of a file that they go on
with is a part of it. -/
theorem answers
    (matched : Matched setting reading writing first)
    {number : Nat}
    {failed : Bool}
    (afoot : Afoot setting disk reading writing first ⟨⟨number, 0⟩, .asking, failed⟩ transfer
      ⟨⟨number, 0⟩, .asking, failed⟩)
    (way : transfer.way = [])
    (working : Working setting disk reading writing first ⟨⟨number, 0⟩, .asking, failed⟩ transfer)
    {digest : FileTransferDigest}
    (own : digest.id = reading.id)
    (asks : digest.fileNum = number)
    {entry : FileEntry}
    (found : writing.files[number]? = some entry)
    {resumes : Prop}
    {after : Transfer Source Destination}
    (answers : Answers setting digest
      (keptLength setting.destination setting.codec transfer.manager.volume.disk
        (writing.pathOf setting.destination.style entry) digest)
      resumes transfer after)
    (agrees : resumes →
      0 < keptLength setting.destination setting.codec transfer.manager.volume.disk
        (writing.pathOf setting.destination.style entry) digest →
      0 < UInt32.ofNat (keptLength setting.destination setting.codec
        transfer.manager.volume.disk (writing.pathOf setting.destination.style entry) digest) →
      (∀ job ∈ transfer.manager.writeJobs, job.fileNum = number) ∧
        (∀ source ∈ reading.files[number]?, Reopens setting.source transfer.reader.volume
          (reading.pathOf setting.source.style source)) ∧
        ∀ download ∈ fileAt setting.destination transfer.manager.volume.disk
            (downloadOf (writing.pathOf setting.destination.style entry)),
          download.bytes <+: contentsOf setting.source disk reading number) :
    ∃ next, Afoot setting disk reading writing first next after next ∧
      Spares setting writing ⟨⟨number, 0⟩, .asking, failed⟩ next transfer after := by
  generalize isLength : keptLength setting.destination setting.codec
    transfer.manager.volume.disk (writing.pathOf setting.destination.style entry) digest =
      length at answers agrees
  obtain ⟨job, current, single, kept⟩ := working.job
  have ownJob : job.id = reading.id := kept.setup.id.trans matched.id
  have later : ∀ other, (Cursor.mk (number + 1) 0).Awaits other →
      (Cursor.mk number 0).Awaits other := by
    rintro other (behind | ⟨rfl, _⟩)
    · exact .inl (Nat.lt_of_succ_lt behind)
    · exact .inl (Nat.lt_succ_self number)
  have reads : Reads setting disk reading transfer.skipped
      ⟨⟨number, (0 : UInt32).toNat⟩, .sending, failed⟩
      (transfer.reader.step setting.source setting.codec
        (.sendConfirm ⟨reading.id, number, some (.offsetBlk 0)⟩)) :=
    afoot.reads.takeWhole rfl
  cases answers with
  | waits => exact ⟨_, afoot, .of_disk (fun _ awaits => awaits) rfl⟩
  | aside plain =>
      rw [own, asks]
      rcases plain with rfl | rfl
      · refine ⟨_, afoot.leavesOut way working afoot.running single (kept.leavesOut ?_ ?_),
          .of_disk later rfl⟩
        · exact fun _ => List.mem_cons_of_mem _
        · exact List.mem_cons_self
      · exact ⟨_, afoot.takesUp way working reads afoot.running single kept,
          .of_disk (fun _ awaits => awaits) rfl⟩
  | both plain =>
      rw [own, asks]
      have whole := afoot.answersWhole way working single ownJob kept
      rcases plain with rfl | rfl | ⟨rfl, left, resuming⟩
      · obtain ⟨confirmed, next, isConfirmed, keptAfter⟩ := kept.confirm_skip
          (show ∀ other : Nat, (other : Int) ∈ transfer.skipped →
              (other : Int) ∈ (number : Int) :: transfer.skipped from
            fun _ => List.mem_cons_of_mem _) List.mem_cons_self reading.id
        rw [Transfer.confirmWriter_single setting afoot.running single ownJob isConfirmed]
        exact ⟨_, afoot.leavesOut way working afoot.running rfl keptAfter, .of_disk later rfl⟩
      · exact whole
      · by_cases positive : 0 < UInt32.ofNat length
        · obtain ⟨atFile, reopens, isPrefix⟩ := agrees resuming left positive
          have isCurrent : current = number := by
            have here := atFile job (by rw [single]; exact List.mem_singleton_self job)
            rw [kept.fileNum] at here
            exact_mod_cast here
          subst isCurrent
          exact afoot.answersResume matched way working single ownJob kept found isLength left
            positive reopens isPrefix
        · have nothing := not_not.mp (mt UInt32.pos_iff_ne_zero.mpr positive)
          rw [nothing]
          exact whole

end Afoot

/-- What is left of a file may be gone on with. -/
def MayResume
    (setting : Setting Source Destination)
    (transfer : Transfer Source Destination)
    (digest : FileTransferDigest)
    (job : TransferJob) : Prop :=
  match setting.direction with
  | .download => setting.supportsResume = true ∧ job.isResume = true
  | .upload => digest.isResume = true ∧ ∃ job ∈ transfer.reader.readJobs, job.isResume = true

instance
    (transfer : Transfer Source Destination)
    (digest : FileTransferDigest)
    (job : TransferJob) :
    Decidable (MayResume setting transfer digest job) :=
  match direction : setting.direction with
  | .download =>
      decidable_of_iff (setting.supportsResume = true ∧ job.isResume = true)
        (by simp only [MayResume, direction])
  | .upload =>
      decidable_of_iff
        (digest.isResume = true ∧ ∃ job ∈ transfer.reader.readJobs, job.isResume = true)
        (by simp only [MayResume, direction])

/-- A digest of which something is left finds the write job at its file, and the reading side can
open the file again. -/
def Meets
    (setting : Setting Source Destination)
    (reading : TransferJob)
    (transfer : Transfer Source Destination)
    (digest : FileTransferDigest) : Prop :=
  ∀ job ∈ transfer.manager.writeJobs, ∀ file ∈ job.files[asUsize digest.fileNum]?,
    MayResume setting transfer digest job →
    0 < UInt32.ofNat (keptLength setting.destination setting.codec transfer.manager.volume.disk
      (job.pathOf setting.destination.style file) digest) →
    job.fileNum = digest.fileNum ∧
      ∀ source ∈ reading.files[asUsize digest.fileNum]?,
        Reopens setting.source transfer.reader.volume
          (reading.pathOf setting.source.style source)

instance
    (reading : TransferJob)
    (transfer : Transfer Source Destination)
    (digest : FileTransferDigest) :
    Decidable (Meets setting reading transfer digest) := by
  unfold Meets
  infer_instance

/-- What is left of the file of a digest is a part of it. -/
def LeftPart
    (setting : Setting Source Destination)
    (disk : Disk Source)
    (reading : TransferJob)
    (transfer : Transfer Source Destination)
    (digest : FileTransferDigest) : Prop :=
  ∀ job ∈ transfer.manager.writeJobs, ∀ file ∈ job.files[asUsize digest.fileNum]?,
    0 < keptLength setting.destination setting.codec transfer.manager.volume.disk
      (job.pathOf setting.destination.style file) digest →
    ∀ download ∈ fileAt setting.destination transfer.manager.volume.disk
        (downloadOf (job.pathOf setting.destination.style file)),
      download.bytes <+: contentsOf setting.source disk reading (asUsize digest.fileNum)

/-- Steps that spare files, one after the other. -/
theorem Spares.trans
    {middle next : Stage}
    {between after : Transfer Source Destination}
    (one : Spares setting writing behind middle transfer between)
    (other : Spares setting writing middle next between after) :
    Spares setting writing behind next transfer after := by
  intro number awaits
  obtain ⟨awaitsMiddle, later⟩ := other number awaits
  obtain ⟨awaitsBehind, earlier⟩ := one number awaitsMiddle
  exact ⟨awaitsBehind, fun role location here =>
    (earlier role location here).trans (later role location here)⟩

namespace Transfer

variable (setting)

/-- Without a write job a digest is not answered. -/
theorem deliver_digest_gone
    {digest : FileTransferDigest}
    (way : transfer.way = .digest digest :: rest)
    (none : transfer.manager.writeJobs = [])
    (decision : Decision) :
    transfer.step setting (.deliver decision) =
      { transfer with way := rest, handled := transfer.handled ++ [.digest digest] } := by
  have unhandled : ∀ event, event = FsEvent.checkDigest digest.id digest.fileNum digest.fileSize
      digest.lastModified true digest.isResume →
      handleFs setting.destination setting.codec event transfer.manager =
        (transfer.manager, []) := by
    rintro _ rfl
    unfold handleFs
    split
    · rfl
    · simp only [handleRunning, none, getJob, List.find?_nil]
  cases direction : setting.direction with
  | download =>
      simp only [step, way, direction, handleResponse, onDigest, none, getJob, List.find?_nil,
        ite_self]
  | upload =>
      simp only [step, way, direction, handleRequest, eventOf, unhandled _ rfl, List.foldl_nil]

/-- With a write job a digest is checked and answered. -/
theorem deliver_digest
    {digest : FileTransferDigest}
    {job waiting : TransferJob}
    {file : FileEntry}
    (way : transfer.way = .digest digest :: rest)
    (steady : Steady setting.destination)
    (running : transfer.manager.panicked = false)
    (single : transfer.manager.writeJobs = [job])
    (own : job.id = digest.id)
    (found : job.files[asUsize digest.fileNum]? = some file)
    (reads : getJob digest.id transfer.reader.readJobs = some waiting)
    (inside : asUsize digest.fileNum < waiting.files.length)
    (notUpload : digest.isUpload = false)
    (decision : Decision) :
    ∃ after volume told, volume.disk = transfer.manager.volume.disk ∧
      (∃ kept, after = { job with digest := kept }) ∧
      (∀ id fileNum, JobStatus.jobDone id fileNum ∉ told) ∧
      Answers setting digest
        (keptLength setting.destination setting.codec transfer.manager.volume.disk
          (job.pathOf setting.destination.style file) digest)
        (MayResume setting transfer digest job)
        { transfer with
          way := rest
          handled := transfer.handled ++ [.digest digest]
          manager := { transfer.manager with writeJobs := [after], volume := volume }
          shown := transfer.shown ++ told }
        (transfer.step setting (.deliver decision)) := by
  let taken : Transfer Source Destination :=
    { transfer with way := rest, handled := transfer.handled ++ [.digest digest] }
  cases direction : setting.direction with
  | download =>
      obtain ⟨volume, same, answers⟩ :=
        @onDigest_answers _ _ _ _ setting taken digest job file steady single own found decision
      refine ⟨{ job with digest := ⟨digest.fileSize, digest.lastModified⟩ }, volume, [], same,
        ⟨_, rfl⟩, nofun, ?_⟩
      simp only [step, way, direction, handleResponse, notUpload, Bool.false_eq_true, if_false,
        MayResume, List.append_nil]
      exact answers
  | upload =>
      obtain ⟨after, volume, told, same, noted, noEnd, answers⟩ :=
        @handleRequest_answers _ _ _ _ setting taken digest job waiting file steady running single
          own found reads inside decision
      refine ⟨after, volume, told, same, noted, noEnd, ?_⟩
      simp only [step, way, direction, MayResume]
      exact answers

end Transfer

/-- A digest is answered at both ends, or not at all. -/
theorem Afoot.digest
    (matched : Matched setting reading writing first)
    (afoot : Afoot setting disk reading writing first behind transfer ahead)
    {digest : FileTransferDigest}
    (way : transfer.way = .digest digest :: rest)
    (meets : Meets setting reading transfer digest)
    (leftPart : LeftPart setting disk reading transfer digest)
    (decision : Decision) :
    ∃ next final,
      Afoot setting disk reading writing first next
        (transfer.step setting (.deliver decision)) final ∧
      Spares setting writing behind next transfer
        (transfer.step setting (.deliver decision)) := by
  obtain ⟨asking, takes, course⟩ := afoot.oldest way
  have waits := takes.sending
  have noBlock : ∀ number, ¬Completes setting.codec [.digest digest] number := by
    rintro number ⟨block, member, _⟩
    cases List.mem_singleton.mp member
  have notEnded : ∀ (id fileNum : Int), .jobDone id fileNum ∉ transfer.shown := by
    intro id fileNum member
    have ended := afoot.closed id fileNum member
    rw [waits] at ended
    cases ended
  cases takes with
  | @digest number failed _ inside own asks notUpload =>
      obtain ⟨rfl, rfl⟩ := Takes.course_nil course nofun
      rcases afoot.writes with working | gone
      · obtain ⟨job, current, single, kept⟩ := working.job
        have ownJob : job.id = digest.id :=
          (kept.setup.id.trans matched.id).trans own.symm
        have insideWriting : number < writing.files.length := by
          rw [matched.length]
          exact inside
        have found : job.files[asUsize digest.fileNum]? = some writing.files[number] := by
          rw [kept.setup.files, asks, asUsize_natCast]
          exact List.getElem?_eq_getElem insideWriting
        obtain ⟨waiting, isWaiting, reads⟩ : ∃ waiting, transfer.reader.readJobs = [waiting] ∧
            TransferJob.SameSetup reading waiting := by
          rcases afoot.reads.job with ⟨waiting, only, isReading⟩ | ⟨_, ended⟩
          · exact ⟨waiting, only, isReading.setup⟩
          · cases ended
        have isHere : getJob digest.id transfer.reader.readJobs = some waiting := by
          rw [isWaiting, getJob_singleton, if_pos (reads.id.trans own.symm)]
        have insideReading : asUsize digest.fileNum < waiting.files.length := by
          rw [asks, asUsize_natCast, reads.files]
          exact inside
        obtain ⟨after, volume, told, same, ⟨noted, rfl⟩, noEnd, answers⟩ :=
          Transfer.deliver_digest setting way matched.permits.steady afoot.running
            single ownJob found isHere insideReading notUpload decision
        let after : TransferJob := { job with digest := noted }
        let asked : Transfer Source Destination :=
          { transfer with
            way := []
            handled := transfer.handled ++ [.digest digest]
            manager := { transfer.manager with writeJobs := [after], volume := volume }
            shown := transfer.shown ++ told }
        have keptAfter : Writing setting.destination writing first
            (contentsOf setting.source disk reading)
            (fun number => (number : Int) ∈ transfer.skipped) volume.disk ⟨number, 0⟩ current
            after := by
          rw [same]
          exact kept.of_flags ⟨rfl, rfl, rfl, rfl, rfl, rfl⟩ rfl rfl fun _ left => left
        have workingAsked : Working setting disk reading writing first
            ⟨⟨number, 0⟩, .asking, failed⟩ asked := by
          refine ⟨working.sound, nofun, fun other fromFirst before => ?_, after, current, rfl,
            keptAfter⟩
          exact (working.passed other fromFirst before).imp_left fun done => done.append _
        have afootAsked : Afoot setting disk reading writing first
            ⟨⟨number, 0⟩, .asking, failed⟩ asked ⟨⟨number, 0⟩, .asking, failed⟩ := by
          refine afoot.handles way (.digest inside own asks notUpload) rfl afoot.running
            (fun _ => List.mem_append_left told) nofun (fun id fileNum member => ?_) nofun
            (.inl workingAsked)
          exact .inl ((List.mem_append.mp member).resolve_right (noEnd id fileNum))
        have samePath : job.pathOf setting.destination.style writing.files[number] =
            writing.pathOf setting.destination.style writing.files[number] :=
          kept.setup.pathOf_eq ..
        have answersAsked : Answers setting digest
            (keptLength setting.destination setting.codec asked.manager.volume.disk
              (writing.pathOf setting.destination.style writing.files[number]) digest)
            (MayResume setting transfer digest job) asked
            (transfer.step setting (.deliver decision)) := by
          rw [show asked.manager.volume.disk = transfer.manager.volume.disk from same, ← samePath]
          exact answers
        have isJob : job ∈ transfer.manager.writeJobs := by
          rw [single]
          exact List.mem_singleton_self job
        have meetsAsked := meets job isJob _ found
        have leftAsked := leftPart job isJob _ found
        rw [samePath, ← same, asks, asUsize_natCast, kept.fileNum] at meetsAsked
        rw [samePath, ← same, asks, asUsize_natCast] at leftAsked
        obtain ⟨next, afootNext, spares⟩ := afootAsked.answers matched rfl workingAsked own asks
          (List.getElem?_eq_getElem insideWriting) answersAsked fun resumes left positive => by
            obtain ⟨atFile, reopens⟩ := meetsAsked resumes positive
            refine ⟨fun other member => ?_, reopens, leftAsked left⟩
            obtain rfl := List.mem_singleton.mp member
            exact kept.fileNum.trans atFile
        refine ⟨next, next, afootNext, Spares.trans ?_ spares⟩
        exact .of_disk (fun _ awaits => awaits) same
      · rw [Transfer.deliver_digest_gone setting way gone.none]
        refine ⟨_, _, afoot.handles way (.digest inside own asks notUpload) rfl afoot.running
          (fun _ told => told) nofun (fun _ _ => .inl) nofun (.inr ?_), .of_disk (fun _ l => l) rfl⟩
        exact gone.handles rfl (fun _ told => told) noBlock
          (fun _ number fromHere before => absurd fromHere (Nat.not_le_of_lt before))
          fun id fileNum member => absurd member (notEnded id fileNum)

end Fs
end OneDesk
