import OneDesk.Lib.Course
import OneDesk.Fs.EndToEnd
import OneDesk.Fs.Transfer

/-!
# Where a read job stands

A tick of a read job sends up to two messages, and each of them moves the stage
of the job on: a block by its bytes, an error to the next file, a digest to
waiting for an answer.  Files may be missing, and reading may fail at any time.
-/

namespace OneDesk
namespace Fs

open Lib

/-- What a read job does next. -/
inductive Phase where
  | sending
  | asking
  | ended
  deriving DecidableEq

/-- How far a read job has come, and whether it has sent an error. -/
structure Stage extends Cursor where
  phase : Phase
  failed : Bool

/-- The error that ends a job whose only file was skipped. -/
def skipError : FsError := .bail "skipped"

/-- What the messages of a read job say about its stage. -/
inductive Takes
    (codec : Codec)
    (start : TransferJob)
    (contents : Nat → List UInt8)
    (skipped : List Int) : Stage → FileMessage → Stage → Prop
  | block
      {cursor : Cursor}
      {failed : Bool}
      {block : FileTransferBlock}
      (inside : cursor.number < start.files.length)
      (carries : Carries codec start.id contents cursor block) :
      Takes codec start contents skipped ⟨cursor, .sending, failed⟩ (.block block)
        ⟨cursor.next contents, .sending, failed⟩
  | digest
      {number : Nat}
      {failed : Bool}
      {digest : FileTransferDigest}
      (inside : number < start.files.length)
      (own : digest.id = start.id)
      (asks : digest.fileNum = number)
      (notUpload : digest.isUpload = false) :
      Takes codec start contents skipped ⟨⟨number, 0⟩, .sending, failed⟩ (.digest digest)
        ⟨⟨number, 0⟩, .asking, failed⟩
  | fails
      {cursor : Cursor}
      {failed : Bool}
      {operation : Operation String}
      (inside : cursor.number < start.files.length) :
      Takes codec start contents skipped ⟨cursor, .sending, failed⟩
        (.error start.id (.io operation) (cursor.number + 1))
        ⟨⟨cursor.number + 1, 0⟩, .sending, true⟩
  | stalls
      {number : Nat}
      {failed : Bool}
      {text : String}
      (inside : number < start.files.length)
      (genuine : FsError.bail text ≠ skipError) :
      Takes codec start contents skipped ⟨⟨number, 0⟩, .sending, failed⟩
        (.error start.id (.bail text) number) ⟨⟨number, 0⟩, .sending, true⟩
  | done
      {number : Nat}
      {failed : Bool}
      (finished : failed = false → start.files.length ≤ number) :
      Takes codec start contents skipped ⟨⟨number, 0⟩, .sending, failed⟩ (.done start.id number)
        ⟨⟨number, 0⟩, .ended, failed⟩
  | skips
      {failed : Bool}
      (alone : start.files.length = 1)
      (skips : 0 ∈ skipped) :
      Takes codec start contents skipped ⟨⟨1, 0⟩, .sending, failed⟩
        (.error start.id skipError 1) ⟨⟨1, 0⟩, .ended, true⟩

/-- An error that says that a file could not be read. -/
def Troubled (message : FileMessage) : Prop :=
  ∃ id error fileNum, message = .error id error fileNum ∧ error ≠ skipError

instance : DecidablePred Troubled
  | .error id error fileNum =>
      decidable_of_iff (error ≠ skipError)
        ⟨fun trouble => ⟨id, error, fileNum, rfl, trouble⟩, fun ⟨_, _, _, same, trouble⟩ => by
          cases same
          exact trouble⟩
  | .block _ | .digest _ | .done _ _ | .sendConfirm _ => isFalse nofun

section Job

variable {Location : Type} [DecidableEq Location]

/-- A read job at a stage. -/
structure Reading
    (os : Os Location)
    (disk : Disk Location)
    (start : TransferJob)
    (skipped : List Int)
    (stage : Stage)
    (job : TransferJob) : Prop where
  setup : TransferJob.SameSetup start job
  fileNum : job.fileNum = stage.number
  idle : job.dataStream = none → stage.position = 0 ∧ stage.phase = .sending
  streams : ∀ stream, job.dataStream = some stream →
    stage.number < start.files.length ∧ stream.position = stage.position ∧
      (disk.files stream.inode).bytes = contentsOf os disk start stage.number ∧
      (Readable os disk start → start.enableOverwriteDetection = true →
        0 ≤ (disk.files stream.inode).modified)
  present : stage.phase ≠ .ended
  asks : stage.phase = .asking ↔
    start.enableOverwriteDetection = true ∧ job.fileIsWaiting = true ∧ job.fileConfirmed = false
  untouched : start.enableOverwriteDetection = true → job.fileConfirmed = false →
    stage.position = 0
  lastSkipped : job.fileSkipped = true → start.files.length = 1 →
    stage.number = 1 ∧ 0 ∈ skipped

/-- A read job that is about to send has its file open and was confirmed, unless it failed. -/
structure Poised (start : TransferJob) (stage : Stage) (job : TransferJob) : Prop where
  asked : stage.failed = false → stage.number < start.files.length →
    start.enableOverwriteDetection = true → job.fileConfirmed = true ∨ job.fileIsWaiting = true
  opened : stage.failed = false → stage.number < start.files.length → job.dataStream ≠ none

variable {os : Os Location} {codec : Codec} {disk : Disk Location} {start job : TransferJob}
variable {skipped : List Int} {stage : Stage} {volume : Volume String Location}

namespace Reading

theorem currentEntry_eq (reading : Reading os disk start skipped stage job) :
    job.currentEntry = start.files[stage.number]? := by
  rw [TransferJob.currentEntry, reading.setup.files, reading.fileNum, asUsize_natCast]

/-- No file is open behind the last one. -/
theorem closed
    (reading : Reading os disk start skipped stage job)
    (beyond : start.files.length ≤ stage.number) :
    job.dataStream = none := by
  cases streaming : job.dataStream with
  | none => rfl
  | some stream => exact absurd (reading.streams stream streaming).1 (by omega)

/-- A stage that is sending, taken apart. -/
theorem stage_eq
    (reading : Reading os disk start skipped stage job)
    (quiet : ¬(start.enableOverwriteDetection = true ∧ job.fileIsWaiting = true ∧
      job.fileConfirmed = false)) :
    stage = ⟨⟨stage.number, stage.position⟩, .sending, stage.failed⟩ := by
  obtain ⟨⟨number, position⟩, phase, failed⟩ := stage
  cases phase with
  | sending => rfl
  | asking => exact absurd (reading.asks.mp rfl) quiet
  | ended => exact absurd rfl reading.present

end Reading

/-- What a tick may send before the turn of a job: its messages lead to a stage at which the job
is poised, and are no errors of files that can all be read. -/
structure Opens
    (os : Os Location)
    (codec : Codec)
    (disk : Disk Location)
    (start : TransferJob)
    (skipped : List Int)
    (stage : Stage)
    (opened : TransferJob.Outcome Location (List FileMessage))
    (after : Stage) : Prop where
  course : Course (Takes codec start (contentsOf os disk start) skipped)
    stage (initMessages opened) after
  reading : Reading os disk start skipped after opened.job
  poised : Poised start after opened.job
  untroubled : Readable os disk start → after.failed = stage.failed ∧
    ∀ message ∈ initMessages opened, ¬Troubled message

/-- The current file is asked for with a digest, unless it is dated before 1970. -/
theorem askForConfirm_opens
    (generic : start.type = .generic)
    (sameDisk : volume.disk = disk)
    (reading : Reading os disk start skipped stage job)
    (isOpen : job.dataStream ≠ none)
    (inside : stage.number < start.files.length) :
    ∃ after, Opens os codec disk start skipped stage (job.askForConfirm volume) after := by
  have detects := reading.setup.enableOverwriteDetection
  obtain ⟨stream, streaming⟩ := Option.ne_none_iff_exists'.mp isOpen
  unfold TransferJob.askForConfirm
  split
  · next asks =>
      have quiet : ¬(start.enableOverwriteDetection = true ∧ job.fileIsWaiting = true ∧
          job.fileConfirmed = false) := by
        rintro ⟨_, waiting, _⟩
        simp [waiting] at asks
      have unconfirmed : job.fileConfirmed = false := by simpa using asks.2.2.1
      have detection : start.enableOverwriteDetection = true := detects ▸ asks.2.1
      have atStart := reading.untouched detection unconfirmed
      have isStage := reading.stage_eq quiet
      rw [atStart] at isStage
      cases sends : job.sendCurrentDigest volume with
      | error error =>
          -- a file that is dated before 1970 cannot be asked for
          obtain ⟨text, rfl, genuine⟩ : ∃ text, error = .bail text ∧
              FsError.bail text ≠ skipError := by
            unfold TransferJob.sendCurrentDigest at sends
            simp only [streaming] at sends
            split at sends
            · exact ⟨_, (Except.error.inj sends).symm, by decide⟩
            · cases sends
          refine ⟨⟨⟨stage.number, 0⟩, .sending, true⟩, ?_, ?_, ⟨by simp, by simp⟩, ?_⟩
          · rw [isStage]
            simp only [initMessages, reading.setup.id, reading.fileNum]
            exact .one (.stalls inside genuine)
          · rw [isStage] at reading
            exact ⟨reading.setup, reading.fileNum, reading.idle, reading.streams, by simp,
              reading.asks, reading.untouched, reading.lastSkipped⟩
          · intro readable
            have dated := (reading.streams stream streaming).2.2.2 readable detection
            have notBefore : ¬(volume.disk.files stream.inode).modified < 0 := by
              rw [sameDisk]
              omega
            simp [TransferJob.sendCurrentDigest, streaming, notBefore] at sends
      | ok message =>
          have isDigest : ∃ digest, message = .digest digest ∧ digest.id = job.id ∧
              digest.fileNum = job.fileNum ∧ digest.isUpload = false := by
            unfold TransferJob.sendCurrentDigest at sends
            simp only [streaming] at sends
            split at sends
            · cases sends
            · exact ⟨_, (Except.ok.inj sends).symm, rfl, rfl, rfl⟩
          obtain ⟨digest, rfl, own, asked, notUpload⟩ := isDigest
          refine ⟨⟨⟨stage.number, 0⟩, .asking, stage.failed⟩, ?_, ?_, ?_, ?_⟩
          · rw [isStage]
            exact .one (.digest inside (own.trans reading.setup.id)
              (asked.trans reading.fileNum) notUpload)
          · rw [isStage] at reading
            exact ⟨reading.setup.trans ⟨rfl, rfl, rfl, rfl, rfl, rfl⟩, reading.fileNum,
              fun none => absurd none isOpen, reading.streams, by simp,
              ⟨fun _ => ⟨detection, rfl, unconfirmed⟩, fun _ => rfl⟩, fun _ _ => rfl,
              reading.lastSkipped⟩
          · exact ⟨fun _ _ _ => .inr rfl, fun _ _ => isOpen⟩
          · refine fun _ => ⟨rfl, ?_⟩
            rintro message member ⟨_, _, _, rfl, _⟩
            cases List.mem_singleton.mp member
  · next silent =>
      refine ⟨stage, rfl, reading, ⟨?_, fun _ _ => isOpen⟩,
        fun _ => ⟨rfl, by intros; contradiction⟩⟩
      intro _ _ detection
      rw [reading.setup.type, detects] at silent
      by_cases confirmed : job.fileConfirmed = true
      · exact .inl confirmed
      · refine .inr ?_
        simpa [generic, detection, confirmed] using silent

/-- A file that opens is at its start and has the contents that the job finds there. -/
theorem perform_openRead_opened
    {path : String}
    (opens : (perform os.toHost volume (.openRead path)).1 = true) :
    ∃ inode file, fileAt os volume.disk path = some file ∧ volume.disk.files inode = file ∧
      openedAt os.toHost (perform os.toHost volume (.openRead path)).2 path false =
        some ⟨inode, 0, false⟩ := by
  rcases perform_cases os.toHost volume (.openRead path) with ⟨refused, _⟩ | ⟨_, applies⟩
  · rw [opens] at refused
    cases refused
  · have sameDisk := perform_openRead_disk os.toHost volume path
    cases located : os.locate path with
    | none => simp [Operation.apply, located] at applies
    | some location =>
        cases named : volume.disk.names location with
        | none => simp [Operation.apply, located, named] at applies
        | some inode =>
            refine ⟨inode, volume.disk.files inode, ?_, rfl, ?_⟩
            · simp [fileAt, located, Disk.file, named]
            · simp [openedAt, located, sameDisk, named]

/-- A file of the job that can be read opens. -/
theorem Readable.opens
    {entry : FileEntry}
    (readable : Readable os volume.disk start)
    (member : entry ∈ start.files) :
    (perform os.toHost volume (.openRead (start.pathOf os.style entry))).1 = true := by
  obtain ⟨file, isFile, _⟩ := readable.present entry member
  obtain ⟨location, located, isAt⟩ := Option.bind_eq_some_iff.mp isFile
  obtain ⟨inode, named, _⟩ := Option.map_eq_some_iff.mp isAt
  rw [perform_of_apply os.toHost volume (readable.permits volume.log _)
    (show Operation.apply os.toHost volume.log volume.disk
      (.openRead (start.pathOf os.style entry)) = some volume.disk by
        simp [Operation.apply, located, named])]

/-- A job opens its current file and asks for it, or turns to the next one. -/
theorem initDataStream_opens
    (generic : start.type = .generic)
    (sameDisk : volume.disk = disk)
    (reading : Reading os disk start skipped stage job) :
    ∃ after, Opens os codec disk start skipped stage (job.initDataStream os volume) after := by
  cases found : start.files[stage.number]? with
  | none =>
      have current : job.currentEntry = none := reading.currentEntry_eq.trans found
      have beyond := List.getElem?_eq_none_iff.mp found
      have none := reading.closed beyond
      have isIdle := reading.idle none
      simp only [TransferJob.initDataStream, current]
      refine ⟨stage, rfl, ?_, ⟨?_, ?_⟩, fun _ => ⟨rfl, by intros; contradiction⟩⟩
      · exact ⟨reading.setup.trans ⟨rfl, rfl, rfl, rfl, rfl, rfl⟩, reading.fileNum,
          fun _ => isIdle, by simp, reading.present, reading.asks, reading.untouched,
          reading.lastSkipped⟩
      · exact fun _ inside => absurd inside (by omega)
      · exact fun _ inside => absurd inside (by omega)
  | some entry =>
      have current : job.currentEntry = some entry := reading.currentEntry_eq.trans found
      have inside := (List.getElem?_eq_some_iff.mp found).1
      cases streaming : job.dataStream with
      | some stream =>
          rw [TransferJob.initDataStream_streaming current streaming]
          exact askForConfirm_opens generic sameDisk reading (by simp [streaming]) inside
      | none =>
          obtain ⟨atStart, quiet⟩ := reading.idle streaming
          have isStage : stage = ⟨⟨stage.number, 0⟩, .sending, stage.failed⟩ := by
            rw [← atStart, ← quiet]
          have samePath := reading.setup.pathOf_eq os.style entry
          cases opens : (perform os.toHost volume
              (.openRead (start.pathOf os.style entry))).1 with
          | true =>
              obtain ⟨inode, file, isFile, isHeld, handle⟩ := perform_openRead_opened opens
              have isContents : contentsOf os disk start stage.number = file.bytes := by
                simp [contentsOf, found, ← sameDisk, isFile]
              have unfolded : job.initDataStream os volume =
                  TransferJob.askForConfirm
                    { job with
                      dataStream := some ⟨inode, 0, false⟩
                      fileConfirmed := false
                      fileIsWaiting := false }
                    (perform os.toHost volume
                      (.openRead (start.pathOf os.style entry))).2 := by
                rw [← samePath] at opens handle ⊢
                exact TransferJob.initDataStream_opened current streaming opens handle
              rw [unfolded]
              refine askForConfirm_opens generic ((perform_openRead_disk ..).trans sameDisk)
                ?_ (by simp) inside
              refine ⟨reading.setup.trans ⟨rfl, rfl, rfl, rfl, rfl, rfl⟩, reading.fileNum, by simp,
                ?_, reading.present, ?_, fun _ _ => atStart, reading.lastSkipped⟩
              · intro stream isStream
                obtain rfl := Option.some.inj isStream
                refine ⟨inside, atStart.symm, ?_, ?_⟩
                · rw [← sameDisk, isHeld, sameDisk, isContents]
                · intro readable detection
                  obtain ⟨other, isOther, dated⟩ :=
                    readable.present entry (List.mem_of_getElem? found)
                  rw [← sameDisk, isFile] at isOther
                  obtain rfl := Option.some.inj isOther
                  rw [← sameDisk, isHeld]
                  exact dated detection
              · rw [quiet]
                simp
          | false =>
              have unfolded : job.initDataStream os volume =
                  ⟨{ job with
                      fileNum := job.fileNum + 1
                      fileConfirmed := false
                      fileIsWaiting := false },
                    (perform os.toHost volume (.openRead (start.pathOf os.style entry))).2,
                    .error (.io (.openRead (start.pathOf os.style entry)))⟩ := by
                rw [← samePath] at opens ⊢
                exact TransferJob.initDataStream_fails current streaming opens
              rw [unfolded]
              refine ⟨⟨⟨stage.number + 1, 0⟩, .sending, true⟩, ?_, ?_, ⟨by simp, by simp⟩, ?_⟩
              · rw [isStage]
                simp only [initMessages, reading.setup.id, reading.fileNum]
                exact .one (.fails inside)
              · refine ⟨reading.setup.trans ⟨rfl, rfl, rfl, rfl, rfl, rfl⟩, ?_,
                  fun _ => ⟨rfl, rfl⟩, ?_, by simp, ?_, fun _ _ => rfl, ?_⟩
                · simp [reading.fileNum]
                · intro stream isStream
                  rw [show job.dataStream = some stream from isStream] at streaming
                  cases streaming
                · simp
                · intro wasSkipped alone
                  have := (reading.lastSkipped wasSkipped alone).1
                  omega
              · intro readable
                rw [← sameDisk] at readable
                have := readable.opens (List.mem_of_getElem? found)
                rw [opens] at this
                cases this

/-- What a turn sends: its messages lead on, and the job has ended or goes on reading. -/
structure Turns
    (os : Os Location)
    (codec : Codec)
    (disk : Disk Location)
    (start : TransferJob)
    (skipped : List Int)
    (stage : Stage)
    (turn : ReadTurn Location)
    (after : Stage) : Prop where
  course : Course (Takes codec start (contentsOf os disk start) skipped)
    stage turn.messages after
  ends : turn.finished = true → after.phase = .ended
  reading : turn.finished = false → Reading os disk start skipped after turn.job
  untroubled : Readable os disk start → stage.failed = false →
    (turn.finished = false → after.failed = false) ∧ ∀ message ∈ turn.messages, ¬Troubled message

/-- A job that reads nothing is asked whether it is completed. -/
theorem readTurn_none
    {after : TransferJob}
    {later : Volume String Location}
    (nothing : job.read os codec volume = ⟨after, later, .ok none⟩) :
    readTurn os codec job volume =
      if after.jobCompleted then
        match after.jobError with
        | some text => ⟨after, later, [.error after.id (.bail text) after.fileNum], true⟩
        | none => ⟨after, later, [.done after.id after.fileNum], true⟩
      else ⟨after, later, [], false⟩ := by
  simp only [readTurn, nothing] <;> rfl

/-- A turn in which nothing was read: the job waits, or it reports its end. -/
theorem readTurn_nothing
    (reading : Reading os disk start skipped stage job)
    {after : TransferJob}
    {later : Volume String Location}
    (nothing : job.read os codec volume = ⟨after, later, .ok none⟩)
    (setup : TransferJob.SameSetup job after)
    (same : after.fileNum = job.fileNum ∧ after.dataStream = job.dataStream ∧
      after.fileConfirmed = job.fileConfirmed ∧ after.fileIsWaiting = job.fileIsWaiting ∧
      after.fileSkipped = job.fileSkipped)
    (finished : after.jobCompleted = true →
      stage = ⟨⟨stage.number, 0⟩, .sending, stage.failed⟩ ∧
        (stage.failed = false → start.files.length ≤ stage.number)) :
    ∃ final, Turns os codec disk start skipped stage (readTurn os codec job volume) final := by
  have allSetup := reading.setup.trans setup
  obtain ⟨fileNum, stream, confirmed, waiting, wasSkipped⟩ := same
  rw [readTurn_none nothing]
  by_cases completed : after.jobCompleted = true
  · obtain ⟨isStage, beyond⟩ := finished completed
    rw [if_pos completed]
    cases failing : after.jobError with
    | some text =>
        have onlySkipped : after.fileSkipped = true ∧ after.files.length = 1 ∧
            text = "skipped" := by
          unfold TransferJob.jobError at failing
          split at failing
          · next jobSkipped =>
              simp only [TransferJob.jobSkipped, Bool.and_eq_true, beq_iff_eq] at jobSkipped
              exact ⟨jobSkipped.1, jobSkipped.2, (Option.some.inj failing).symm⟩
          · cases failing
        obtain ⟨isSkipped, alone, rfl⟩ := onlySkipped
        rw [wasSkipped] at isSkipped
        rw [allSetup.files] at alone
        obtain ⟨behind, noted⟩ := reading.lastSkipped isSkipped alone
        refine ⟨⟨⟨1, 0⟩, .ended, true⟩, ?_, fun _ => rfl, by simp, ?_⟩
        · rw [isStage]
          simp only [allSetup.id, fileNum, reading.fileNum, behind]
          exact .one (.skips alone noted)
        · refine fun _ _ => ⟨by simp, ?_⟩
          rintro message member ⟨_, _, _, rfl, genuine⟩
          cases List.mem_singleton.mp member
          exact genuine rfl
    | none =>
        refine ⟨⟨⟨stage.number, 0⟩, .ended, stage.failed⟩, ?_, fun _ => rfl, by simp, ?_⟩
        · rw [isStage]
          simp only [allSetup.id, fileNum, reading.fileNum]
          exact .one (.done beyond)
        · refine fun _ _ => ⟨by simp, ?_⟩
          rintro message member ⟨_, _, _, rfl, _⟩
          cases List.mem_singleton.mp member
  · rw [if_neg completed]
    refine ⟨stage, rfl, by simp, fun _ => ?_, fun _ sound => ⟨fun _ => sound, by simp⟩⟩
    exact ⟨allSetup, fileNum.trans reading.fileNum, by rw [stream]; exact reading.idle,
      by rw [stream]; exact reading.streams, reading.present,
      by rw [confirmed, waiting]; exact reading.asks, by rw [confirmed]; exact reading.untouched,
      by rw [wasSkipped]; exact reading.lastSkipped⟩

/-- A block that was read brings the chunk of the cursor, and an empty one ends the file. -/
theorem readTurn_block
    (inverse : ∀ data, codec.decompress (codec.compress data) = data)
    (generic : start.type = .generic)
    (sameDisk : volume.disk = disk)
    (reading : Reading os disk start skipped stage job)
    {stream : Handle}
    {entry : FileEntry}
    (streaming : job.dataStream = some stream)
    (current : job.currentEntry = some entry)
    (quiet : ¬(job.type = .generic ∧ job.enableOverwriteDetection ∧ !job.fileConfirmed))
    (isStage : stage = ⟨⟨stage.number, stage.position⟩, .sending, stage.failed⟩)
    (reads : (perform os.toHost volume (.read stream)).1 = true) :
    ∃ final, Turns os codec disk start skipped stage (readTurn os codec job volume) final := by
  have setup := reading.setup
  obtain ⟨inside, position, bytes, dated⟩ := reading.streams stream streaming
  have later : (perform os.toHost volume (.read stream)).2.disk = disk :=
    (perform_read_disk ..).trans sameDisk
  have chunk : (((perform os.toHost volume (.read stream)).2.disk.files stream.inode).bytes.drop
      stream.position).take bufSize = stage.toCursor.chunk (contentsOf os disk start) := by
    rw [later, bytes, position]
    rfl
  have notSkipped : job.fileSkipped = true → start.files.length = 1 → False := by
    intro wasSkipped alone
    have := (reading.lastSkipped wasSkipped alone).1
    omega
  refine ⟨⟨stage.toCursor.next (contentsOf os disk start), .sending, stage.failed⟩, ?_⟩
  by_cases ends : stage.toCursor.chunk (contentsOf os disk start) = []
  · have turned : readTurn os codec job volume =
        ⟨job.nextFile, (perform os.toHost volume (.read stream)).2,
          [.block ⟨job.id, job.fileNum, [], false⟩], false⟩ := by
      simp only [readTurn, TransferJob.read, if_neg quiet, current, streaming, reads, if_true,
        chunk, ends]
    rw [turned]
    refine ⟨?_, by simp, fun _ => ?_, ?_⟩
    · rw [isStage]
      refine .one (.block inside ⟨setup.id, reading.fileNum, ?_⟩)
      rw [isStage] at ends
      simp [TransferJob.payload, ends]
    · rw [Cursor.next, if_pos ends]
      refine ⟨setup.trans ⟨rfl, rfl, rfl, rfl, rfl, rfl⟩, ?_, fun _ => ⟨rfl, rfl⟩,
        by simp [TransferJob.nextFile], by simp, ?_, fun _ _ => rfl, ?_⟩
      · simp [TransferJob.nextFile, reading.fileNum]
      · simp [TransferJob.nextFile]
      · exact fun wasSkipped alone => (notSkipped wasSkipped alone).elim
    · refine fun _ sound => ⟨fun _ => sound, ?_⟩
      rintro message member ⟨_, _, _, rfl, _⟩
      cases List.mem_singleton.mp member
  · have sent : readTurn os codec job volume =
        ⟨{ job with
            dataStream := some
              { stream with
                position := stream.position +
                  (stage.toCursor.chunk (contentsOf os disk start)).length }
            finishedSize := job.finishedSize +
              (stage.toCursor.chunk (contentsOf os disk start)).length
            transferred := job.transferred + (TransferJob.packed codec entry.name
              (stage.toCursor.chunk (contentsOf os disk start))).1.length },
          (perform os.toHost volume (.read stream)).2,
          [.block ⟨job.id, job.fileNum,
            (TransferJob.packed codec entry.name
              (stage.toCursor.chunk (contentsOf os disk start))).1,
            (TransferJob.packed codec entry.name
              (stage.toCursor.chunk (contentsOf os disk start))).2⟩], false⟩ := by
      simp only [readTurn, TransferJob.read, if_neg quiet, current, streaming, reads, if_true,
        chunk, if_neg ends]
    rw [sent]
    refine ⟨?_, by simp, fun _ => ?_, ?_⟩
    · rw [isStage]
      exact .one (.block inside ⟨setup.id, reading.fileNum, payload_packed inverse _ _ _ _⟩)
    · rw [Cursor.next, if_neg ends]
      have unasked : ¬(start.enableOverwriteDetection = true ∧ job.fileIsWaiting = true ∧
          job.fileConfirmed = false) := by
        intro asked
        have := reading.asks.mpr asked
        rw [isStage] at this
        cases this
      refine ⟨setup.trans ⟨rfl, rfl, rfl, rfl, rfl, rfl⟩, reading.fileNum, by simp, ?_, by simp,
        ⟨by simp, fun asked => absurd asked unasked⟩, ?_, reading.lastSkipped⟩
      · intro moved isMoved
        obtain rfl := Option.some.inj isMoved
        exact ⟨inside, by simp [position], bytes, dated⟩
      · intro detection unconfirmed
        rw [setup.type, setup.enableOverwriteDetection] at quiet
        exact absurd ⟨generic, detection, by simpa using unconfirmed⟩ quiet
    · refine fun _ sound => ⟨fun _ => sound, ?_⟩
      rintro message member ⟨_, _, _, rfl, _⟩
      cases List.mem_singleton.mp member

/-- A job that is poised sends a block, reports an error or its end, or waits. -/
theorem readTurn_turns
    (inverse : ∀ data, codec.decompress (codec.compress data) = data)
    (generic : start.type = .generic)
    (sameDisk : volume.disk = disk)
    (reading : Reading os disk start skipped stage job)
    (poised : Poised start stage job) :
    ∃ final, Turns os codec disk start skipped stage (readTurn os codec job volume) final := by
  have setup := reading.setup
  by_cases waits : job.type = .generic ∧ job.enableOverwriteDetection ∧ !job.fileConfirmed
  · have unread : job.read os codec volume = ⟨job, volume, .ok none⟩ := by
      simp only [TransferJob.read, if_pos waits]
    refine readTurn_nothing reading unread (.refl job) ⟨rfl, rfl, rfl, rfl, rfl⟩ ?_
    intro completed
    have detection : start.enableOverwriteDetection = true :=
      setup.enableOverwriteDetection ▸ waits.2.1
    have unconfirmed : job.fileConfirmed = false := by simpa using waits.2.2
    have notWaiting : job.fileIsWaiting = false := by
      simpa [TransferJob.jobCompleted, waits.2.1, unconfirmed] using completed
    have quiet : ¬(start.enableOverwriteDetection = true ∧ job.fileIsWaiting = true ∧
        job.fileConfirmed = false) := by
      simp [notWaiting]
    have isStage := reading.stage_eq quiet
    rw [reading.untouched detection unconfirmed] at isStage
    refine ⟨isStage, fun sound => ?_⟩
    by_contra inside
    rcases poised.asked sound (by omega) detection with confirmed | waiting
    · rw [unconfirmed] at confirmed
      cases confirmed
    · rw [notWaiting] at waiting
      cases waiting
  · have quiet : ¬(start.enableOverwriteDetection = true ∧ job.fileIsWaiting = true ∧
        job.fileConfirmed = false) := by
      rintro ⟨detection, _, unconfirmed⟩
      rw [setup.type, setup.enableOverwriteDetection] at waits
      exact waits ⟨generic, detection, by simp [unconfirmed]⟩
    have isStage := reading.stage_eq quiet
    cases found : start.files[stage.number]? with
    | none =>
        have current : job.currentEntry = none := reading.currentEntry_eq.trans found
        have beyond := List.getElem?_eq_none_iff.mp found
        have closed := reading.closed beyond
        have ended : job.read os codec volume =
            ⟨{ job with dataStream := none }, volume, .ok none⟩ := by
          simp only [TransferJob.read, if_neg waits, current]
        refine readTurn_nothing reading ended ⟨rfl, rfl, rfl, rfl, rfl, rfl⟩
          ⟨rfl, closed.symm, rfl, rfl, rfl⟩ ?_
        intro _
        rw [(reading.idle closed).1] at isStage
        exact ⟨isStage, fun _ => beyond⟩
    | some entry =>
        have current : job.currentEntry = some entry := reading.currentEntry_eq.trans found
        have inside := (List.getElem?_eq_some_iff.mp found).1
        cases streaming : job.dataStream with
        | none =>
            have unread : readTurn os codec job volume =
                ⟨job, volume,
                  [.error job.id (.bail "data stream is None") job.fileNum], false⟩ := by
              simp only [readTurn, TransferJob.read, if_neg waits, current, streaming]
            have atStart := (reading.idle streaming).1
            rw [unread]
            refine ⟨⟨⟨stage.number, 0⟩, .sending, true⟩, ?_, by simp, fun _ => ?_, ?_⟩
            · rw [isStage, atStart]
              simp only [setup.id, reading.fileNum]
              exact .one (.stalls inside (by decide))
            · rw [isStage, atStart] at reading
              exact ⟨setup, reading.fileNum, reading.idle, reading.streams, by simp, reading.asks,
                reading.untouched, reading.lastSkipped⟩
            · intro _ sound
              exact absurd streaming (poised.opened sound inside)
        | some stream =>
            cases reads : (perform os.toHost volume (.read stream)).1 with
            | true =>
                exact readTurn_block inverse generic sameDisk reading streaming current waits
                  isStage reads
            | false =>
                have failed : readTurn os codec job volume =
                    ⟨job.nextFile, (perform os.toHost volume (.read stream)).2,
                      [.error job.id (.io (.read stream)) (job.fileNum + 1)], false⟩ := by
                  simp only [readTurn, TransferJob.read, if_neg waits, current, streaming, reads,
                    Bool.false_eq_true, if_false]
                  rfl
                rw [failed]
                refine ⟨⟨⟨stage.number + 1, 0⟩, .sending, true⟩, ?_, by simp, fun _ => ?_, ?_⟩
                · rw [isStage]
                  simp only [setup.id, reading.fileNum]
                  exact .one (.fails inside)
                · refine ⟨setup.trans ⟨rfl, rfl, rfl, rfl, rfl, rfl⟩, ?_, fun _ => ⟨rfl, rfl⟩,
                    by simp [TransferJob.nextFile], by simp, ?_, fun _ _ => rfl, ?_⟩
                  · simp [TransferJob.nextFile, reading.fileNum]
                  · simp [TransferJob.nextFile]
                  · intro wasSkipped alone
                    have := (reading.lastSkipped wasSkipped alone).1
                    omega
                · intro readable _
                  rw [perform_of_apply os.toHost volume (readable.permits volume.log (.read stream))
                    (show Operation.apply os.toHost volume.log volume.disk (.read stream) =
                      some volume.disk from rfl)] at reads
                  cases reads

end Job

section Late

variable {Location : Type} [DecidableEq Location]

/-- The current file of a job can be opened, unless it is open already, and is dated after
1970. -/
def Askable (os : Os Location) (volume : Volume String Location) (job : TransferJob) : Prop :=
  ∀ entry ∈ job.currentEntry,
    match job.dataStream with
    | some stream => 0 ≤ (volume.disk.files stream.inode).modified
    | none =>
        let opened := perform os.toHost volume (.openRead (job.pathOf os.style entry))
        opened.1 = true ∧
          ∀ stream ∈ openedAt os.toHost opened.2 (job.pathOf os.style entry) false,
            0 ≤ (opened.2.disk.files stream.inode).modified

variable {os : Os Location} {codec : Codec} {job : TransferJob}
variable {volume : Volume String Location}

/-- An open file that nobody has asked for is dated before 1970, and its error has its number. -/
theorem askForConfirm_unasked
    {stream : Handle}
    (generic : job.type = .generic)
    (detection : job.enableOverwriteDetection = true)
    (streaming : job.dataStream = some stream)
    (unconfirmed : (job.askForConfirm volume).job.fileConfirmed = false)
    (notWaiting : (job.askForConfirm volume).job.fileIsWaiting = false) :
    (volume.disk.files stream.inode).modified < 0 ∧
      (job.askForConfirm volume).job.fileNum = job.fileNum ∧
      ∃ text, .error job.id (.bail text) job.fileNum ∈
        initMessages (job.askForConfirm volume) := by
  unfold TransferJob.askForConfirm at unconfirmed notWaiting ⊢
  by_cases asks : job.type = .generic ∧ job.enableOverwriteDetection ∧ !job.fileConfirmed ∧
      !job.fileIsWaiting
  · rw [if_pos asks] at unconfirmed notWaiting ⊢
    by_cases before : (volume.disk.files stream.inode).modified < 0
    · have sends : job.sendCurrentDigest volume =
          .error (.bail "second time provided was later than self") := by
        simp only [TransferJob.sendCurrentDigest, streaming, if_pos before]
      rw [sends]
      exact ⟨before, rfl, _, List.mem_singleton_self _⟩
    · simp [TransferJob.sendCurrentDigest, streaming, if_neg before] at notWaiting
  · rw [if_neg asks] at unconfirmed notWaiting
    exact absurd ⟨generic, detection, by simp [show job.fileConfirmed = false from unconfirmed],
      by simp [show job.fileIsWaiting = false from notWaiting]⟩ asks

/-- A job that has opened its current file and waits for no answer could not ask for it: it has
turned to the next file, or it reports the file under its own number. -/
theorem initDataStream_unasked
    {entry : FileEntry}
    (generic : job.type = .generic)
    (detection : job.enableOverwriteDetection = true)
    (current : job.currentEntry = some entry)
    (unconfirmed : (job.initDataStream os volume).job.fileConfirmed = false)
    (notWaiting : (job.initDataStream os volume).job.fileIsWaiting = false) :
    ¬Askable os volume job ∧
      ((job.initDataStream os volume).job.fileNum = job.fileNum + 1 ∨
        (job.initDataStream os volume).job.fileNum = job.fileNum ∧
          ∃ text, .error job.id (.bail text) job.fileNum ∈
            initMessages (job.initDataStream os volume)) := by
  cases streaming : job.dataStream with
  | some stream =>
      rw [TransferJob.initDataStream_streaming current streaming] at unconfirmed notWaiting ⊢
      obtain ⟨before, same, told⟩ :=
        askForConfirm_unasked generic detection streaming unconfirmed notWaiting
      refine ⟨fun askable => ?_, .inr ⟨same, told⟩⟩
      have dated := askable entry current
      simp only [streaming] at dated
      omega
  | none =>
      cases opens : (perform os.toHost volume (.openRead (job.pathOf os.style entry))).1 with
      | true =>
          obtain ⟨inode, _, _, _, handle⟩ := perform_openRead_opened opens
          let opened : TransferJob := { job with
            dataStream := some ⟨inode, 0, false⟩
            fileConfirmed := false
            fileIsWaiting := false }
          have asks : job.initDataStream os volume = opened.askForConfirm
              (perform os.toHost volume (.openRead (job.pathOf os.style entry))).2 := by
            exact TransferJob.initDataStream_opened current streaming opens handle
          rw [asks] at unconfirmed notWaiting ⊢
          obtain ⟨before, same, told⟩ :=
            @askForConfirm_unasked _ _ opened _ _ generic detection rfl unconfirmed notWaiting
          refine ⟨fun askable => ?_, .inr ⟨same, told⟩⟩
          have dated := askable entry current
          simp only [streaming] at dated
          have := dated.2 _ handle
          omega
      | false =>
          rw [TransferJob.initDataStream_fails current streaming opens]
          refine ⟨fun askable => ?_, .inl rfl⟩
          have dated := askable entry current
          simp only [streaming, opens] at dated
          exact absurd dated.1 (by simp)

/-- Opening the current file ends no job. -/
theorem not_done_of_initDataStream
    (id fileNum : Int) :
    FileMessage.done id fileNum ∉ initMessages (job.initDataStream os volume) := by
  have asks : ∀ (job : TransferJob) (volume : Volume String Location),
      FileMessage.done id fileNum ∉ initMessages (job.askForConfirm volume) := by
    intro job volume
    unfold TransferJob.askForConfirm
    split
    · cases sends : job.sendCurrentDigest volume with
      | error error => exact fun member => by cases List.mem_singleton.mp member
      | ok message =>
          unfold TransferJob.sendCurrentDigest at sends
          split at sends
          · cases sends
          · dsimp only at sends
            split at sends
            · cases sends
            · obtain rfl := Except.ok.inj sends
              exact fun member => by cases List.mem_singleton.mp member
    · exact List.not_mem_nil
  unfold TransferJob.initDataStream
  split
  · simp [initMessages]
  · split
    · exact asks _ _
    · dsimp only
      split
      · exact asks _ _
      · simp [initMessages]

/-- A turn ends a job that waits for no answer, or behind its last file. -/
theorem done_of_readTurn
    {id fileNum : Int}
    (done : FileMessage.done id fileNum ∈ (readTurn os codec job volume).messages) :
    fileNum = job.fileNum ∧
      (job.type = .generic ∧ job.enableOverwriteDetection = true ∧ job.fileConfirmed = false ∧
          job.fileIsWaiting = false ∨
        job.currentEntry = none) := by
  unfold readTurn at done
  by_cases waits : job.type = .generic ∧ job.enableOverwriteDetection ∧ !job.fileConfirmed
  · have unread : job.read os codec volume = ⟨job, volume, .ok none⟩ := by
      simp only [TransferJob.read, if_pos waits]
    simp only [unread] at done
    have unconfirmed : job.fileConfirmed = false := by simpa using waits.2.2
    by_cases completed : job.jobCompleted = true
    · rw [if_pos completed] at done
      have notWaiting : job.fileIsWaiting = false := by
        simpa [TransferJob.jobCompleted, waits.2.1, unconfirmed] using completed
      cases failing : job.jobError with
      | some text => simp [failing] at done
      | none =>
          simp only [failing, List.mem_singleton, FileMessage.done.injEq] at done
          exact ⟨done.2, .inl ⟨waits.1, waits.2.1, unconfirmed, notWaiting⟩⟩
    · rw [if_neg completed] at done
      cases done
  · cases current : job.currentEntry with
    | none =>
        have ended : job.read os codec volume =
            ⟨{ job with dataStream := none }, volume, .ok none⟩ := by
          simp only [TransferJob.read, if_neg waits, current]
        simp only [ended] at done
        refine ⟨?_, .inr rfl⟩
        split at done
        · split at done
          · simp at done
          · simp only [List.mem_singleton, FileMessage.done.injEq] at done
            exact done.2
        · cases done
    | some entry =>
        exfalso
        cases streaming : job.dataStream with
        | none =>
            simp only [TransferJob.read, if_neg waits, current, streaming] at done
            cases List.mem_singleton.mp done
        | some stream =>
            cases reads : (perform os.toHost volume (.read stream)).1 with
            | false =>
                simp only [TransferJob.read, if_neg waits, current, streaming, reads,
                  Bool.false_eq_true, if_false] at done
                cases List.mem_singleton.mp done
            | true =>
                simp only [TransferJob.read, if_neg waits, current, streaming, reads,
                  if_true] at done
                by_cases ends : (((perform os.toHost volume (.read stream)).2.disk.files
                    stream.inode).bytes.drop stream.position).take bufSize = []
                · rw [if_pos ends] at done
                  cases List.mem_singleton.mp done
                · rw [if_neg ends] at done
                  cases List.mem_singleton.mp done

end Late

section Tick

variable {Source Destination : Type} [DecidableEq Source]
variable {setting : Setting Source Destination} {disk : Disk Source} {start : TransferJob}
variable {skipped : List Int} {stage : Stage} {reader : Reader Source}

/-- A reading side with one job, or with none once that job has ended. -/
structure Reads
    (setting : Setting Source Destination)
    (disk : Disk Source)
    (start : TransferJob)
    (skipped : List Int)
    (stage : Stage)
    (reader : Reader Source) : Prop where
  running : reader.panicked = false
  unchanged : reader.volume.disk = disk
  job : (∃ job, reader.readJobs = [job] ∧ Reading setting.source disk start skipped stage job) ∨
    (reader.readJobs = [] ∧ stage.phase = .ended)

/-- A tick of a single job. -/
theorem handleReadJobs_single
    (os : Os Source)
    (codec : Codec)
    {job : TransferJob}
    (notLast : job.isLastJob = false)
    (volume : Volume String Source) :
    handleReadJobs os codec [job] volume =
      (if (readTurn os codec (job.initDataStream os volume).job
            (job.initDataStream os volume).volume).finished then []
        else [(readTurn os codec (job.initDataStream os volume).job
          (job.initDataStream os volume).volume).job],
        (readTurn os codec (job.initDataStream os volume).job
          (job.initDataStream os volume).volume).volume,
        initMessages (job.initDataStream os volume) ++
          (readTurn os codec (job.initDataStream os volume).job
            (job.initDataStream os volume).volume).messages) := by
  have stillNotLast : (job.initDataStream os volume).job.isLastJob = false :=
    (TransferJob.initDataStream_setup os job volume).isLastJob.trans notLast
  simp only [handleReadJobs, initJobs, readFirst, notLast, stillNotLast, Bool.false_eq_true,
    if_false, List.append_nil]
  split
  · next finished =>
      split at finished
      · next ended =>
          rw [if_pos ended, ← Option.some.inj finished]
          simp [removeJob]
      · cases finished
  · next unfinished =>
      split at unfinished
      · cases unfinished
      · next goes => rw [if_neg goes]

/-- The messages of a tick lead on from the stage of the job, and none is an error of a file when
all can be read. -/
theorem Reads.tick
    (inverse : ∀ data, setting.codec.decompress (setting.codec.compress data) = data)
    (generic : start.type = .generic)
    (notLast : start.isLastJob = false)
    (reads : Reads setting disk start skipped stage reader) :
    ∃ after,
      Course (Takes setting.codec start (contentsOf setting.source disk start) skipped) stage
        (Transfer.ticked setting reader) after ∧
      Reads setting disk start skipped after
        (reader.step setting.source setting.codec .tick) ∧
      (Readable setting.source disk start → stage.failed = false →
        (after.failed = false ∨ after.phase = .ended) ∧
          ∀ message ∈ Transfer.ticked setting reader, ¬Troubled message) := by
  obtain ⟨running, unchanged, ⟨job, only, reading⟩ | ⟨removed, ended⟩⟩ := reads
  · obtain ⟨jobs, volume, sent, panicked⟩ := reader
    obtain rfl : panicked = false := running
    obtain rfl : jobs = [job] := only
    have single := handleReadJobs_single setting.source setting.codec
      (reading.setup.isLastJob.trans notLast) volume
    obtain ⟨middle, opens⟩ : ∃ after, Opens setting.source setting.codec disk start skipped stage
        (job.initDataStream setting.source volume) after :=
      initDataStream_opens generic unchanged reading
    have openedDisk := (TransferJob.initDataStream_disk setting.source job volume).trans unchanged
    obtain ⟨after, turns⟩ := readTurn_turns inverse generic openedDisk opens.reading opens.poised
    have turnedDisk : (readTurn setting.source setting.codec
        (job.initDataStream setting.source volume).job
        (job.initDataStream setting.source volume).volume).volume.disk = disk := by
      rw [readTurn_volume]
      exact (TransferJob.read_disk ..).trans openedDisk
    simp only [Transfer.ticked, Reader.step, Bool.false_eq_true, if_false, single]
    refine ⟨after, opens.course.append turns.course, ⟨rfl, turnedDisk, ?_⟩, ?_⟩
    · cases finished : (readTurn setting.source setting.codec
          (job.initDataStream setting.source volume).job
          (job.initDataStream setting.source volume).volume).finished with
      | true => exact .inr ⟨rfl, turns.ends finished⟩
      | false => exact .inl ⟨_, rfl, turns.reading finished⟩
    · intro readable sound
      obtain ⟨kept, quiet⟩ := opens.untroubled readable
      obtain ⟨still, silent⟩ := turns.untroubled readable (kept.trans sound)
      constructor
      · cases finished : (readTurn setting.source setting.codec
            (job.initDataStream setting.source volume).job
            (job.initDataStream setting.source volume).volume).finished with
        | true => exact .inr (turns.ends finished)
        | false => exact .inl (still finished)
      · intro message member
        rcases List.mem_append.mp member with inside | inside
        · exact quiet message inside
        · exact silent message inside
  · obtain ⟨jobs, volume, sent, panicked⟩ := reader
    obtain rfl : panicked = false := running
    obtain rfl : jobs = [] := removed
    exact ⟨stage, rfl, ⟨rfl, unchanged, .inr ⟨rfl, ended⟩⟩,
      fun _ _ => ⟨.inr ended, by intros; contradiction⟩⟩

/-- Where files can be asked for, a job ends behind its last file, or at it with an error of this
file. -/
theorem Reads.done_late
    (generic : start.type = .generic)
    (notLast : start.isLastJob = false)
    (reads : Reads setting disk start skipped stage reader)
    (askable : ∀ job ∈ reader.readJobs, job.enableOverwriteDetection = true →
      asUsize job.fileNum + 1 < job.files.length → Askable setting.source reader.volume job)
    {id fileNum : Int}
    (done : .done id fileNum ∈ Transfer.ticked setting reader) :
    start.files.length ≤ fileNum ∨
      start.files.length ≤ fileNum + 1 ∧
        ∃ text, .error start.id (.bail text) fileNum ∈ Transfer.ticked setting reader := by
  obtain ⟨running, unchanged, ⟨job, only, reading⟩ | ⟨removed, ended⟩⟩ := reads
  · obtain ⟨jobs, volume, sent, panicked⟩ := reader
    obtain rfl : panicked = false := running
    obtain rfl : jobs = [job] := only
    have single := handleReadJobs_single setting.source setting.codec
      (reading.setup.isLastJob.trans notLast) volume
    have askable := askable job (List.mem_singleton_self job)
    rw [reading.fileNum, asUsize_natCast, reading.setup.files] at askable
    simp only [Transfer.ticked, Bool.false_eq_true, if_false, single] at done ⊢
    have turned := (List.mem_append.mp done).resolve_left
      (not_done_of_initDataStream id fileNum)
    obtain ⟨rfl, unasked | behind⟩ := done_of_readTurn turned
    · obtain ⟨_, detection, unconfirmed, notWaiting⟩ := unasked
      have setup := TransferJob.initDataStream_setup setting.source job volume
      rw [setup.enableOverwriteDetection] at detection
      cases current : job.currentEntry with
      | none =>
          have beyond := List.getElem?_eq_none_iff.mp (reading.currentEntry_eq.symm.trans current)
          left
          simp only [TransferJob.initDataStream, current, reading.fileNum]
          omega
      | some entry =>
          obtain ⟨refused, place⟩ := initDataStream_unasked
            (reading.setup.type.trans generic) detection current unconfirmed notWaiting
          have last : start.files.length ≤ stage.number + 1 := by
            by_contra early
            exact refused (askable detection (by omega))
          rcases place with next | ⟨same, text, told⟩
          · left
            rw [next, reading.fileNum]
            exact_mod_cast last
          · right
            rw [reading.setup.id] at told
            rw [same]
            refine ⟨?_, text, List.mem_append_left _ told⟩
            rw [reading.fileNum]
            exact_mod_cast last
    · have beyond : start.files.length ≤ asUsize
          (job.initDataStream setting.source volume).job.fileNum := by
        have := List.getElem?_eq_none_iff.mp behind
        rwa [(TransferJob.initDataStream_setup setting.source job volume).files,
          reading.setup.files] at this
      left
      obtain ⟨_, opens⟩ : ∃ after, Opens setting.source setting.codec disk start skipped stage
          (job.initDataStream setting.source volume) after :=
        initDataStream_opens generic unchanged reading
      rw [opens.reading.fileNum, asUsize_natCast] at beyond
      rw [opens.reading.fileNum]
      exact_mod_cast beyond
  · obtain ⟨jobs, volume, sent, panicked⟩ := reader
    obtain rfl : panicked = false := running
    obtain rfl : jobs = [] := removed
    cases done

/-- A job that waits for an answer waits at the start of a file. -/
theorem Reading.asking
    {os : Os Source}
    {job : TransferJob}
    (reading : Reading os disk start skipped stage job)
    (asking : stage.phase = .asking) :
    stage.position = 0 ∧ stage.number < start.files.length := by
  obtain ⟨detection, _, unconfirmed⟩ := reading.asks.mp asking
  refine ⟨reading.untouched detection unconfirmed, ?_⟩
  cases streaming : job.dataStream with
  | none =>
      rw [(reading.idle streaming).2] at asking
      cases asking
  | some stream => exact (reading.streams stream streaming).1

/-- The file may be opened again to go on from an offset: the folder of the reader holds no
working files of it. -/
def Reopens (os : Os Source) (volume : Volume String Source) (path : String) : Prop :=
  let both := TransferJob.bothExist os path volume
  let found := perform os.toHost both.2 (.stat path)
  both.1 = false ∧ found.1 = true ∧ (perform os.toHost found.2 (.openRead path)).1 = true

instance (os : Os Source) (volume : Volume String Source) (path : String) :
    Decidable (Reopens os volume path) :=
  inferInstanceAs (Decidable (_ ∧ _ ∧ _))

/-- What a job does with the answer that it waits for. -/
theorem Reads.confirms
    (reads : Reads setting disk start skipped stage reader)
    (asking : stage.phase = .asking)
    (union : ConfirmUnion)
    {later : List Int}
    {after : Stage}
    (confirmed : ∀ job, Reading setting.source disk start skipped stage job →
      ∃ done, job.confirm setting.source ⟨start.id, stage.number, some union⟩ reader.volume =
          some done ∧
        Reading setting.source disk start later after done.1) :
    Reads setting disk start later after
      (reader.step setting.source setting.codec
        (.sendConfirm ⟨start.id, stage.number, some union⟩)) := by
  obtain ⟨running, unchanged, ⟨job, only, reading⟩ | ⟨_, ended⟩⟩ := reads
  · obtain ⟨jobs, volume, sent, panicked⟩ := reader
    obtain rfl : panicked = false := running
    obtain rfl : jobs = [job] := only
    obtain ⟨done, isDone, readingAfter⟩ := confirmed job reading
    have own : job.id = start.id := reading.setup.id
    have stepped : Reader.step setting.source setting.codec ⟨[job], volume, sent, false⟩
        (.sendConfirm ⟨start.id, stage.number, some union⟩) =
        ⟨[done.1], done.2, sent, false⟩ := by
      simp [Reader.step, getJob, own, isDone, setJob, List.replaceF]
    rw [stepped]
    exact ⟨rfl, (TransferJob.confirm_disk setting.source job volume isDone).trans unchanged,
      .inl ⟨done.1, rfl, readingAfter⟩⟩
  · rw [asking] at ended
    cases ended

/-- A file that is skipped is left behind. -/
theorem Reads.skip
    (reads : Reads setting disk start skipped stage reader)
    (asking : stage.phase = .asking) :
    Reads setting disk start (stage.number :: skipped)
      ⟨⟨stage.number + 1, 0⟩, .sending, stage.failed⟩
      (reader.step setting.source setting.codec
        (.sendConfirm ⟨start.id, stage.number, some (.skip true)⟩)) := by
  refine reads.confirms asking (.skip true) ?_
  intro job reading
  have inside := (reading.asking asking).2
  refine ⟨(job.setFileSkipped, reader.volume), by simp [TransferJob.confirm, reading.fileNum],
    ?_⟩
  refine ⟨reading.setup.trans ⟨rfl, rfl, rfl, rfl, rfl, rfl⟩, ?_, fun _ => ⟨rfl, rfl⟩, nofun,
    nofun, ?_, fun _ _ => rfl, ?_⟩
  · simp [TransferJob.setFileSkipped, reading.fileNum]
  · simp [TransferJob.setFileSkipped]
  · intro _ alone
    obtain isFirst : stage.number = 0 := by omega
    simp [isFirst]

/-- A file that is wanted whole is sent from its start. -/
theorem Reads.takeWhole
    (reads : Reads setting disk start skipped stage reader)
    (asking : stage.phase = .asking) :
    Reads setting disk start skipped ⟨⟨stage.number, 0⟩, .sending, stage.failed⟩
      (reader.step setting.source setting.codec
        (.sendConfirm ⟨start.id, stage.number, some (.offsetBlk 0)⟩)) := by
  refine reads.confirms asking (.offsetBlk 0) ?_
  intro job reading
  have atStart := (reading.asking asking).1
  refine ⟨(job.setFileConfirmed true, reader.volume),
    by simp [TransferJob.confirm, reading.fileNum], ?_⟩
  refine ⟨reading.setup.trans (TransferJob.setFileConfirmed_setup job true), reading.fileNum,
    fun _ => ⟨rfl, rfl⟩, ?_, nofun, ?_, fun _ _ => rfl, ?_⟩
  · rw [← atStart]
    exact reading.streams
  · simp [TransferJob.setFileConfirmed]
  · simp [TransferJob.setFileConfirmed]

/-- A file that is wanted from an offset on is opened again and sent from there. -/
theorem Reads.resume
    (reads : Reads setting disk start skipped stage reader)
    (asking : stage.phase = .asking)
    {offset : UInt32}
    (positive : 0 < offset)
    (reopens : ∀ entry ∈ start.files[stage.number]?,
      Reopens setting.source reader.volume (start.pathOf setting.source.style entry)) :
    Reads setting disk start skipped ⟨⟨stage.number, offset.toNat⟩, .sending, stage.failed⟩
      (reader.step setting.source setting.codec
        (.sendConfirm ⟨start.id, stage.number, some (.offsetBlk offset)⟩)) := by
  refine reads.confirms asking (.offsetBlk offset) ?_
  intro job reading
  have inside := (reading.asking asking).2
  have found := List.getElem?_eq_getElem inside
  obtain ⟨noPair, isThere, again⟩ := reopens _ found
  have samePath := reading.setup.pathOf_eq setting.source.style start.files[stage.number]
  let both := TransferJob.bothExist setting.source
    (start.pathOf setting.source.style start.files[stage.number]) reader.volume
  let looked := perform setting.source.toHost both.2
    (.stat (start.pathOf setting.source.style start.files[stage.number]))
  have lookedDisk : looked.2.disk = disk :=
    (perform_stat_disk ..).trans ((TransferJob.bothExist_disk ..).trans reads.unchanged)
  obtain ⟨inode, file, isFile, isHeld, handle⟩ : ∃ inode file,
      fileAt setting.source looked.2.disk
          (start.pathOf setting.source.style start.files[stage.number]) = some file ∧
        looked.2.disk.files inode = file ∧
        openedAt setting.source.toHost (perform setting.source.toHost looked.2
            (.openRead (start.pathOf setting.source.style start.files[stage.number]))).2
          (start.pathOf setting.source.style start.files[stage.number]) false =
          some ⟨inode, 0, false⟩ := perform_openRead_opened again
  have isContents : contentsOf setting.source disk start stage.number = file.bytes := by
    simp [contentsOf, found, ← lookedDisk, isFile]
  refine ⟨((job.setFileConfirmed true).seekTo (some ⟨inode, 0, false⟩) offset.toNat,
    (perform setting.source.toHost looked.2
      (.openRead (start.pathOf setting.source.style start.files[stage.number]))).2), ?_, ?_⟩
  · have entryHere : (job.setFileConfirmed true).files[stage.number]? =
        some start.files[stage.number] := by
      rw [(TransferJob.setFileConfirmed_setup job true).files, reading.setup.files, found]
    have pathHere : (job.setFileConfirmed true).pathOf setting.source.style
        start.files[stage.number] =
        start.pathOf setting.source.style start.files[stage.number] :=
      ((TransferJob.setFileConfirmed_setup job true).pathOf_eq ..).trans samePath
    simp only [TransferJob.confirm, reading.fileNum, ne_eq, not_true, if_false, if_pos positive,
      TransferJob.setStreamOffset, asUsize_natCast, entryHere, Option.map_some, pathHere, noPair,
      Bool.false_eq_true, isThere, if_true, TransferJob.openAt, TransferJob.openOperation]
    simp only [looked, both] at handle again ⊢
    rw [if_pos again, handle]
  · have sought : TransferJob.SameSetup job
        ((job.setFileConfirmed true).seekTo (some ⟨inode, 0, false⟩) offset.toNat) :=
      (TransferJob.setFileConfirmed_setup job true).trans (TransferJob.seekTo_setup ..)
    refine ⟨reading.setup.trans sought, reading.fileNum, by intros; contradiction, ?_, by simp,
      ?_, ?_, ?_⟩
    · intro stream isStream
      obtain rfl := Option.some.inj isStream
      refine ⟨inside, rfl, ?_, ?_⟩
      · rw [← lookedDisk, isHeld, lookedDisk, isContents]
      · intro readable detection
        obtain ⟨other, isOther, dated⟩ := readable.present _ (List.getElem_mem inside)
        rw [← lookedDisk, isFile] at isOther
        obtain rfl := Option.some.inj isOther
        rw [← lookedDisk, isHeld]
        exact dated detection
    · simp [TransferJob.seekTo, TransferJob.setFileConfirmed]
    · simp [TransferJob.seekTo, TransferJob.setFileConfirmed]
    · simp [TransferJob.seekTo, TransferJob.setFileConfirmed]

end Tick

end Fs
end OneDesk
