import OneDesk.Fs.Reading

/-!
# The current file of a job

A job counts through its files with `file_num`, which starts where the peer said and
may lie beyond the list or below it.  First, when the index of a confirmation is in
range.  Second, when the sending side takes a job for completed: it concludes from the
two flags of the current file that no file is left.
-/

namespace OneDesk
namespace Fs

open Lib

section Confirm

variable {Location : Type} [DecidableEq Location]
variable (os : Os Location) (codec : Codec)

/-- What a job is taken through, on either side. -/
inductive JobEvent where
  | tick
  | block (block : FileTransferBlock)
  | confirm (request : FileTransferSendConfirmRequest)
  deriving DecidableEq

/-- One step of a job and its disk.  There is nothing left after an index out of range, which
ends the process. -/
def jobStep
    (state : Option (TransferJob × Volume String Location))
    (event : JobEvent) : Option (TransferJob × Volume String Location) :=
  state.bind fun current =>
    match event with
    | .tick =>
        let opened := current.1.initDataStream os current.2
        let turn := readTurn os codec opened.job opened.volume
        some (turn.job, turn.volume)
    | .block block =>
        let written := current.1.write os codec block current.2
        some (written.job, written.volume)
    | .confirm request => current.1.confirm os request current.2

/-- A confirmation is for another file than the current one, or from the start of the file on,
or its number is an index of the list. -/
def Indexes (files : List FileEntry) (job : TransferJob) (request : FileTransferSendConfirmRequest) :
    Prop :=
  job.fileNum = request.fileNum →
    ∀ offset, request.union = some (.offsetBlk offset) → 0 < offset →
      asUsize request.fileNum < files.length

/-- A step meets no confirmation with an index out of range. -/
def JobEvent.Indexes
    (files : List FileEntry)
    (state : Option (TransferJob × Volume String Location))
    (event : JobEvent) : Prop :=
  ∀ job volume request, state = some (job, volume) → event = .confirm request →
    Fs.Indexes files job request

/-- The only index into the list is the one that a positive offset is sought with. -/
theorem confirm_eq_none_iff
    (job : TransferJob)
    (request : FileTransferSendConfirmRequest)
    (volume : Volume String Location) :
    job.confirm os request volume = none ↔ ¬Indexes job.files job request := by
  rw [TransferJob.confirm, Indexes]
  by_cases current : job.fileNum = request.fileNum
  · rw [if_neg (not_not_intro current)]
    split
    · next union => simp [union]
    · next union => simp [union]
    · next offset union =>
        by_cases positive : 0 < offset
        · rw [if_pos positive]
          simp [TransferJob.setStreamOffset, union, current, positive,
            (TransferJob.setFileConfirmed_setup job true).files]
        · simp [union, positive]
    · next union => simp [union]
  · simp [current]

variable {os codec}

theorem jobStep_files
    {state : Option (TransferJob × Volume String Location)}
    {event : JobEvent}
    {files : List FileEntry}
    (same : ∀ job volume, state = some (job, volume) → job.files = files) :
    ∀ job volume, jobStep os codec state event = some (job, volume) → job.files = files := by
  intro job volume stepped
  obtain ⟨⟨before, disk⟩, isBefore, applied⟩ := Option.bind_eq_some_iff.mp stepped
  rw [← same before disk isBefore]
  cases event with
  | tick =>
      obtain ⟨rfl, rfl⟩ := Prod.mk.inj (Option.some.inj applied)
      exact ((TransferJob.initDataStream_setup os before disk).trans
        (readTurn_setup os codec _ _)).files
  | block block =>
      obtain ⟨rfl, rfl⟩ := Prod.mk.inj (Option.some.inj applied)
      exact (TransferJob.write_setup os codec before disk block).files
  | confirm request => exact (TransferJob.confirm_setup applied).files

/-- A job goes through a run without an index out of range exactly if every confirmation of the
run is for another file than the current one, or from the start on, or for a file of the list. -/
theorem job_survives_iff
    (os : Os Location)
    (codec : Codec)
    (start : TransferJob)
    (volume : Volume String Location)
    (events : List JobEvent) :
    (∀ before, before <+: events →
        (run (jobStep os codec) (some (start, volume)) before).isSome) ↔
      Along (jobStep os codec) (JobEvent.Indexes start.files) (some (start, volume)) events := by
  refine @always_iff _ _ (jobStep os codec) (fun state => state.isSome)
    (JobEvent.Indexes start.files)
    (fun state : Option (TransferJob × Volume String Location) =>
      ∀ job volume, state = some (job, volume) → job.files = start.files)
    (fun _ _ same => jobStep_files same) ?_ _ events ?_ rfl
  · intro state event same some
    obtain ⟨⟨job, disk⟩, rfl⟩ := Option.isSome_iff_exists.mp some
    have sameFiles := same job disk rfl
    cases event with
    | tick => simp [jobStep, JobEvent.Indexes]
    | block block => simp [jobStep, JobEvent.Indexes]
    | confirm request =>
        have fails := confirm_eq_none_iff os job request disk
        rw [sameFiles] at fails
        have survives : (job.confirm os request disk).isSome ↔
            Indexes start.files job request := by
          rw [Option.isSome_iff_ne_none, Ne, fails, not_not]
        simpa [jobStep, JobEvent.Indexes] using survives
  · intro job disk isStart
    obtain ⟨rfl, rfl⟩ := Prod.mk.inj (Option.some.inj isStart)
    rfl

/-- A job over one file that starts behind it is asked to go on from an offset. -/
theorem confirm_behind_list :
    run (jobStep (Os.plain .unix) plainCodec)
      (some (TransferJob.newRead 7 .generic "/out" 1 [⟨"", 0⟩] true, ⟨Disk.empty, []⟩))
      [.confirm ⟨7, 1, some (.offsetBlk 1)⟩] = none := by
  decide

end Confirm

section Completion

variable {Location : Type} [DecidableEq Location]
variable (os : Os Location) (codec : Codec)

/-- The peer is asked for every file of a job. -/
def TransferJob.Asks (job : TransferJob) : Prop :=
  job.type = .generic ∧ job.enableOverwriteDetection = true

/-- A turn of a job finds nothing to read, and nothing to wait for. -/
def TransferJob.Idle (job : TransferJob) : Prop :=
  (job.Asks ∧ job.fileConfirmed = false ∨ job.currentEntry = none) ∧ job.jobCompleted = true

/-- A message that reports the end of a job. -/
def EndsJob (id fileNum : Int) (message : FileMessage) : Prop :=
  message = .done id fileNum ∨ message = .error id (.bail "skipped") fileNum

/-- The job that has its turn. -/
def servedJob (jobs : List TransferJob) : Option TransferJob :=
  jobs.find? fun job => !job.isLastJob

/-- A tick up to the point where a finished job is taken out. -/
def turned
    (jobs : List TransferJob)
    (volume : Volume String Location) :
    List TransferJob × Volume String Location × List FileMessage × Option Int :=
  let opened := initJobs os jobs volume
  readFirst os codec opened.1 opened.2.1

/-- A tick reports the end of a job, and takes a job out of the list, only behind the last file of
this job. -/
structure EndsThrough (jobs : List TransferJob) (volume : Volume String Location) : Prop where
  reported : ∀ id fileNum, ∀ message ∈ (handleReadJobs os codec jobs volume).2.2,
    EndsJob id fileNum message →
      ∃ job, servedJob jobs = some job ∧ job.id = id ∧ job.files.length ≤ fileNum
  removed : ∀ id job, (turned os codec jobs volume).2.2.2 = some id →
    getJob id (turned os codec jobs volume).1 = some job → job.files.length ≤ job.fileNum

/-- A tick finds work for a job: its current file is open, or opens, and can be asked for where the
job asks. -/
def Busy (volume : Volume String Location) (job : TransferJob) : Prop :=
  match job.currentEntry with
  | none => job.jobCompleted = false
  | some entry =>
      match job.dataStream with
      | some stream =>
          job.Asks → job.fileConfirmed = true ∨ job.fileIsWaiting = true ∨
            0 ≤ (volume.disk.files stream.inode).modified
      | none =>
          let opened := perform os.toHost volume (.openRead (job.pathOf os.style entry))
          if opened.1 = true then
            job.Asks → ∀ stream ∈ openedAt os.toHost opened.2 (job.pathOf os.style entry) false,
              0 ≤ (opened.2.disk.files stream.inode).modified
          else ¬job.Asks ∧ asUsize (job.fileNum + 1) < job.files.length

/-- Number of the file that a tick gets to: a current file that does not open is passed over. -/
def reachedNum (volume : Volume String Location) (job : TransferJob) : Int :=
  match job.currentEntry, job.dataStream with
  | some entry, none =>
      if (perform os.toHost volume (.openRead (job.pathOf os.style entry))).1 = true then
        job.fileNum
      else job.fileNum + 1
  | _, _ => job.fileNum

/-- The job that has its turn has work, or it gets behind its last file, and so is a job of a last
session that stands before it with the same id. -/
def ServesThrough (jobs : List TransferJob) (volume : Volume String Location) : Prop :=
  ∀ job, servedJob jobs = some job →
    Busy os volume job ∨
      job.files.length ≤ reachedNum os volume job ∧
        ∀ kept, getJob job.id jobs = some kept → kept.isLastJob = true →
          kept.files.length ≤ kept.fileNum

variable {os codec} {job : TransferJob} {jobs : List TransferJob}
variable {volume : Volume String Location}

/-- A turn reads nothing when no answer has come for the current file, or when there is none. -/
theorem read_nothing_iff :
    (job.read os codec volume).result = .ok none ↔
      job.Asks ∧ job.fileConfirmed = false ∨ job.currentEntry = none := by
  unfold TransferJob.read
  by_cases waits : job.type = .generic ∧ job.enableOverwriteDetection ∧ !job.fileConfirmed
  · rw [if_pos waits]
    simpa [TransferJob.Asks, and_assoc] using Or.inl (by simpa using waits)
  · rw [if_neg waits]
    have asked : ¬(job.Asks ∧ job.fileConfirmed = false) := by
      simpa [TransferJob.Asks, and_assoc] using waits
    cases current : job.currentEntry with
    | none => simp
    | some entry =>
        cases job.dataStream with
        | none => simp [asked]
        | some stream =>
            simp only [asked, reduceCtorEq, or_self, iff_false]
            split
            · split <;> simp
            · simp

/-- A turn that reads nothing leaves the job as it is, up to its stream. -/
theorem read_of_nothing
    (nothing : (job.read os codec volume).result = .ok none) :
    ∃ stream, (job.read os codec volume).job = { job with dataStream := stream } := by
  have idle := read_nothing_iff.mp nothing
  unfold TransferJob.read
  split
  · exact ⟨job.dataStream, rfl⟩
  · next waits =>
      have current : job.currentEntry = none := by
        refine idle.resolve_left fun asked => waits ?_
        simpa [TransferJob.Asks, and_assoc] using asked
      rw [current]
      exact ⟨none, rfl⟩

/-- A file that cannot be read is not an end of its job. -/
theorem read_error_ne
    {error : FsError}
    (failed : (job.read os codec volume).result = .error error) :
    error ≠ .bail "skipped" := by
  unfold TransferJob.read at failed
  split at failed
  · cases failed
  · split at failed
    · cases failed
    · split at failed
      · obtain rfl := Except.error.inj failed
        simp
      · dsimp only at failed
        split at failed
        · split at failed <;> cases failed
        · obtain rfl := Except.error.inj failed
          simp

variable (os codec)

/-- A turn ends a job exactly if the job is idle, and reports the end under its number. -/
theorem readTurn_cases (job : TransferJob) (volume : Volume String Location) :
    (job.Idle ∧ (readTurn os codec job volume).finished = true ∧
      (readTurn os codec job volume).job.fileNum = job.fileNum ∧
      ∃ message, (readTurn os codec job volume).messages = [message] ∧
        EndsJob job.id job.fileNum message) ∨
    (¬job.Idle ∧ (readTurn os codec job volume).finished = false ∧
      ∀ message ∈ (readTurn os codec job volume).messages, ∀ id fileNum,
        ¬EndsJob id fileNum message) := by
  cases result : (job.read os codec volume).result with
  | error error =>
      right
      have reads : ¬job.Idle := fun idle => by
        rw [read_nothing_iff.mpr idle.1] at result
        cases result
      simp only [readTurn, result, List.mem_singleton, forall_eq]
      exact ⟨reads, trivial, fun id fileNum ends => by simp [EndsJob, read_error_ne result] at ends⟩
  | ok taken =>
      cases taken with
      | some block =>
          right
          have reads : ¬job.Idle := fun idle => by
            rw [read_nothing_iff.mpr idle.1] at result
            cases result
          simp only [readTurn, result, List.mem_singleton, forall_eq]
          exact ⟨reads, trivial, fun id fileNum ends => by simp [EndsJob] at ends⟩
      | none =>
          obtain ⟨stream, same⟩ := read_of_nothing result
          have completed : (job.read os codec volume).job.jobCompleted = job.jobCompleted := by
            rw [same]
            rfl
          by_cases ends : job.jobCompleted = true
          · left
            refine ⟨⟨read_nothing_iff.mp result, ends⟩, ?_⟩
            simp only [readTurn, result, completed, ends, if_true]
            cases skipped : (job.read os codec volume).job.jobError with
            | none =>
                simp only [same]
                exact ⟨trivial, trivial, _, rfl, .inl rfl⟩
            | some text =>
                have isSkipped : text = "skipped" := by
                  unfold TransferJob.jobError at skipped
                  split at skipped
                  · exact (Option.some.inj skipped).symm
                  · cases skipped
                simp only [same, isSkipped]
                exact ⟨trivial, trivial, _, rfl, .inr rfl⟩
          · right
            simp only [readTurn, result, completed, ends]
            exact ⟨fun idle => ends idle.2, by simp, by simp⟩

omit [DecidableEq Location] in
/-- An open file that is asked for leaves its job idle exactly if it is dated before 1970, and the
answer is not there or under way. -/
theorem askForConfirm_idle_iff
    {entry : FileEntry}
    {stream : Handle}
    (current : job.currentEntry = some entry)
    (streaming : job.dataStream = some stream) :
    (job.askForConfirm volume).job.Idle ↔
      job.Asks ∧ job.fileConfirmed = false ∧ job.fileIsWaiting = false ∧
        (volume.disk.files stream.inode).modified < 0 := by
  have idle_iff : ∀ asking : TransferJob, asking.currentEntry = some entry →
      (asking.Idle ↔ asking.Asks ∧ asking.fileConfirmed = false ∧ asking.fileIsWaiting = false) := by
    intro asking here
    simp only [TransferJob.Idle, here, TransferJob.Asks, TransferJob.jobCompleted]
    grind
  unfold TransferJob.askForConfirm
  by_cases asks : job.type = .generic ∧ job.enableOverwriteDetection ∧ !job.fileConfirmed ∧
      !job.fileIsWaiting
  · rw [if_pos asks]
    by_cases early : (volume.disk.files stream.inode).modified < 0
    · simp only [TransferJob.sendCurrentDigest, streaming, if_pos early, idle_iff job current]
      tauto
    · simp only [TransferJob.sendCurrentDigest, streaming, if_neg early]
      rw [idle_iff { job with dataStream := some stream, fileIsWaiting := true } current]
      simp [early]
  · rw [if_neg asks, idle_iff job current]
    simp only [TransferJob.Asks]
    grind

/-- A job is idle after it has opened its current file exactly if there was no work for it. -/
theorem initDataStream_idle_iff (job : TransferJob) (volume : Volume String Location) :
    (job.initDataStream os volume).job.Idle ↔ ¬Busy os volume job := by
  unfold Busy TransferJob.initDataStream
  cases current : job.currentEntry with
  | none =>
      have still : ({ job with dataStream := none } : TransferJob).currentEntry = none := current
      simp only [TransferJob.Idle, still, TransferJob.jobCompleted]
      grind
  | some entry =>
      cases streaming : job.dataStream with
      | some stream =>
          simp only [askForConfirm_idle_iff current streaming]
          grind
      | none =>
          cases opens : (perform os.toHost volume (.openRead (job.pathOf os.style entry))).1 with
          | true =>
              obtain ⟨inode, _, _, _, handle⟩ := perform_openRead_opened opens
              let asking : TransferJob := { job with
                dataStream := some ⟨inode, 0, false⟩
                fileConfirmed := false
                fileIsWaiting := false }
              have idle := @askForConfirm_idle_iff _ asking
                (perform os.toHost volume (.openRead (job.pathOf os.style entry))).2 entry
                ⟨inode, 0, false⟩ current rfl
              simp only [opens, if_true, handle]
              refine idle.trans ?_
              simp [TransferJob.Asks, asking, and_assoc]
          | false =>
              simp only [opens, Bool.false_eq_true, if_false, TransferJob.Idle,
                TransferJob.jobCompleted, TransferJob.Asks, TransferJob.currentEntry,
                List.getElem?_eq_none_iff]
              grind

theorem initDataStream_fileNum (job : TransferJob) (volume : Volume String Location) :
    (job.initDataStream os volume).job.fileNum = reachedNum os volume job := by
  have asks : ∀ (asking : TransferJob) (volume : Volume String Location),
      (asking.askForConfirm volume).job.fileNum = asking.fileNum := by
    intro asking volume
    unfold TransferJob.askForConfirm
    split
    · split <;> rfl
    · rfl
  unfold reachedNum TransferJob.initDataStream
  cases current : job.currentEntry with
  | none => rfl
  | some entry =>
      cases streaming : job.dataStream with
      | some stream => exact asks job volume
      | none =>
          dsimp only
          split
          · rw [asks]
          · rfl

/-- Opening the current file reports no end. -/
theorem initMessages_endsNone (job : TransferJob) (volume : Volume String Location) :
    ∀ message ∈ initMessages (job.initDataStream os volume), ∀ id fileNum,
      ¬EndsJob id fileNum message := by
  have asks : ∀ (asking : TransferJob) (volume : Volume String Location),
      ∀ message ∈ initMessages (asking.askForConfirm volume), ∀ id fileNum,
        ¬EndsJob id fileNum message := by
    intro asking volume message member id fileNum
    unfold TransferJob.askForConfirm at member
    split at member
    · unfold TransferJob.sendCurrentDigest at member
      cases streaming : asking.dataStream with
      | none =>
          simp only [streaming, initMessages, List.mem_singleton] at member
          simp [member, EndsJob]
      | some stream =>
          by_cases early : (volume.disk.files stream.inode).modified < 0
          · simp only [streaming, if_pos early, initMessages, List.mem_singleton] at member
            simp [member, EndsJob]
          · simp only [streaming, if_neg early, initMessages, List.mem_singleton] at member
            simp [member, EndsJob]
    · cases member
  intro message member
  unfold TransferJob.initDataStream at member
  split at member
  · cases member
  · split at member
    · exact asks _ _ message member
    · dsimp only at member
      split at member
      · exact asks _ _ message member
      · simp_all [initMessages, EndsJob]

@[simp] theorem servedJob_cons (job : TransferJob) (jobs : List TransferJob) :
    servedJob (job :: jobs) = if job.isLastJob then servedJob jobs else some job := by
  cases last : job.isLastJob <;> simp [servedJob, last]

/-- The job that has its turn opens its current file before any other job does. -/
theorem servedJob_initJobs (jobs : List TransferJob) (volume : Volume String Location) :
    servedJob (initJobs os jobs volume).1 =
      (servedJob jobs).map fun job => (job.initDataStream os volume).job := by
  induction jobs with
  | nil => rfl
  | cons first jobs inductionHypothesis =>
      cases last : first.isLastJob with
      | true => simpa [initJobs, last] using inductionHypothesis
      | false =>
          have stillNot : (first.initDataStream os volume).job.isLastJob = false :=
            (TransferJob.initDataStream_setup os first volume).isLastJob.trans last
          simp [initJobs, last, stillNot]

/-- No end is reported while the jobs open their current files. -/
theorem initJobs_endsNone (jobs : List TransferJob) (volume : Volume String Location) :
    ∀ message ∈ (initJobs os jobs volume).2.2, ∀ id fileNum, ¬EndsJob id fileNum message := by
  induction jobs generalizing volume with
  | nil => intro message member; cases member
  | cons first jobs inductionHypothesis =>
      intro message member
      cases last : first.isLastJob with
      | true =>
          simp only [initJobs, last, if_true] at member
          exact inductionHypothesis volume message member
      | false =>
          simp only [initJobs, last, Bool.false_eq_true, if_false] at member
          rcases List.mem_append.mp member with here | later
          · exact initMessages_endsNone os first volume message here
          · exact inductionHypothesis _ message later

/-- The first job with an id is passed over, or it is opened. -/
theorem getJob_initJobs
    (id : Int)
    (jobs : List TransferJob)
    (volume : Volume String Location) :
    ∀ kept, kept.isLastJob = true →
      (getJob id (initJobs os jobs volume).1 = some kept ↔ getJob id jobs = some kept) := by
  induction jobs generalizing volume with
  | nil => simp [initJobs]
  | cons first jobs inductionHypothesis =>
      intro kept isLast
      cases last : first.isLastJob with
      | true =>
          by_cases own : first.id = id
          · simp [initJobs, last, getJob, own]
          · simpa [initJobs, last, getJob, own] using inductionHypothesis volume kept isLast
      | false =>
          have setup := TransferJob.initDataStream_setup os first volume
          by_cases own : first.id = id
          · have other : first ≠ kept := by rintro rfl; simp [last] at isLast
            have otherOpened : (first.initDataStream os volume).job ≠ kept := by
              rintro rfl
              simp [setup.isLastJob, last] at isLast
            simp [initJobs, last, getJob, setup.id, own, other, otherOpened]
          · simpa [initJobs, last, getJob, setup.id, own] using
              inductionHypothesis (first.initDataStream os volume).volume kept isLast

theorem readFirst_idle
    {jobs : List TransferJob}
    (idle : servedJob jobs = none)
    (volume : Volume String Location) :
    readFirst os codec jobs volume = (jobs, volume, [], none) := by
  induction jobs with
  | nil => rfl
  | cons first jobs inductionHypothesis =>
      cases last : first.isLastJob with
      | true =>
          simp only [servedJob_cons, last, if_true] at idle
          simp [readFirst, last, inductionHypothesis idle]
      | false => simp [last] at idle

/-- Only the job that has its turn is changed, and it is the first with its id but for the jobs of
a last session. -/
theorem readFirst_turn
    {jobs : List TransferJob}
    (served : servedJob jobs = some job)
    (volume : Volume String Location) :
    (readFirst os codec jobs volume).2 =
        ((readTurn os codec job volume).volume, (readTurn os codec job volume).messages,
          if (readTurn os codec job volume).finished then some job.id else none) ∧
      getJob job.id (readFirst os codec jobs volume).1 =
        (getJob job.id jobs).map fun kept =>
          if kept.isLastJob then kept else (readTurn os codec job volume).job := by
  induction jobs with
  | nil => cases served
  | cons first jobs inductionHypothesis =>
      cases last : first.isLastJob with
      | true =>
          simp only [servedJob_cons, last, if_true] at served
          obtain ⟨same, others⟩ := inductionHypothesis served
          by_cases own : first.id = job.id
          · simp [readFirst, last, same, getJob, own]
          · simpa [readFirst, last, same, getJob, own] using others
      | false =>
          obtain rfl : first = job := by simpa [last] using served
          have setup := readTurn_setup os codec first volume
          simp [readFirst, last, getJob, setup.id]

/-- What a tick reports comes from the turn of the job that is served. -/
theorem reported_iff
    (served : servedJob jobs = some job)
    (id fileNum : Int)
    (message : FileMessage) :
    message ∈ (handleReadJobs os codec jobs volume).2.2 ∧ EndsJob id fileNum message ↔
      message ∈ (readTurn os codec (job.initDataStream os volume).job
          (initJobs os jobs volume).2.1).messages ∧ EndsJob id fileNum message := by
  have opened := servedJob_initJobs os jobs volume
  rw [served] at opened
  have turn := (readFirst_turn os codec opened (initJobs os jobs volume).2.1).1
  simp only [handleReadJobs, turn, List.mem_append]
  constructor
  · rintro ⟨early | late, ends⟩
    · exact absurd ends (initJobs_endsNone os jobs volume message early id fileNum)
    · exact ⟨late, ends⟩
  · rintro ⟨late, ends⟩
    exact ⟨.inr late, ends⟩

/-- A tick takes out the first job with the id of the one that is served. -/
theorem removed_iff
    (served : servedJob jobs = some job)
    (id : Int)
    (found : TransferJob) :
    ((turned os codec jobs volume).2.2.2 = some id ∧
        getJob id (turned os codec jobs volume).1 = some found) ↔
      (readTurn os codec (job.initDataStream os volume).job
          (initJobs os jobs volume).2.1).finished = true ∧ id = job.id ∧
        ∃ kept, getJob id (initJobs os jobs volume).1 = some kept ∧
          found = if kept.isLastJob then kept else
            (readTurn os codec (job.initDataStream os volume).job
              (initJobs os jobs volume).2.1).job := by
  have opened := servedJob_initJobs os jobs volume
  rw [served] at opened
  obtain ⟨turn, first⟩ :=
    readFirst_turn os codec opened (initJobs os jobs volume).2.1
  have sameId := (TransferJob.initDataStream_setup os job volume).id
  rw [sameId] at turn first
  simp only [turned, turn]
  cases finished : (readTurn os codec (job.initDataStream os volume).job
      (initJobs os jobs volume).2.1).finished with
  | false => simp
  | true =>
      simp only [if_true, Option.some.injEq, true_and]
      constructor
      · rintro ⟨rfl, isFound⟩
        obtain ⟨kept, isKept, rfl⟩ := Option.map_eq_some_iff.mp (first.symm.trans isFound)
        exact ⟨rfl, kept, isKept, rfl⟩
      · rintro ⟨rfl, kept, isKept, rfl⟩
        exact ⟨rfl, first.trans (by rw [isKept]; rfl)⟩

/-- A tick ends jobs behind their last file exactly if it serves them so. -/
theorem endsThrough_iff (jobs : List TransferJob) (volume : Volume String Location) :
    EndsThrough os codec jobs volume ↔ ServesThrough os jobs volume := by
  cases served : servedJob jobs with
  | none =>
      have opened := servedJob_initJobs os jobs volume
      rw [served] at opened
      have idle := readFirst_idle os codec opened (initJobs os jobs volume).2.1
      refine ⟨fun _ job isServed => ?_, fun _ => ⟨?_, ?_⟩⟩
      · rw [served] at isServed
        cases isServed
      · intro id fileNum message member ends
        simp only [handleReadJobs, idle, List.append_nil] at member
        exact absurd ends (initJobs_endsNone os jobs volume message member id fileNum)
      · intro id job finished
        simp only [turned, idle] at finished
        cases finished
  | some job =>
      have setup := TransferJob.initDataStream_setup os job volume
      have reached := initDataStream_fileNum os job volume
      have work := initDataStream_idle_iff os job volume
      rcases readTurn_cases os codec (job.initDataStream os volume).job
          (initJobs os jobs volume).2.1 with
        ⟨idle, finished, sameNum, message, told, ends⟩ | ⟨busy, unfinished, silent⟩
      · rw [reached] at sameNum ends
        rw [setup.id] at ends
        have through_iff : ServesThrough os jobs volume ↔
            job.files.length ≤ reachedNum os volume job ∧
              ∀ kept, getJob job.id jobs = some kept → kept.isLastJob = true →
                kept.files.length ≤ kept.fileNum := by
          simp only [ServesThrough, served, Option.some.injEq, forall_eq', work.mp idle, false_or]
        rw [through_iff]
        constructor
        · intro through
          constructor
          · obtain ⟨_, isServed, _, behind⟩ := through.reported _ _ message
              ((reported_iff os codec served _ _ message).mpr
                ⟨by rw [told]; exact List.mem_singleton_self _,
                ends⟩).1 ends
            obtain rfl := Option.some.inj (served.symm.trans isServed)
            exact behind
          · intro kept isKept isLast
            have opened := (getJob_initJobs os job.id jobs volume kept isLast).mpr isKept
            obtain ⟨ended, found⟩ := (removed_iff os codec served job.id kept).mpr
              ⟨finished, rfl, kept, opened, by rw [if_pos isLast]⟩
            exact through.removed job.id kept ended found
        · rintro ⟨behind, keptBehind⟩
          constructor
          · intro id fileNum other member otherEnds
            have late := ((reported_iff os codec served id fileNum other).mp ⟨member, otherEnds⟩).1
            rw [told, List.mem_singleton] at late
            rw [late] at otherEnds
            obtain ⟨sameId, same⟩ : job.id = id ∧ reachedNum os volume job = fileNum := by
              rcases ends with rfl | rfl <;> rcases otherEnds with done | error <;> simp_all
            exact ⟨job, served, sameId, by rw [← same]; exact behind⟩
          · intro id found ended isFound
            obtain ⟨_, rfl, kept, isKept, rfl⟩ :=
              (removed_iff os codec served id found).mp ⟨ended, isFound⟩
            cases last : kept.isLastJob with
            | true =>
                exact keptBehind kept
                  ((getJob_initJobs os job.id jobs volume kept last).mp isKept) last
            | false =>
                have sameFiles := (setup.trans (readTurn_setup os codec _
                  (initJobs os jobs volume).2.1)).files
                simp only [Bool.false_eq_true, if_false, sameFiles, sameNum]
                exact behind
      · have isBusy : Busy os volume job := by
          by_contra notBusy
          exact busy (work.mpr notBusy)
        refine ⟨fun _ other isServed => ?_, fun _ => ⟨?_, ?_⟩⟩
        · obtain rfl := Option.some.inj (served.symm.trans isServed)
          exact .inl isBusy
        · intro id fileNum message member ends
          exact absurd ends (silent message
            ((reported_iff os codec served id fileNum message).mp ⟨member, ends⟩).1 id fileNum)
        · intro id found ended isFound
          have finished := ((removed_iff os codec served id found).mp ⟨ended, isFound⟩).1
          rw [unfinished] at finished
          cases finished

/-- In a run of the sending side, ticks end jobs behind their last file exactly if they serve them
so. -/
theorem ticks_endThrough_iff
    (os : Os Location)
    (codec : Codec)
    (reader : Reader Location)
    (events : List ReadEvent) :
    Along (Reader.step os codec) (fun reader event =>
        reader.panicked = false → event = .tick →
          EndsThrough os codec reader.readJobs reader.volume) reader events ↔
      Along (Reader.step os codec) (fun reader event =>
        reader.panicked = false → event = .tick →
          ServesThrough os reader.readJobs reader.volume) reader events :=
  along_congr
    (fun _ _ => imp_congr Iff.rfl (imp_congr Iff.rfl (endsThrough_iff os codec _ _)))
    reader events

/-- A job over the two files of `/out` that asks for each.  The first one is not there. -/
def twoAsked : Reader String where
  readJobs := [TransferJob.newRead 7 .generic "/out" 0 [⟨"a", 0⟩, ⟨"b", 0⟩] true]
  volume := ⟨(Disk.empty : Disk String).create "/out/b" 60, []⟩

/-- The first tick reports the job as done at its second file, which was never opened, and takes it
out. -/
theorem done_before_second :
    (twoAsked.step (Os.plain .unix) plainCodec .tick).sent =
        [.error 7 (.io (.openRead "/out/a")) 1, .done 7 1] ∧
      (twoAsked.step (Os.plain .unix) plainCodec .tick).readJobs = [] ∧
      ¬Along (Reader.step (Os.plain .unix) plainCodec) (fun reader event =>
        reader.panicked = false → event = .tick →
          EndsThrough (Os.plain .unix) plainCodec reader.readJobs reader.volume)
        twoAsked [.tick] := by
  refine ⟨by decide, by decide, ?_⟩
  rintro ⟨through, _⟩
  obtain ⟨job, served, _, behind⟩ :=
    (through rfl rfl).reported 7 1 (.done 7 1) (by decide) (.inl rfl)
  obtain rfl := Option.some.inj served
  exact absurd behind (by decide)

end Completion

end Fs
end OneDesk
