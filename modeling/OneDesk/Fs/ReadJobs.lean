import OneDesk.Fs.Effects

/-!
# The sending side

`handle_read_jobs` of `libs/hbb_common/src/fs.rs`: at every tick all jobs open
their current file and ask whether it is wanted, and the first of them reads
one block.  Jobs kept from a last session are passed over.  The second half of
the module follows one job through the list.
-/

namespace OneDesk
namespace Fs

open Lib

variable {Location : Type} [DecidableEq Location]
variable (os : Os Location) (codec : Codec)

/-- What is sent when a job has opened its file, or could not. -/
def initMessages (opened : TransferJob.Outcome Location (List FileMessage)) : List FileMessage :=
  match opened.result with
  | .ok messages => messages
  | .error error => [.error opened.job.id error opened.job.fileNum]

/-- Let all jobs open their current file. -/
def initJobs :
    List TransferJob → Volume String Location →
      List TransferJob × Volume String Location × List FileMessage
  | [], volume => ([], volume, [])
  | job :: jobs, volume =>
      if job.isLastJob then
        let rest := initJobs jobs volume
        (job :: rest.1, rest.2.1, rest.2.2)
      else
        let opened := job.initDataStream os volume
        let rest := initJobs jobs opened.volume
        (opened.job :: rest.1, rest.2.1, initMessages opened ++ rest.2.2)

/-- What the turn of a job comes to. -/
structure ReadTurn (Location : Type) where
  job : TransferJob
  volume : Volume String Location
  messages : List FileMessage
  finished : Bool

/-- One block of a job, or its end. -/
def readTurn (job : TransferJob) (volume : Volume String Location) : ReadTurn Location :=
  let done := job.read os codec volume
  match done.result with
  | .error error =>
      ⟨done.job, done.volume, [.error done.job.id error done.job.fileNum], false⟩
  | .ok (some block) => ⟨done.job, done.volume, [.block block], false⟩
  | .ok none =>
      if done.job.jobCompleted then
        match done.job.jobError with
        | some text =>
            ⟨done.job, done.volume, [.error done.job.id (.bail text) done.job.fileNum], true⟩
        | none => ⟨done.job, done.volume, [.done done.job.id done.job.fileNum], true⟩
      else ⟨done.job, done.volume, [], false⟩

/-- Give the first job its turn; the id of a finished job comes last. -/
def readFirst :
    List TransferJob → Volume String Location →
      List TransferJob × Volume String Location × List FileMessage × Option Int
  | [], volume => ([], volume, [], none)
  | job :: jobs, volume =>
      if job.isLastJob then
        let rest := readFirst jobs volume
        (job :: rest.1, rest.2)
      else
        let turn := readTurn os codec job volume
        (turn.job :: jobs, turn.volume, turn.messages,
          if turn.finished then some turn.job.id else none)

/-- One tick of the sending side. -/
def handleReadJobs
    (jobs : List TransferJob)
    (volume : Volume String Location) :
    List TransferJob × Volume String Location × List FileMessage :=
  let opened := initJobs os jobs volume
  let read := readFirst os codec opened.1 opened.2.1
  (match read.2.2.2 with
    | some id => removeJob id read.1
    | none => read.1,
    read.2.1, opened.2.2 ++ read.2.2.1)

/-- The sending side: its jobs, its disk and all that it has sent. -/
structure Reader (Location : Type) where
  readJobs : List TransferJob
  volume : Volume String Location
  sent : List FileMessage := []
  panicked : Bool := false

/-- What the sending side reacts to. -/
inductive ReadEvent where
  | tick
  | sendConfirm (request : FileTransferSendConfirmRequest)
  deriving DecidableEq

/-- One step of the sending side. -/
def Reader.step (reader : Reader Location) (event : ReadEvent) : Reader Location :=
  if reader.panicked then reader
  else
    match event with
    | .tick =>
        let done := handleReadJobs os codec reader.readJobs reader.volume
        { reader with
          readJobs := done.1
          volume := done.2.1
          sent := reader.sent ++ done.2.2 }
    | .sendConfirm request =>
        match getJob request.id reader.readJobs with
        | none => reader
        | some job =>
            match job.confirm os request reader.volume with
            | none => { reader with panicked := true }
            | some (confirmed, volume) =>
                { reader with
                  readJobs := setJob request.id confirmed reader.readJobs
                  volume := volume }

/-- The blocks of one job among some messages. -/
def blocksOf (id : Int) (messages : List FileMessage) : List FileTransferBlock :=
  messages.filterMap fun message =>
    match message with
    | .block block => if block.id = id then some block else none
    | _ => none

/-- The jobs that have an id. -/
def ownJobs (id : Int) (jobs : List TransferJob) : List TransferJob :=
  jobs.filter fun job => job.id = id

@[simp] theorem blocksOf_append
    (id : Int)
    (one other : List FileMessage) :
    blocksOf id (one ++ other) = blocksOf id one ++ blocksOf id other :=
  List.filterMap_append

namespace TransferJob

variable (job : TransferJob) (volume : Volume String Location)

theorem askForConfirm_setup : SameSetup job (job.askForConfirm volume).job := by
  unfold askForConfirm
  split
  · split
    · exact .refl job
    · exact ⟨rfl, rfl, rfl, rfl, rfl, rfl⟩
  · exact .refl job

theorem askForConfirm_volume : (job.askForConfirm volume).volume = volume := by
  unfold askForConfirm
  split
  · split <;> rfl
  · rfl

theorem initDataStream_setup : SameSetup job (job.initDataStream os volume).job := by
  unfold initDataStream
  split
  · exact ⟨rfl, rfl, rfl, rfl, rfl, rfl⟩
  · split
    · exact askForConfirm_setup ..
    · dsimp only
      split
      · refine SameSetup.trans ?_ (askForConfirm_setup ..)
        exact ⟨rfl, rfl, rfl, rfl, rfl, rfl⟩
      · exact ⟨rfl, rfl, rfl, rfl, rfl, rfl⟩

/-- Opening a file to read it changes nothing on the disk. -/
theorem initDataStream_disk : (job.initDataStream os volume).volume.disk = volume.disk := by
  unfold initDataStream
  split
  · rfl
  · split
    · rw [askForConfirm_volume]
    · dsimp only
      split
      · rw [askForConfirm_volume]
        exact perform_openRead_disk ..
      · exact perform_openRead_disk ..

theorem read_setup : SameSetup job (job.read os codec volume).job := by
  unfold read
  split
  · exact .refl job
  · split
    · exact ⟨rfl, rfl, rfl, rfl, rfl, rfl⟩
    · split
      · exact .refl job
      · dsimp only
        split
        · split
          · exact ⟨rfl, rfl, rfl, rfl, rfl, rfl⟩
          · exact ⟨rfl, rfl, rfl, rfl, rfl, rfl⟩
        · exact ⟨rfl, rfl, rfl, rfl, rfl, rfl⟩

theorem read_disk : (job.read os codec volume).volume.disk = volume.disk := by
  unfold read
  split
  · rfl
  · split
    · rfl
    · split
      · rfl
      · dsimp only
        split
        · split
          · exact perform_read_disk ..
          · exact perform_read_disk ..
        · exact perform_read_disk ..

/-- Opening a file that is there changes nothing on the disk. -/
theorem openAt_disk
    {path : String}
    {location : Location}
    {inode : Nat}
    (located : os.locate path = some location)
    (named : volume.disk.names location = some inode)
    (writable : Bool)
    (offset : Nat) :
    (job.openAt os path writable offset volume).2.disk = volume.disk := by
  cases writable with
  | true => exact perform_openWrite_disk os.toHost volume located named
  | false => exact perform_openRead_disk ..

theorem bothExist_disk (path : String) :
    (bothExist os path volume).2.disk = volume.disk := by
  unfold bothExist
  dsimp only
  split
  · rw [perform_stat_disk, perform_stat_disk]
  · exact perform_stat_disk ..

theorem setStreamOffset_disk
    {fileNum offset : Nat}
    {after : TransferJob × Volume String Location}
    (moved : job.setStreamOffset os fileNum offset volume = some after) :
    after.2.disk = volume.disk := by
  obtain ⟨entry, _, rfl⟩ := Option.map_eq_some_iff.mp moved
  have looked := bothExist_disk os volume (job.pathOf os.style entry)
  dsimp only
  split
  · next both =>
      have download : (perform os.toHost volume
          (.stat (downloadOf (job.pathOf os.style entry)))).1 = true := by
        unfold bothExist at both
        dsimp only at both
        split at both
        · next found => exact found
        · exact both
      obtain ⟨location, inode, located, named⟩ := perform_stat_found os.toHost volume download
      rw [openAt_disk os job _ located (by rw [looked]; exact named)]
      exact looked
  · split
    · exact (perform_openRead_disk ..).trans ((perform_stat_disk ..).trans looked)
    · exact (perform_stat_disk ..).trans looked

/-- A confirmation changes nothing on the disk. -/
theorem confirm_disk
    {request : FileTransferSendConfirmRequest}
    {after : TransferJob × Volume String Location}
    (confirmed : job.confirm os request volume = some after) :
    after.2.disk = volume.disk := by
  unfold confirm at confirmed
  split at confirmed
  · rw [← Option.some.inj confirmed]
  · split at confirmed
    · rw [← Option.some.inj confirmed]
    · rw [← Option.some.inj confirmed]
    · split at confirmed
      · exact setStreamOffset_disk os _ volume confirmed
      · rw [← Option.some.inj confirmed]
    · rw [← Option.some.inj confirmed]

/-- A job sends blocks under its own id. -/
theorem read_block_id
    {block : FileTransferBlock}
    (sent : (job.read os codec volume).result = .ok (some block)) :
    block.id = job.id := by
  unfold read at sent
  split at sent
  · cases sent
  · split at sent
    · cases sent
    · split at sent
      · cases sent
      · dsimp only at sent
        split at sent
        · split at sent
          · simp only [Except.ok.injEq, Option.some.injEq] at sent
            rw [← sent]
          · simp only [Except.ok.injEq, Option.some.injEq] at sent
            rw [← sent]
        · cases sent

/-- Opening a file sends no block. -/
theorem initDataStream_blocks (id : Int) :
    blocksOf id (initMessages (job.initDataStream os volume)) = [] := by
  have asks : ∀ asking : TransferJob, ∀ volume : Volume String Location,
      blocksOf id (initMessages (asking.askForConfirm volume)) = [] := by
    intro asking volume
    unfold askForConfirm
    split
    · split
      · rfl
      · next message sends =>
          unfold sendCurrentDigest at sends
          split at sends
          · cases sends
          · dsimp only at sends
            split at sends
            · cases sends
            · rw [← Except.ok.inj sends]
              rfl
    · rfl
  unfold initDataStream
  split
  · rfl
  · split
    · exact asks _ _
    · dsimp only
      split
      · exact asks _ _
      · rfl

section Opening

variable {os job volume} {entry : FileEntry} (current : job.currentEntry = some entry)
include current

/-- A file that is open stays open. -/
theorem initDataStream_streaming
    {stream : Handle}
    (streaming : job.dataStream = some stream) :
    job.initDataStream os volume = job.askForConfirm volume := by
  simp only [initDataStream, current, streaming]

/-- A file that opens is asked for. -/
theorem initDataStream_opened
    {stream : Handle}
    (closed : job.dataStream = none)
    (opens : (perform os.toHost volume (.openRead (job.pathOf os.style entry))).1 = true)
    (isOpened : openedAt os.toHost
      (perform os.toHost volume (.openRead (job.pathOf os.style entry))).2
      (job.pathOf os.style entry) false = some stream) :
    job.initDataStream os volume =
      askForConfirm
        { job with
          dataStream := some stream
          fileConfirmed := false
          fileIsWaiting := false }
        (perform os.toHost volume (.openRead (job.pathOf os.style entry))).2 := by
  simp only [initDataStream, current, closed, opens, isOpened, if_true]

/-- A file that does not open is passed over. -/
theorem initDataStream_fails
    (closed : job.dataStream = none)
    (fails : (perform os.toHost volume (.openRead (job.pathOf os.style entry))).1 = false) :
    job.initDataStream os volume =
      ⟨{ job with
          fileNum := job.fileNum + 1
          fileConfirmed := false
          fileIsWaiting := false },
        (perform os.toHost volume (.openRead (job.pathOf os.style entry))).2,
        .error (.io (.openRead (job.pathOf os.style entry)))⟩ := by
  simp only [initDataStream, current, closed, fails, Bool.false_eq_true, if_false]

end Opening

end TransferJob

section Turn

variable (job : TransferJob) (volume : Volume String Location)

/-- A turn leaves the job and the disk as its reading has left them. -/
theorem readTurn_read :
    (readTurn os codec job volume).job = (job.read os codec volume).job ∧
      (readTurn os codec job volume).volume = (job.read os codec volume).volume := by
  unfold readTurn
  dsimp only
  split
  · exact ⟨rfl, rfl⟩
  · exact ⟨rfl, rfl⟩
  · split
    · split <;> exact ⟨rfl, rfl⟩
    · exact ⟨rfl, rfl⟩

theorem readTurn_job : (readTurn os codec job volume).job = (job.read os codec volume).job :=
  (readTurn_read os codec job volume).1

theorem readTurn_setup : TransferJob.SameSetup job (readTurn os codec job volume).job := by
  rw [readTurn_job]
  exact TransferJob.read_setup ..

theorem readTurn_volume :
    (readTurn os codec job volume).volume = (job.read os codec volume).volume :=
  (readTurn_read os codec job volume).2

/-- A turn sends the block that was read, if any. -/
theorem readTurn_blocks (id : Int) :
    blocksOf id (readTurn os codec job volume).messages =
      match (job.read os codec volume).result with
      | .ok (some block) => if job.id = id then [block] else []
      | _ => [] := by
  unfold readTurn
  dsimp only
  split
  · next failed => simp only [failed, blocksOf, List.filterMap_cons, List.filterMap_nil]
  · next block sent =>
      have own := TransferJob.read_block_id os codec job volume sent
      by_cases here : job.id = id
      · simp [sent, blocksOf, own, here]
      · simp [sent, blocksOf, own, here]
  · next nothing =>
      simp only [nothing]
      split
      · split <;> rfl
      · rfl

/-- A turn ends a job only when nothing was read and the job counts as completed. -/
theorem readTurn_finished
    (finished : (readTurn os codec job volume).finished = true) :
    (job.read os codec volume).result = .ok none ∧
      (job.read os codec volume).job.jobCompleted = true := by
  unfold readTurn at finished
  dsimp only at finished
  split at finished
  · cases finished
  · cases finished
  · next nothing =>
      split at finished
      · next completed => exact ⟨nothing, completed⟩
      · cases finished

end Turn

section Own

variable {os codec} {id : Int}

@[simp] theorem ownJobs_cons (job : TransferJob) (jobs : List TransferJob) :
    ownJobs id (job :: jobs) =
      if job.id = id then job :: ownJobs id jobs else ownJobs id jobs := by
  by_cases own : job.id = id
  · simp [ownJobs, own]
  · simp [ownJobs, own]

theorem getJob_eq_head (jobs : List TransferJob) :
    getJob id jobs = (ownJobs id jobs).head? :=
  (List.head?_filter).symm

theorem ownJobs_setJob
    {jobs : List TransferJob}
    {job after : TransferJob}
    (only : ownJobs id jobs = [job])
    (sameId : after.id = id) :
    ownJobs id (setJob id after jobs) = [after] := by
  induction jobs with
  | nil => cases only
  | cons first jobs ih =>
      by_cases own : first.id = id
      · simp only [ownJobs_cons, own, if_true, List.cons.injEq] at only
        simp [setJob, List.replaceF, own, sameId, only.2]
      · simp only [ownJobs_cons, own, if_false] at only
        have kept := ih only
        simp only [setJob] at kept
        simp [setJob, List.replaceF, own, kept]

theorem ownJobs_setJob_of_ne
    {other : Int}
    (differs : other ≠ id)
    {after : TransferJob}
    (sameId : after.id = other)
    (jobs : List TransferJob) :
    ownJobs id (setJob other after jobs) = ownJobs id jobs := by
  induction jobs with
  | nil => rfl
  | cons first jobs ih =>
      by_cases found : first.id = other
      · have notOwn : first.id ≠ id := by rw [found]; exact differs
        have notOwnAfter : after.id ≠ id := by rw [sameId]; exact differs
        simp [setJob, List.replaceF, found, differs, notOwnAfter]
      · simp only [setJob] at ih
        simp [setJob, List.replaceF, found, ih]

theorem ownJobs_removeJob
    {jobs : List TransferJob}
    {job : TransferJob}
    (only : ownJobs id jobs = [job]) :
    ownJobs id (removeJob id jobs) = [] := by
  induction jobs with
  | nil => rfl
  | cons first jobs ih =>
      by_cases own : first.id = id
      · simp only [ownJobs_cons, own, if_true, List.cons.injEq] at only
        simpa [removeJob, own] using only.2
      · simp only [ownJobs_cons, own, if_false] at only
        have gone := ih only
        simp only [removeJob] at gone
        simp [removeJob, own, gone]

theorem ownJobs_removeJob_of_ne
    {other : Int}
    (differs : other ≠ id)
    (jobs : List TransferJob) :
    ownJobs id (removeJob other jobs) = ownJobs id jobs := by
  induction jobs with
  | nil => rfl
  | cons first jobs ih =>
      by_cases found : first.id = other
      · simp [removeJob, found, differs]
      · simp only [removeJob] at ih
        simp [removeJob, found, ih]

/-- If a job stays that of the same id and no own job follows it, there is none after. -/
theorem ownJobs_cons_eq_nil
    {first after : TransferJob}
    (sameId : after.id = first.id)
    {jobs jobsAfter : List TransferJob}
    (none : ownJobs id jobs = [] → ownJobs id jobsAfter = [])
    (noOwn : ownJobs id (first :: jobs) = []) :
    ownJobs id (after :: jobsAfter) = [] := by
  rw [ownJobs_cons] at noOwn ⊢
  rw [sameId]
  by_cases own : first.id = id
  · simp [own] at noOwn
  · simp only [own, if_false] at noOwn ⊢
    exact none noOwn

/-- Opening files touches only the own job of an id and sends none of its blocks. -/
theorem initJobs_own
    (os : Os Location)
    (id : Int)
    (jobs : List TransferJob)
    (volume : Volume String Location) :
    (initJobs os jobs volume).2.1.disk = volume.disk ∧
      blocksOf id (initJobs os jobs volume).2.2 = [] ∧
      (ownJobs id jobs = [] → ownJobs id (initJobs os jobs volume).1 = []) ∧
      ∀ job, ownJobs id jobs = [job] →
        ∃ before : Volume String Location, before.disk = volume.disk ∧
          ownJobs id (initJobs os jobs volume).1 =
            [if job.isLastJob then job else (job.initDataStream os before).job] := by
  induction jobs generalizing volume with
  | nil => exact ⟨rfl, rfl, fun _ => rfl, fun _ only => by cases only⟩
  | cons first jobs ih =>
      simp only [initJobs]
      by_cases last : first.isLastJob = true
      · obtain ⟨disk, blocks, none, single⟩ := ih volume
        simp only [last, if_true]
        refine ⟨disk, blocks, ownJobs_cons_eq_nil rfl none, ?_⟩
        rw [ownJobs_cons, ownJobs_cons]
        · intro job only
          by_cases own : first.id = id
          · simp only [own, if_true, List.cons.injEq] at only ⊢
            obtain ⟨rfl, noMore⟩ := only
            exact ⟨volume, rfl, by simp [last], none noMore⟩
          · simp only [own, if_false] at only ⊢
            exact single job only
      · obtain ⟨disk, blocks, none, single⟩ := ih (first.initDataStream os volume).volume
        have opened := TransferJob.initDataStream_disk os first volume
        have sameId := (TransferJob.initDataStream_setup os first volume).id
        simp only [last, Bool.false_eq_true, if_false, blocksOf_append,
          TransferJob.initDataStream_blocks, List.nil_append]
        refine ⟨disk.trans opened, blocks, ownJobs_cons_eq_nil sameId none, ?_⟩
        rw [ownJobs_cons, ownJobs_cons, sameId]
        · intro job only
          by_cases own : first.id = id
          · simp only [own, if_true, List.cons.injEq] at only ⊢
            obtain ⟨rfl, noMore⟩ := only
            exact ⟨volume, rfl, by simp [last], none noMore⟩
          · simp only [own, if_false] at only ⊢
            obtain ⟨before, same, after⟩ := single job only
            exact ⟨before, same.trans opened, after⟩

variable (os codec)

/-- The turn of a job sends no block of another one. -/
theorem readTurn_blocks_of_ne
    {job : TransferJob}
    (differs : job.id ≠ id)
    (volume : Volume String Location) :
    blocksOf id (readTurn os codec job volume).messages = [] := by
  rw [readTurn_blocks]
  split
  · simp [differs]
  · rfl

theorem readFirst_disk (jobs : List TransferJob) (volume : Volume String Location) :
    (readFirst os codec jobs volume).2.1.disk = volume.disk := by
  induction jobs with
  | nil => rfl
  | cons first jobs ih =>
      simp only [readFirst]
      split
      · exact ih
      · dsimp only
        rw [readTurn_volume]
        exact TransferJob.read_disk ..

/-- Without an own job no block is sent for an id and nothing of it ends. -/
theorem readFirst_others
    {jobs : List TransferJob}
    (noOwn : ownJobs id jobs = [])
    (volume : Volume String Location) :
    ownJobs id (readFirst os codec jobs volume).1 = [] ∧
      blocksOf id (readFirst os codec jobs volume).2.2.1 = [] ∧
      (readFirst os codec jobs volume).2.2.2 ≠ some id := by
  induction jobs with
  | nil => exact ⟨rfl, rfl, nofun⟩
  | cons first jobs ih =>
      have differs : first.id ≠ id := by
        intro own
        simp [own] at noOwn
      simp only [ownJobs_cons, differs, if_false] at noOwn
      have turned := (readTurn_setup os codec first volume).id
      simp only [readFirst]
      by_cases last : first.isLastJob = true
      · simp only [last, if_true, ownJobs_cons, differs, if_false]
        exact ih noOwn
      · simp only [last, Bool.false_eq_true, if_false, ownJobs_cons, turned, differs]
        refine ⟨noOwn, readTurn_blocks_of_ne os codec differs volume, ?_⟩
        split
        · simpa using differs
        · nofun

/-- The own job of an id gets its turn or has to wait. -/
theorem readFirst_own
    {jobs : List TransferJob}
    {job : TransferJob}
    (only : ownJobs id jobs = [job])
    (volume : Volume String Location) :
    (ownJobs id (readFirst os codec jobs volume).1 = [job] ∧
      blocksOf id (readFirst os codec jobs volume).2.2.1 = [] ∧
      (readFirst os codec jobs volume).2.2.2 ≠ some id) ∨
    (job.isLastJob = false ∧
      ownJobs id (readFirst os codec jobs volume).1 = [(readTurn os codec job volume).job] ∧
      blocksOf id (readFirst os codec jobs volume).2.2.1 =
        blocksOf id (readTurn os codec job volume).messages ∧
      ((readFirst os codec jobs volume).2.2.2 = some id →
        (readTurn os codec job volume).finished = true)) := by
  induction jobs with
  | nil => cases only
  | cons first jobs ih =>
      have turned := (readTurn_setup os codec first volume).id
      simp only [readFirst]
      by_cases last : first.isLastJob = true
      · simp only [last, if_true, ownJobs_cons]
        by_cases own : first.id = id
        · simp only [ownJobs_cons, own, if_true, List.cons.injEq] at only ⊢
          obtain ⟨rfl, noMore⟩ := only
          obtain ⟨others, blocks, unfinished⟩ :=
            readFirst_others os codec noMore volume
          exact .inl ⟨⟨rfl, others⟩, blocks, unfinished⟩
        · simp only [ownJobs_cons, own, if_false] at only ⊢
          exact ih only
      · simp only [last, Bool.false_eq_true, if_false, ownJobs_cons, turned]
        by_cases own : first.id = id
        · simp only [ownJobs_cons, own, if_true, List.cons.injEq] at only ⊢
          obtain ⟨rfl, noMore⟩ := only
          right
          refine ⟨by simpa using last, ⟨rfl, noMore⟩, rfl, ?_⟩
          intro ends
          split at ends
          · next finished => exact finished
          · cases ends
        · simp only [ownJobs_cons, own, if_false] at only ⊢
          left
          refine ⟨only, readTurn_blocks_of_ne os codec own volume, ?_⟩
          split
          · simpa using own
          · nofun

/-- A job that ends takes only itself away. -/
theorem ownJobs_finish
    (finished : Option Int)
    (jobs : List TransferJob) :
    finished ≠ some id →
      ownJobs id (match finished with
        | some other => removeJob other jobs
        | none => jobs) = ownJobs id jobs := by
  intro notOwn
  cases finished with
  | none => rfl
  | some other => exact ownJobs_removeJob_of_ne (fun same => notOwn (congrArg some same)) jobs

theorem ownJobs_removeJob_nil
    {jobs : List TransferJob}
    (noOwn : ownJobs id jobs = [])
    (other : Int) :
    ownJobs id (removeJob other jobs) = [] := by
  refine List.filter_eq_nil_iff.mpr ?_
  intro job member
  exact List.filter_eq_nil_iff.mp noOwn job (mem_removeJob member)

/-- A tick sends no block for an id without a job. -/
theorem handleReadJobs_others
    {jobs : List TransferJob}
    (noOwn : ownJobs id jobs = [])
    (volume : Volume String Location) :
    (handleReadJobs os codec jobs volume).2.1.disk = volume.disk ∧
      ownJobs id (handleReadJobs os codec jobs volume).1 = [] ∧
      blocksOf id (handleReadJobs os codec jobs volume).2.2 = [] := by
  obtain ⟨disk, noBlocks, none, _⟩ := initJobs_own os id jobs volume
  obtain ⟨others, blocks, _⟩ := readFirst_others os codec (none noOwn)
    (initJobs os jobs volume).2.1
  refine ⟨(readFirst_disk os codec _ _).trans disk, ?_, ?_⟩
  · simp only [handleReadJobs]
    split
    · exact ownJobs_removeJob_nil others _
    · exact others
  · rw [handleReadJobs, blocksOf_append, noBlocks, blocks, List.append_nil]

/-- What a tick does to the own job of an id: the job opens its file, and then it has its turn,
which may end it, or has to wait. -/
theorem handleReadJobs_own
    {jobs : List TransferJob}
    {job : TransferJob}
    (only : ownJobs id jobs = [job])
    (volume : Volume String Location) :
    (handleReadJobs os codec jobs volume).2.1.disk = volume.disk ∧
      ∃ before middle : Volume String Location, ∃ opened : TransferJob,
        before.disk = volume.disk ∧ middle.disk = volume.disk ∧
        opened = (if job.isLastJob then job else (job.initDataStream os before).job) ∧
        ((ownJobs id (handleReadJobs os codec jobs volume).1 = [opened] ∧
            blocksOf id (handleReadJobs os codec jobs volume).2.2 = []) ∨
          (job.isLastJob = false ∧
            blocksOf id (handleReadJobs os codec jobs volume).2.2 =
              blocksOf id (readTurn os codec opened middle).messages ∧
            (ownJobs id (handleReadJobs os codec jobs volume).1 =
                [(readTurn os codec opened middle).job] ∨
              (ownJobs id (handleReadJobs os codec jobs volume).1 = [] ∧
                (readTurn os codec opened middle).finished = true)))) := by
  obtain ⟨disk, noBlocks, _, single⟩ := initJobs_own os id jobs volume
  obtain ⟨before, sameBefore, onlyOpened⟩ := single job only
  have readDisk := readFirst_disk os codec (initJobs os jobs volume).1
    (initJobs os jobs volume).2.1
  refine ⟨readDisk.trans disk, before, (initJobs os jobs volume).2.1, _, sameBefore, disk, rfl, ?_⟩
  simp only [handleReadJobs, blocksOf_append, noBlocks, List.nil_append]
  rcases readFirst_own os codec onlyOpened (initJobs os jobs volume).2.1 with
      ⟨waits, blocks, unfinished⟩ | ⟨notLast, turned, blocks, ends⟩
  · exact .inl ⟨(ownJobs_finish _ _ unfinished).trans waits, blocks⟩
  · right
    have sameLast : (if job.isLastJob then job else (job.initDataStream os before).job).isLastJob =
        job.isLastJob := by
      split
      · rfl
      · exact (TransferJob.initDataStream_setup os job before).isLastJob
    refine ⟨sameLast.symm.trans notLast, blocks, ?_⟩
    by_cases finishes : (readFirst os codec (initJobs os jobs volume).1
        (initJobs os jobs volume).2.1).2.2.2 = some id
    · right
      rw [finishes]
      exact ⟨ownJobs_removeJob turned, ends finishes⟩
    · exact .inl ((ownJobs_finish _ _ finishes).trans turned)

end Own

end Fs
end OneDesk
