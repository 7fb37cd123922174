import OneDesk.Fs.Exchange

/-!
# Messages as they are handled

A block is written while the write job is there, the end of the job publishes
its last file, and an error ends the write job whatever it was about.
-/

namespace OneDesk
namespace Fs

open Lib

variable {Source Destination : Type} [DecidableEq Source] [DecidableEq Destination]
variable {setting : Setting Source Destination} {disk : Disk Source}
variable {reading writing : TransferJob} {first : Nat} {behind ahead : Stage}
variable {transfer : Transfer Source Destination} {rest : List FileMessage}

/-- The replies about a block are no end of a job. -/
theorem handleFs_writeBlock_replies
    (os : Os Destination)
    (codec : Codec)
    (manager : Manager Destination)
    (block : FileTransferBlock) :
    (handleFs os codec (.writeBlock block.id block.fileNum block.data block.compressed)
        manager).2 = [] ∨
      ∃ error, (handleFs os codec (.writeBlock block.id block.fileNum block.data block.compressed)
        manager).2 = [.error block.id error block.fileNum] := by
  unfold handleFs
  split
  · exact .inl rfl
  · simp only [handleRunning]
    split
    · exact .inl rfl
    · dsimp only
      split
      · exact .inl rfl
      · exact .inr ⟨_, rfl⟩

/-- A single job writes its block. -/
theorem handleFs_writeBlock_single
    (os : Os Destination)
    (codec : Codec)
    {manager : Manager Destination}
    {job : TransferJob}
    {block : FileTransferBlock}
    (running : manager.panicked = false)
    (single : manager.writeJobs = [job])
    (own : job.id = block.id) :
    (handleFs os codec (.writeBlock block.id block.fileNum block.data block.compressed)
        manager).1 =
      { manager with
        writeJobs := [(job.write os codec block manager.volume).job]
        volume := (job.write os codec block manager.volume).volume } := by
  have written : TransferJob.write os codec job
      ⟨job.id, block.fileNum, block.data, block.compressed⟩ manager.volume =
      job.write os codec block manager.volume := by
    rw [own]
  simp only [handleFs, running, Bool.false_eq_true, if_false, handleRunning, single, ← own,
    getJob_singleton, if_true, setJob_singleton, written]

/-- Without a job nothing is written. -/
theorem handleFs_writeBlock_none
    (os : Os Destination)
    (codec : Codec)
    {manager : Manager Destination}
    {block : FileTransferBlock}
    (none : manager.writeJobs = []) :
    (handleFs os codec (.writeBlock block.id block.fileNum block.data block.compressed)
      manager).1 = manager := by
  unfold handleFs
  split
  · rfl
  · simp only [handleRunning, none, getJob, List.find?_nil]

namespace Transfer

variable (setting)

/-- A block is given to the write job, in both directions. -/
theorem deliver_block
    {block : FileTransferBlock}
    (way : transfer.way = .block block :: rest)
    (decision : Decision) :
    ∃ told, (∀ id fileNum, JobStatus.jobDone id fileNum ∉ told) ∧
      transfer.step setting (.deliver decision) =
        { transfer with
          way := rest
          handled := transfer.handled ++ [.block block]
          manager := (handleFs setting.destination setting.codec
            (.writeBlock block.id block.fileNum block.data block.compressed) transfer.manager).1
          shown := transfer.shown ++ told } := by
  cases direction : setting.direction with
  | download =>
      refine ⟨[], fun _ _ => List.not_mem_nil, ?_⟩
      simp only [step, way, direction, handleResponse, List.append_nil]
  | upload =>
      rcases handleFs_writeBlock_replies setting.destination setting.codec transfer.manager block
        with silent | ⟨error, replies⟩
      · refine ⟨[], fun _ _ => List.not_mem_nil, ?_⟩
        simp only [step, way, direction, handleRequest, eventOf, silent, List.foldl_nil,
          List.append_nil]
      · refine ⟨[.jobError block.id error block.fileNum], by simp, ?_⟩
        simp only [step, way, direction, handleRequest, eventOf, replies, List.foldl_cons,
          List.foldl_nil, onReply, tell]

/-- The end of a job that is still there publishes its current file. -/
theorem deliver_done
    {id fileNum : Int}
    {job : TransferJob}
    (way : transfer.way = .done id fileNum :: rest)
    (running : transfer.manager.panicked = false)
    (single : transfer.manager.writeJobs = [job])
    (own : job.id = id)
    (decision : Decision) :
    ∃ told, transfer.step setting (.deliver decision) =
      { transfer with
        way := rest
        handled := transfer.handled ++ [.done id fileNum]
        manager := { transfer.manager with
          writeJobs := []
          volume := job.modifyTime setting.destination transfer.manager.volume }
        shown := transfer.shown ++ told } := by
  subst own
  cases direction : setting.direction with
  | download =>
      cases failing : job.jobError with
      | none =>
          refine ⟨[.jobDone job.id fileNum], ?_⟩
          simp only [step, way, direction, handleResponse, single, getJob_singleton,
            if_true, removeJob_singleton, failing, tell]
      | some text =>
          refine ⟨[.jobError job.id (.bail text) fileNum], ?_⟩
          simp only [step, way, direction, handleResponse, single, getJob_singleton,
            if_true, removeJob_singleton, failing, tell]
  | upload =>
      refine ⟨[.jobDone job.id fileNum], ?_⟩
      simp only [step, way, direction, handleRequest, eventOf, handleFs, running,
        Bool.false_eq_true, if_false, handleRunning, single, getJob_singleton, if_true,
        removeJob_singleton, List.foldl_cons, List.foldl_nil, onReply, tell]

/-- The end of a job that is gone is shown in a download only. -/
theorem deliver_done_gone
    {id fileNum : Int}
    (way : transfer.way = .done id fileNum :: rest)
    (running : transfer.manager.panicked = false)
    (none : transfer.manager.writeJobs = [])
    (decision : Decision) :
    ∃ told, (setting.direction = .upload → told = []) ∧
      transfer.step setting (.deliver decision) =
        { transfer with
          way := rest
          handled := transfer.handled ++ [.done id fileNum]
          shown := transfer.shown ++ told } := by
  cases direction : setting.direction with
  | download =>
      refine ⟨[.jobDone id fileNum], nofun, ?_⟩
      simp only [step, way, direction, handleResponse, none, getJob, List.find?_nil, tell]
  | upload =>
      refine ⟨[], fun _ => rfl, ?_⟩
      simp only [step, way, direction, handleRequest, eventOf, handleFs, running,
        Bool.false_eq_true, if_false, handleRunning, none, getJob, List.find?_nil,
        List.foldl_nil, List.append_nil]

/-- An error ends the write job. -/
theorem deliver_error
    {id fileNum : Int}
    {error : FsError}
    (way : transfer.way = .error id error fileNum :: rest)
    (running : transfer.manager.panicked = false)
    (decision : Decision) :
    ∃ told, (∀ id fileNum, JobStatus.jobDone id fileNum ∉ told) ∧
      (setting.direction = .download → .jobError id error fileNum ∈ told) ∧
      transfer.step setting (.deliver decision) =
        { transfer with
          way := rest
          handled := transfer.handled ++ [.error id error fileNum]
          manager := { transfer.manager with
            writeJobs := removeJob id transfer.manager.writeJobs }
          shown := transfer.shown ++ told } := by
  cases direction : setting.direction with
  | download =>
      refine ⟨[.jobError id error fileNum], by simp, fun _ => List.mem_singleton_self _, ?_⟩
      simp only [step, way, direction, handleResponse, tell]
  | upload =>
      cases found : getJob id transfer.manager.writeJobs with
      | none =>
          have kept : removeJob id transfer.manager.writeJobs = transfer.manager.writeJobs :=
            List.eraseP_of_forall_not (List.find?_eq_none.mp found)
          refine ⟨[], fun _ _ => List.not_mem_nil, by simp, ?_⟩
          rw [kept]
          simp only [step, way, direction, handleRequest, eventOf, handleFs, running,
            Bool.false_eq_true, if_false, handleRunning, found, List.foldl_nil, List.append_nil]
          rw [← running]
      | some job =>
          refine ⟨[.jobError job.id (.bail (setting.errorText error)) fileNum],
            by simp, by simp, ?_⟩
          simp only [step, way, direction, handleRequest, eventOf, handleFs, running,
            Bool.false_eq_true, if_false, handleRunning, found, List.foldl_cons, List.foldl_nil,
            onReply, tell]

end Transfer

theorem Completes.append
    {codec : Codec}
    {messages : List FileMessage}
    {number : Nat}
    (completes : Completes codec messages number)
    (others : List FileMessage) :
    Completes codec (messages ++ others) number := by
  obtain ⟨block, member, ends⟩ := completes
  exact ⟨block, List.mem_append_left others member, ends⟩

theorem completes_append
    {codec : Codec}
    {messages others : List FileMessage}
    {number : Nat}
    (completes : Completes codec (messages ++ others) number) :
    Completes codec messages number ∨ Completes codec others number := by
  obtain ⟨block, member, ends⟩ := completes
  exact (List.mem_append.mp member).imp (fun before => ⟨block, before, ends⟩)
    fun now => ⟨block, now, ends⟩

/-- What was accounted for stays so while the disk is the same and more is shown. -/
theorem Accounted.mono
    {later : Transfer Source Destination}
    {number : Nat}
    (accounted : Accounted setting disk reading writing transfer number)
    (same : later.manager.volume.disk = transfer.manager.volume.disk)
    (shown : ∀ status ∈ transfer.shown, status ∈ later.shown)
    (skipped : ∀ number ∈ transfer.skipped, number ∈ later.skipped) :
    Accounted setting disk reading writing later number := by
  rcases accounted with delivered | ⟨id, reported⟩ | left
  · exact .inl (same ▸ delivered)
  · exact .inr (.inl ⟨id, reported.imp (fun ⟨operation, told⟩ => ⟨operation, shown _ told⟩)
      fun ⟨text, told⟩ => ⟨text, shown _ told⟩⟩)
  · exact .inr (.inr (skipped _ left))

/-- Where the write job is gone, a message that ends no file changes nothing. -/
theorem Gone.handles
    (gone : Gone setting disk reading writing first behind transfer)
    (sending : behind.phase = .sending)
    {next : Stage}
    {message : FileMessage}
    {shown : List JobStatus}
    (keeps : ∀ status ∈ transfer.shown, status ∈ shown)
    (endsNone : ∀ number, ¬Completes setting.codec [message] number)
    (accounted : setting.direction = .download → ∀ number, behind.number ≤ number →
      number < next.number → Reported shown number)
    (closed : ∀ (id fileNum : Int), .jobDone id fileNum ∈ shown → ∀ number, first ≤ number →
      number < reading.files.length → Accounted setting disk reading writing
        { transfer with way := rest, handled := transfer.handled ++ [message], shown := shown }
        number) :
    Gone setting disk reading writing first next
      { transfer with way := rest, handled := transfer.handled ++ [message], shown := shown } := by
  obtain ⟨cause, isHandled, troubled⟩ : ∃ message ∈ transfer.handled, Troubled message := by
    refine gone.reason.resolve_left ?_
    rw [sending]
    nofun
  have stays : ∃ cause ∈ transfer.handled ++ [message], Troubled cause :=
    ⟨cause, List.mem_append_left _ isHandled, troubled⟩
  refine ⟨gone.none, .inr stays, ?_, ?_, closed, ?_⟩
  · intro number completes
    exact gone.completed number ((completes_append completes).resolve_right (endsNone number))
  · intro download number fromFirst before
    by_cases earlier : number < behind.number
    · exact (gone.accounted download number fromFirst earlier).mono rfl keeps fun _ left => left
    · exact .inr (.inl (accounted download number (Nat.le_of_not_lt earlier) before))
  · intro quiet
    obtain ⟨cause, isHandled, troubled⟩ := stays
    exact absurd troubled (quiet cause isHandled)

/-- The files that nothing is sent of yet are left alone. -/
def Spares
    (setting : Setting Source Destination)
    (writing : TransferJob)
    (behind next : Stage)
    (before after : Transfer Source Destination) : Prop :=
  ∀ number, next.toCursor.Awaits number → behind.toCursor.Awaits number ∧
    Untouched setting.destination writing before.manager.volume after.manager.volume number

/-- A step that keeps the disk spares all files. -/
theorem Spares.of_disk
    {next : Stage}
    {after : Transfer Source Destination}
    (awaits : ∀ number, next.toCursor.Awaits number → behind.toCursor.Awaits number)
    (same : after.manager.volume.disk = transfer.manager.volume.disk) :
    Spares setting writing behind next transfer after :=
  fun number later => ⟨awaits number later, fun _ location _ => .of_disk same location⟩

namespace Afoot

/-- A block is written, or the write job is gone and the block ends no file; no block ends a file
after an error. -/
theorem block
    (matched : Matched setting reading writing first)
    (afoot : Afoot setting disk reading writing first behind transfer ahead)
    {block : FileTransferBlock}
    (way : transfer.way = .block block :: rest)
    (careful : TransferJob.payload setting.codec block = [] →
      ∀ message ∈ transfer.handled, ¬Troubled message)
    (decision : Decision) :
    ∃ after,
      Afoot setting disk reading writing first after
        (transfer.step setting (.deliver decision)) ahead ∧
      Spares setting writing behind after transfer (transfer.step setting (.deliver decision)) := by
  obtain ⟨after, takes, course⟩ := afoot.oldest way
  obtain ⟨told, noEnd, stepped⟩ :=
    Transfer.deliver_block setting way decision
  refine ⟨after, ?_⟩
  rw [stepped]
  have keeps : ∀ status ∈ transfer.shown, status ∈ transfer.shown ++ told :=
    fun status => List.mem_append_left told
  have notEnded : ∀ (id fileNum : Int), .jobDone id fileNum ∈ transfer.shown ++ told →
      .jobDone id fileNum ∈ transfer.shown :=
    fun id fileNum member => (List.mem_append.mp member).resolve_right (noEnd id fileNum)
  have waits := takes.sending
  cases takes with
  | @block cursor failed _ inside carries =>
      rcases afoot.writes with working | gone
      · obtain ⟨job, current, single, kept⟩ := working.job
        have own : job.id = block.id := by
          rw [kept.setup.id, matched.id, carries.id]
        obtain ⟨received, spared⟩ := kept.receives matched.permits matched.writeGeneric
          matched.separate (inside.trans_eq matched.length.symm) (matched.id ▸ carries)
        rw [handleFs_writeBlock_single setting.destination setting.codec afoot.running single own]
        constructor
        · refine afoot.handles way (.block inside carries) course afoot.running keeps nofun
            (fun id fileNum member => .inl (notEnded id fileNum member)) nofun (.inl ?_)
          refine ⟨working.sound, nofun, ?_, _, _, rfl, received⟩
          intro number fromFirst before
          by_cases earlier : number < cursor.number
          · exact (working.passed number fromFirst earlier).imp_left fun done => done.append _
          · -- the cursor has left the file, so the block was its last
            left
            dsimp only at before
            unfold Cursor.next at before
            split at before
            · next ends =>
                obtain rfl : number = cursor.number := by
                  dsimp only at before
                  omega
                exact ⟨block, List.mem_append_right _ (List.mem_singleton_self _), carries.fileNum,
                  carries.payload.trans ends⟩
            · exact absurd before earlier
        · intro number later
          have behind := Cursor.awaits_next later
          exact ⟨.inl behind, spared number behind⟩
      · have goesOn : cursor.chunk (contentsOf setting.source disk reading) ≠ [] := by
          intro ends
          rcases gone.reason with ended | ⟨message, handled, troubled⟩
          · cases ended
          · exact careful (carries.payload.trans ends) message handled troubled
        have same : (cursor.next (contentsOf setting.source disk reading)).number =
            cursor.number := by
          rw [Cursor.next, if_neg goesOn]
        rw [handleFs_writeBlock_none setting.destination setting.codec gone.none]
        constructor
        · refine afoot.handles way (.block inside carries) course afoot.running keeps nofun
            (fun id fileNum member => .inl (notEnded id fileNum member)) nofun (.inr ?_)
          refine gone.handles waits keeps ?_ ?_ ?_
          · rintro number ⟨other, member, _, ends⟩
            obtain rfl := FileMessage.block.inj (List.mem_singleton.mp member)
            exact goesOn (carries.payload.symm.trans ends)
          · intro _ number fromHere before
            dsimp only at fromHere before
            omega
          · intro id fileNum member
            have ended := afoot.closed id fileNum (notEnded id fileNum member)
            cases ended
        · exact .of_disk (fun number later => .inl (Cursor.awaits_next later)) rfl

end Afoot

/-- The errors of a read job: a file failed, or the only file was skipped. -/
theorem Takes.of_error
    {codec : Codec}
    {contents : Nat → List UInt8}
    {skipped : List Int}
    {before after : Stage}
    {id fileNum : Int}
    {error : FsError}
    (takes : Takes codec reading contents skipped before (.error id error fileNum) after) :
    id = reading.id ∧ (∀ number, after.toCursor.Awaits number → before.toCursor.Awaits number) ∧
      (error ≠ skipError ∧ (after.number = before.number ∨
          after.number = before.number + 1 ∧
            ∃ operation, error = .io operation ∧ fileNum = before.number + 1) ∨
        error = skipError ∧ after.phase = .ended ∧ reading.files.length = 1 ∧ 0 ∈ skipped ∧
          before.number = 1 ∧ after.number = before.number) := by
  cases takes with
  | @fails cursor failed operation inside =>
      refine ⟨rfl, fun number later => ?_, .inl ⟨nofun, .inr ⟨rfl, operation, rfl, rfl⟩⟩⟩
      rcases later with behind | ⟨rfl, _⟩
      · exact .inl (Nat.lt_of_succ_lt behind)
      · exact .inl (Nat.lt_succ_self _)
  | stalls inside genuine => exact ⟨rfl, fun number later => later, .inl ⟨genuine, .inl rfl⟩⟩
  | skips alone skips =>
      exact ⟨rfl, fun number later => later, .inr ⟨rfl, rfl, alone, skips, rfl, rfl⟩⟩

namespace Afoot

/-- What was sent whole is at its place, but for a file that the write job has open. -/
theorem delivered
    (afoot : Afoot setting disk reading writing first behind transfer ahead)
    {job : TransferJob}
    {current : Nat}
    (kept : Writing setting.destination writing first (contentsOf setting.source disk reading)
      (fun number => (number : Int) ∈ transfer.skipped) transfer.manager.volume.disk
      behind.toCursor current job)
    (closed : job.dataStream ≠ none → ¬Completes setting.codec transfer.handled current)
    {number : Nat}
    (completes : Completes setting.codec transfer.handled number) :
    Delivered setting disk reading writing transfer.manager.volume.disk number := by
  obtain ⟨fromFirst, before, notSkipped⟩ := afoot.completed number completes
  rcases kept.settled number fromFirst before with ⟨rfl, streaming⟩ | excused | settled
  · exact absurd completes (closed streaming)
  · exact absurd excused notSkipped
  · exact settled

/-- An error ends the write job, which has no file open that was sent whole. -/
theorem error
    (matched : Matched setting reading writing first)
    (afoot : Afoot setting disk reading writing first behind transfer ahead)
    {id fileNum : Int}
    {error : FsError}
    (way : transfer.way = .error id error fileNum :: rest)
    (careful : error ≠ skipError → ∀ job ∈ transfer.manager.writeJobs, job.dataStream ≠ none →
      ¬Completes setting.codec transfer.handled (asUsize job.fileNum))
    (decision : Decision) :
    ∃ after,
      Afoot setting disk reading writing first after
        (transfer.step setting (.deliver decision)) ahead ∧
      Spares setting writing behind after transfer (transfer.step setting (.deliver decision)) := by
  obtain ⟨after, takes, course⟩ := afoot.oldest way
  obtain ⟨told, noEnd, isTold, stepped⟩ :=
    Transfer.deliver_error setting way afoot.running decision
  refine ⟨after, ?_⟩
  rw [stepped]
  have waits := takes.sending
  have noBlock : ∀ number, ¬Completes setting.codec [.error id error fileNum] number := by
    rintro number ⟨block, member, _⟩
    cases List.mem_singleton.mp member
  have keeps : ∀ status ∈ transfer.shown, status ∈ transfer.shown ++ told :=
    fun status => List.mem_append_left told
  have notEnded : ∀ (id fileNum : Int), .jobDone id fileNum ∉ transfer.shown ++ told := by
    intro id fileNum member
    have ended := afoot.closed id fileNum
      ((List.mem_append.mp member).resolve_right (noEnd id fileNum))
    rw [waits] at ended
    cases ended
  have reported : setting.direction = .download →
      .jobError id error fileNum ∈ transfer.shown ++ told :=
    fun download => List.mem_append_right _ (isTold download)
  obtain ⟨own, awaits, kind⟩ := takes.of_error
  have removed : removeJob id transfer.manager.writeJobs = [] := by
    rcases afoot.writes with working | gone
    · obtain ⟨job, _, single, kept⟩ := working.job
      have same : job.id = id := (kept.setup.id.trans matched.id).trans own.symm
      rw [single, ← same, removeJob_singleton]
    · rw [gone.none]
      rfl
  have failing : setting.direction = .download → ∀ number, behind.number ≤ number →
      number < after.number → Reported (transfer.shown ++ told) number := by
    intro download number fromHere before
    rcases kind with ⟨_, same | ⟨moves, operation, rfl, rfl⟩⟩ | ⟨_, _, _, _, _, same⟩
    · omega
    · obtain rfl : number = behind.number := by omega
      exact ⟨_, .inl ⟨operation, reported download⟩⟩
    · omega
  rw [removed]
  refine ⟨?_, .of_disk awaits rfl⟩
  refine afoot.handles way takes course afoot.running keeps ?_
    (fun id fileNum member => absurd member (notEnded id fileNum)) nofun (.inr ?_)
  · rintro download _ _ _ ⟨⟩
    exact reported download
  rcases afoot.writes with working | gone
  · obtain ⟨job, current, single, kept⟩ := working.job
    rcases kind with ⟨trouble, _⟩ | ⟨_, ended, alone, left, isLast, _⟩
    · have delivered : ∀ number, Completes setting.codec transfer.handled number →
          Delivered setting disk reading writing transfer.manager.volume.disk number := by
        intro number
        refine afoot.delivered kept fun streaming => ?_
        have closed := careful trouble job (by rw [single]; exact List.mem_singleton_self job)
          streaming
        rwa [kept.fileNum, asUsize_natCast] at closed
      have troubled : ∃ message ∈ transfer.handled ++ [.error id error fileNum],
          Troubled message :=
        ⟨_, List.mem_append_right _ (List.mem_singleton_self _), _, _, _, rfl, trouble⟩
      refine ⟨rfl, .inr troubled, ?_, ?_, ?_, ?_⟩
      · intro number completes
        exact delivered number ((completes_append completes).resolve_right (noBlock number))
      · intro download number fromFirst before
        by_cases earlier : number < behind.number
        · exact (working.passed number fromFirst earlier).imp (delivered number) .inr
        · exact .inr (.inl (failing download number (Nat.le_of_not_lt earlier) before))
      · exact fun id fileNum member => absurd member (notEnded id fileNum)
      · intro quiet
        obtain ⟨message, handled, bad⟩ := troubled
        exact absurd bad (quiet message handled)
    · -- the only file was skipped, so no file was sent whole
      have skipped : ∀ number : Nat, number < 1 → (number : Int) ∈ transfer.skipped := by
        intro number before
        obtain rfl : number = 0 := by omega
        exact left
      refine ⟨rfl, .inl ended, ?_, ?_, ?_, ?_⟩
      · intro number completes
        obtain ⟨_, before, notSkipped⟩ := afoot.completed number
          ((completes_append completes).resolve_right (noBlock number))
        exact absurd (skipped number (by omega)) notSkipped
      · intro download number fromFirst before
        by_cases earlier : number < behind.number
        · exact .inr (.inr (skipped number (by omega)))
        · exact .inr (.inl (failing download number (Nat.le_of_not_lt earlier) before))
      · exact fun id fileNum member => absurd member (notEnded id fileNum)
      · exact fun _ _ _ _ number _ inside => .inr (skipped number (by omega))
  · have same : transfer.manager = { transfer.manager with writeJobs := [] } := by
      rw [← gone.none]
    rw [← same]
    exact gone.handles waits keeps noBlock failing
      fun id fileNum member => absurd member (notEnded id fileNum)

/-- The end of the job publishes the last file; where the write job is gone, the files after the
last one that was reported failed as well. -/
theorem done
    (matched : Matched setting reading writing first)
    (afoot : Afoot setting disk reading writing first behind transfer ahead)
    {id fileNum : Int}
    (way : transfer.way = .done id fileNum :: rest)
    (decision : Decision) :
    ∃ after,
      Afoot setting disk reading writing first after
        (transfer.step setting (.deliver decision)) ahead ∧
      Spares setting writing behind after transfer (transfer.step setting (.deliver decision)) := by
  obtain ⟨after, takes, course⟩ := afoot.oldest way
  refine ⟨after, ?_⟩
  have waits := takes.sending
  have noBlock : ∀ number, ¬Completes setting.codec [.done id fileNum] number := by
    rintro number ⟨block, member, _⟩
    cases List.mem_singleton.mp member
  cases takes with
  | @done number failed finished =>
      rcases afoot.writes with working | gone
      · obtain ⟨job, current, single, kept⟩ := working.job
        have own : job.id = reading.id := kept.setup.id.trans matched.id
        obtain ⟨told, stepped⟩ :=
          Transfer.deliver_done setting way afoot.running single own decision
        rw [stepped]
        have published : ∀ other, first ≤ other → other < number →
            Delivered setting disk reading writing
              (job.modifyTime setting.destination transfer.manager.volume).disk other ∨
            (other : Int) ∈ transfer.skipped := fun other fromFirst before =>
          (kept.publishes matched.permits matched.writeGeneric matched.separate fromFirst
            before).symm
        have all : ∀ other, first ≤ other → other < reading.files.length →
            Delivered setting disk reading writing
              (job.modifyTime setting.destination transfer.manager.volume).disk other ∨
            (other : Int) ∈ transfer.skipped := fun other fromFirst before =>
          published other fromFirst (before.trans_le (finished working.sound))
        constructor
        · refine afoot.handles way (.done finished) course afoot.running
            (fun status => List.mem_append_left told) nofun (fun _ _ _ => .inr rfl)
            (fun _ _ _ => rfl) (.inr ⟨rfl, .inl rfl, ?_, ?_, ?_, ?_⟩)
          · intro other completes
            obtain ⟨fromFirst, before, notSkipped⟩ := afoot.completed other
              ((completes_append completes).resolve_right (noBlock other))
            exact (published other fromFirst before).resolve_right notSkipped
          · exact fun _ other fromFirst before =>
              (published other fromFirst before).imp_right .inr
          · exact fun _ _ _ other fromFirst before => (all other fromFirst before).imp_right .inr
          · exact fun _ _ _ _ => all
        · intro other later
          refine ⟨later, fun role location here => ?_⟩
          rcases later with behind | ⟨rfl, _⟩
          · exact kept.modifyTime_spares matched.writeGeneric matched.separate behind here
          · obtain ⟨entry, found, _⟩ := spot_eq_some.mp here
            have inside := (List.getElem?_eq_some_iff.mp found).1
            have beyond := finished working.sound
            rw [matched.length] at inside
            exact absurd inside (Nat.not_lt.mpr beyond)
      · obtain ⟨told, silent, stepped⟩ :=
          Transfer.deliver_done_gone setting way afoot.running gone.none decision
        rw [stepped]
        have keeps : ∀ status ∈ transfer.shown, status ∈ transfer.shown ++ told :=
          fun status => List.mem_append_left told
        obtain ⟨rfl, _⟩ := Takes.course_nil course nofun
        constructor
        · refine afoot.handles way (.done finished) course afoot.running keeps nofun
            (fun _ _ _ => .inr rfl) (fun _ _ _ => rfl) (.inr ?_)
          refine gone.handles waits keeps noBlock ?_ ?_
          · intro _ other fromHere before
            dsimp only at fromHere before
            omega
          · intro id fileNum member other fromFirst inside
            cases direction : setting.direction with
            | upload =>
                rw [silent direction, List.append_nil] at member
                have ended := afoot.closed id fileNum member
                cases ended
            | download =>
                by_cases earlier : other < number
                · exact (gone.accounted direction other fromFirst earlier).mono rfl keeps
                    fun _ left => left
                · rcases afoot.late reading.id number (by rw [way]; exact List.mem_cons_self)
                    with beyond | ⟨last, text, sent⟩
                  · omega
                  · obtain rfl : other = number := by omega
                    rw [way] at sent
                    have handled := (List.mem_append.mp sent).resolve_right (by simp)
                    exact .inr (.inl ⟨_, .inr ⟨text, keeps _ (afoot.told direction _ _ _ handled)⟩⟩)
        · exact .of_disk (fun other later => later) rfl

end Afoot

end Fs
end OneDesk
