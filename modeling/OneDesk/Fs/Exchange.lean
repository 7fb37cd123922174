import OneDesk.Fs.Leftover
import OneDesk.Fs.Writing

/-!
# Both ends in step

While the write job of a transfer is there, the messages under way lead from the
stage that it has reached to the stage of the read job.  A digest is the last of
them, so both ends stand at the same stage when it is answered.
-/

namespace OneDesk
namespace Fs

open Lib

section Stages

variable {codec : Codec} {start : TransferJob} {contents : Nat → List UInt8}
variable {skipped : List Int} {before after : Stage} {message : FileMessage}

theorem Takes.sending (takes : Takes codec start contents skipped before message after) :
    before.phase = .sending := by
  cases takes <;> rfl

/-- No message takes a job back to an earlier file. -/
theorem Takes.number_le (takes : Takes codec start contents skipped before message after) :
    before.number ≤ after.number := by
  cases takes with
  | @block cursor failed block inside carries =>
      change cursor.number ≤ (cursor.next contents).number
      unfold Cursor.next
      split
      · exact Nat.le_succ cursor.number
      · exact Nat.le_refl cursor.number
  | digest => exact Nat.le_refl _
  | fails => exact Nat.le_succ _
  | stalls => exact Nat.le_refl _
  | done => exact Nat.le_refl _
  | skips => exact Nat.le_refl _

/-- A job that waits for an answer, or has ended, sends nothing more. -/
theorem Takes.course_nil
    {final : Stage}
    {messages : List FileMessage}
    (course : Course (Takes codec start contents skipped) before messages final)
    (quiet : before.phase ≠ .sending) :
    messages = [] ∧ before = final :=
  course.nil_of_stuck fun _ _ takes => quiet takes.sending

end Stages

/-- Two jobs that make up a transfer from a file on, and a writing side on which nothing fails. -/
structure Matched
    {Source Destination : Type}
    [DecidableEq Destination]
    (setting : Setting Source Destination)
    (reading writing : TransferJob)
    (first : Nat) : Prop where
  inverse : ∀ data, setting.codec.decompress (setting.codec.compress data) = data
  permits : Permits setting.destination
  separate : Separate setting.destination writing
  readGeneric : reading.type = .generic
  writeGeneric : writing.type = .generic
  notLast : reading.isLastJob = false
  id : writing.id = reading.id
  length : writing.files.length = reading.files.length
  readFirst : reading.fileNum = first
  writeFirst : writing.fileNum = first
  readIdle : reading.dataStream = none
  writeIdle : writing.dataStream = none
  notWaiting : reading.fileIsWaiting = false
  notSkipped : reading.fileSkipped = false

/-- The block without bytes that ends a file is among some messages. -/
def Completes (codec : Codec) (messages : List FileMessage) (number : Nat) : Prop :=
  ∃ block, FileMessage.block block ∈ messages ∧ block.fileNum = (number : Int) ∧
    TransferJob.payload codec block = []

/-- The user was shown that a file failed.  A file that could not be opened or read is reported
with the number of the next one, a file that could not be asked for with its own. -/
def Reported (shown : List JobStatus) (number : Nat) : Prop :=
  ∃ id, (∃ operation, .jobError id (.io operation) (number + 1) ∈ shown) ∨
    ∃ text, .jobError id (.bail text) number ∈ shown

section Afoot

variable {Source Destination : Type} [DecidableEq Source] [DecidableEq Destination]

section Definitions

variable (setting : Setting Source Destination) (disk : Disk Source)
variable (reading writing : TransferJob) (first : Nat) (behind : Stage)
variable (transfer : Transfer Source Destination)

/-- A file is at its final path with the bytes of its source. -/
def Delivered (target : Disk Destination) (number : Nat) : Prop :=
  Settled setting.destination writing (contentsOf setting.source disk reading) target number

/-- A file was delivered or skipped, or the user was shown that it failed. -/
def Accounted (number : Nat) : Prop :=
  Delivered setting disk reading writing transfer.manager.volume.disk number ∨
    Reported transfer.shown number ∨ (number : Int) ∈ transfer.skipped

/-- A transfer whose write job is there: every file so far was sent whole or skipped. -/
structure Working : Prop where
  sound : behind.failed = false
  going : behind.phase ≠ .ended
  passed : ∀ number, first ≤ number → number < behind.number →
    Completes setting.codec transfer.handled number ∨ (number : Int) ∈ transfer.skipped
  job : ∃ job current, transfer.manager.writeJobs = [job] ∧
    Writing setting.destination writing first (contentsOf setting.source disk reading)
      (fun number => (number : Int) ∈ transfer.skipped) transfer.manager.volume.disk
      behind.toCursor current job

/-- A transfer whose write job is gone, because it has ended or because a file failed. -/
structure Gone : Prop where
  none : transfer.manager.writeJobs = []
  reason : behind.phase = .ended ∨ ∃ message ∈ transfer.handled, Troubled message
  completed : ∀ number, Completes setting.codec transfer.handled number →
    Delivered setting disk reading writing transfer.manager.volume.disk number
  accounted : setting.direction = .download → ∀ number, first ≤ number →
    number < behind.number → Accounted setting disk reading writing transfer number
  closed : ∀ (id fileNum : Int), .jobDone id fileNum ∈ transfer.shown → ∀ number, first ≤ number →
    number < reading.files.length → Accounted setting disk reading writing transfer number
  clean : (∀ message ∈ transfer.handled, ¬Troubled message) →
    ∀ (id fileNum : Int), .done id fileNum ∈ transfer.handled → ∀ number, first ≤ number →
      number < reading.files.length →
        Delivered setting disk reading writing transfer.manager.volume.disk number ∨
          (number : Int) ∈ transfer.skipped

/-- A transfer under way: the messages lead from one stage to the other, and what was handled and
shown fits the stage of the writing side. -/
structure Afoot (ahead : Stage) : Prop where
  reads : Reads setting disk reading transfer.skipped ahead transfer.reader
  course : Course
    (Takes setting.codec reading (contentsOf setting.source disk reading) transfer.skipped)
    behind transfer.way ahead
  running : transfer.manager.panicked = false
  first_le : first ≤ behind.number
  skipped : ∀ number ∈ transfer.skipped, number < behind.number
  completed : ∀ number, Completes setting.codec transfer.handled number →
    first ≤ number ∧ number < behind.number ∧ (number : Int) ∉ transfer.skipped
  finished : ∀ (id fileNum : Int), .done id fileNum ∈ transfer.handled → behind.phase = .ended
  closed : ∀ (id fileNum : Int), .jobDone id fileNum ∈ transfer.shown → behind.phase = .ended
  told : setting.direction = .download → ∀ (id : Int) (error : FsError) (fileNum : Int),
    .error id error fileNum ∈ transfer.handled → .jobError id error fileNum ∈ transfer.shown
  late : ∀ (id fileNum : Int), .done id fileNum ∈ transfer.way →
    reading.files.length ≤ fileNum ∨
      reading.files.length ≤ fileNum + 1 ∧
        ∃ text, .error reading.id (.bail text) fileNum ∈ transfer.handled ++ transfer.way
  writes : Working setting disk reading writing first behind transfer ∨
    Gone setting disk reading writing first behind transfer

end Definitions

variable {setting : Setting Source Destination} {disk : Disk Source}
variable {reading writing : TransferJob} {first : Nat} {behind ahead next : Stage}
variable {transfer : Transfer Source Destination} {message : FileMessage}
variable {rest : List FileMessage}

/-- A transfer that starts is under way. -/
theorem afoot_start
    (matched : Matched setting reading writing first)
    (origin : Volume String Source)
    (target : Volume String Destination) :
    Afoot setting origin.disk reading writing first ⟨⟨first, 0⟩, .sending, false⟩
      (.start reading writing origin target) ⟨⟨first, 0⟩, .sending, false⟩ where
  reads := by
    refine ⟨rfl, rfl, .inl ⟨reading, rfl, .refl reading, matched.readFirst, fun _ => ⟨rfl, rfl⟩, ?_,
      nofun, ?_, fun _ _ => rfl, ?_⟩⟩
    · intro stream isStream
      rw [matched.readIdle] at isStream
      cases isStream
    · simp [matched.notWaiting]
    · intro wasSkipped
      rw [matched.notSkipped] at wasSkipped
      cases wasSkipped
  course := rfl
  running := rfl
  first_le := Nat.le_refl first
  skipped := fun number member => by cases member
  completed := by
    rintro number ⟨block, member, _⟩
    cases member
  finished := fun _ _ member => by cases member
  closed := fun _ _ member => by cases member
  told := fun _ _ _ _ member => by cases member
  late := fun _ _ member => by cases member
  writes := by
    refine .inl ⟨rfl, nofun, fun number fromFirst before => absurd fromFirst ?_, writing, first, rfl,
      .refl writing, matched.writeFirst, fun _ => ⟨rfl, .inl rfl⟩, ?_, ?_⟩
    · exact Nat.not_le_of_lt before
    · intro stream isStream
      rw [matched.writeIdle] at isStream
      cases isStream
    · exact fun number fromFirst before => absurd fromFirst (Nat.not_le_of_lt before)

namespace Afoot

/-- A tick of the reading side sends messages that lead on from where it was. -/
theorem tick
    (matched : Matched setting reading writing first)
    (afoot : Afoot setting disk reading writing first behind transfer ahead)
    (askable : ∀ job ∈ transfer.reader.readJobs, job.enableOverwriteDetection = true →
      asUsize job.fileNum + 1 < job.files.length →
        Askable setting.source transfer.reader.volume job) :
    ∃ after, Afoot setting disk reading writing first behind (transfer.step setting .tick) after ∧
      (Readable setting.source disk reading → ahead.failed = false →
        (after.failed = false ∨ after.phase = .ended) ∧
          ∀ message ∈ Transfer.ticked setting transfer.reader, ¬Troubled message) := by
  obtain ⟨after, course, reads, untroubled⟩ :=
    afoot.reads.tick matched.inverse matched.readGeneric matched.notLast
  refine ⟨after, ?_, untroubled⟩
  refine ⟨reads, afoot.course.append course, afoot.running, afoot.first_le, afoot.skipped,
    afoot.completed, afoot.finished, afoot.closed, afoot.told, ?_, ?_⟩
  · intro id fileNum member
    rcases List.mem_append.mp member with before | now
    · refine (afoot.late id fileNum before).imp_right fun ⟨last, text, told⟩ => ?_
      refine ⟨last, text, ?_⟩
      rw [Transfer.step, ← List.append_assoc]
      exact List.mem_append_left _ told
    · have late := afoot.reads.done_late matched.readGeneric matched.notLast askable now
      refine late.imp_right fun ⟨last, text, told⟩ => ⟨last, text, ?_⟩
      rw [Transfer.step, ← List.append_assoc]
      exact List.mem_append_right _ told
  · exact afoot.writes.imp
      (fun working => ⟨working.sound, working.going, working.passed, working.job⟩)
      fun gone => ⟨gone.none, gone.reason, gone.completed, gone.accounted, gone.closed, gone.clean⟩

/-- The oldest message, and where it leads. -/
theorem oldest
    (afoot : Afoot setting disk reading writing first behind transfer ahead)
    (way : transfer.way = message :: rest) :
    ∃ next, Takes setting.codec reading (contentsOf setting.source disk reading)
        transfer.skipped behind message next ∧
      Course (Takes setting.codec reading (contentsOf setting.source disk reading)
        transfer.skipped) next rest ahead := by
  have course := afoot.course
  rwa [way] at course

/-- The block that ends a file is of the current file, and leads to the next one. -/
theorem completes_cons
    (afoot : Afoot setting disk reading writing first behind transfer ahead)
    (takes : Takes setting.codec reading (contentsOf setting.source disk reading)
      transfer.skipped behind message next)
    {number : Nat}
    (completes : Completes setting.codec (transfer.handled ++ [message]) number) :
    Completes setting.codec transfer.handled number ∨
      number = behind.number ∧ next.number = behind.number + 1 := by
  obtain ⟨block, member, fileNum, empty⟩ := completes
  rcases List.mem_append.mp member with before | now
  · exact .inl ⟨block, before, fileNum, empty⟩
  · obtain rfl := List.mem_singleton.mp now
    cases takes with
    | @block cursor failed block inside carries =>
        right
        have same : block.fileNum = (cursor.number : Int) := carries.fileNum
        have ends : cursor.chunk (contentsOf setting.source disk reading) = [] :=
          carries.payload.symm.trans empty
        refine ⟨by rw [fileNum] at same; exact_mod_cast same, ?_⟩
        change (cursor.next _).number = cursor.number + 1
        rw [Cursor.next, if_pos ends]

/-- A message was handled by the writing side, and perhaps shown to the user. -/
theorem handles
    (afoot : Afoot setting disk reading writing first behind transfer ahead)
    (way : transfer.way = message :: rest)
    (takes : Takes setting.codec reading (contentsOf setting.source disk reading)
      transfer.skipped behind message next)
    (course : Course (Takes setting.codec reading (contentsOf setting.source disk reading)
      transfer.skipped) next rest ahead)
    {manager : Manager Destination}
    {shown : List JobStatus}
    (running : manager.panicked = false)
    (keeps : ∀ status ∈ transfer.shown, status ∈ shown)
    (told : setting.direction = .download → ∀ (id : Int) (error : FsError) (fileNum : Int),
      message = .error id error fileNum → .jobError id error fileNum ∈ shown)
    (closed : ∀ (id fileNum : Int), .jobDone id fileNum ∈ shown →
      .jobDone id fileNum ∈ transfer.shown ∨ next.phase = .ended)
    (finished : ∀ (id fileNum : Int), message = .done id fileNum → next.phase = .ended)
    (writes :
      Working setting disk reading writing first next
        { transfer with
          way := rest, handled := transfer.handled ++ [message], manager := manager
          shown := shown } ∨
      Gone setting disk reading writing first next
        { transfer with
          way := rest, handled := transfer.handled ++ [message], manager := manager
          shown := shown }) :
    Afoot setting disk reading writing first next
      { transfer with
        way := rest, handled := transfer.handled ++ [message], manager := manager
        shown := shown } ahead := by
  have grows := takes.number_le
  have notEnded : behind.phase ≠ .ended := by
    rw [takes.sending]
    nofun
  refine ⟨afoot.reads, course, running, afoot.first_le.trans grows, ?_, ?_, ?_, ?_, ?_, ?_, writes⟩
  · intro number member
    have := afoot.skipped number member
    omega
  · intro number completes
    rcases afoot.completes_cons takes completes with before | ⟨rfl, moves⟩
    · obtain ⟨fromFirst, earlier, notSkipped⟩ := afoot.completed number before
      exact ⟨fromFirst, earlier.trans_le grows, notSkipped⟩
    · refine ⟨afoot.first_le, by omega, fun member => ?_⟩
      exact absurd (afoot.skipped _ member) (by omega)
  · intro id fileNum member
    rcases List.mem_append.mp member with before | now
    · exact absurd (afoot.finished id fileNum before) notEnded
    · exact finished id fileNum (List.mem_singleton.mp now).symm
  · intro id fileNum member
    rcases closed id fileNum member with before | ended
    · exact absurd (afoot.closed id fileNum before) notEnded
    · exact ended
  · intro download id error fileNum member
    rcases List.mem_append.mp member with before | now
    · exact keeps _ (afoot.told download id error fileNum before)
    · exact told download id error fileNum (List.mem_singleton.mp now).symm
  · intro id fileNum member
    refine (afoot.late id fileNum (by rw [way]; exact List.mem_cons_of_mem _ member)).imp_right ?_
    rintro ⟨last, text, told⟩
    refine ⟨last, text, ?_⟩
    rw [way] at told
    simpa using told

end Afoot

end Afoot

end Fs
end OneDesk
