import OneDesk.Fs.Unreadable

/-!
# Transfers that go on

A transfer that was interrupted leaves a download and a digest for each file
that it had begun.  The next one goes on with the parts, and does so well where
its write job is at the file when it is answered: a write job that has the file
before open takes the answer for another file.
-/

namespace OneDesk
namespace Fs

open Lib

variable {Source Destination : Type} [DecidableEq Source] [DecidableEq Destination]
variable {setting : Setting Source Destination} {disk : Disk Source}
variable {reading writing : TransferJob} {first : Nat} {behind ahead : Stage}
variable {transfer : Transfer Source Destination}

/-- What is left of a file, with its digest, is a part of it. -/
def Interrupted
    (setting : Setting Source Destination)
    (disk : Disk Source)
    (reading writing : TransferJob)
    (target : Disk Destination)
    (number : Nat) : Prop :=
  ∀ entry ∈ writing.files[number]?,
    (fileAt setting.destination target
      (digestOf (writing.pathOf setting.destination.style entry))).isSome →
    ∀ download ∈ fileAt setting.destination target
        (downloadOf (writing.pathOf setting.destination.style entry)),
      download.bytes <+: contentsOf setting.source disk reading number

/-- Files that are left alone stay as an interrupted transfer left them. -/
theorem Interrupted.of_untouched
    {before after : Volume String Destination}
    {number : Nat}
    (interrupted : Interrupted setting disk reading writing before.disk number)
    (untouched : Untouched setting.destination writing before after number) :
    Interrupted setting disk reading writing after.disk number := by
  have same : ∀ (role : Role), ∀ entry ∈ writing.files[number]?,
      fileAt setting.destination after.disk
          (role.text (writing.pathOf setting.destination.style entry)) =
        fileAt setting.destination before.disk
          (role.text (writing.pathOf setting.destination.style entry)) := by
    intro role entry found
    unfold fileAt
    cases located : setting.destination.locate
        (role.text (writing.pathOf setting.destination.style entry)) with
    | none => rfl
    | some location =>
        exact (untouched role location (spot_eq_some.mpr ⟨entry, found, located⟩)).file
  intro entry found isLeft download isDownload
  have digestSame := same .digest entry found
  have downloadSame := same .download entry found
  simp only [Role.text] at digestSame downloadSame
  rw [digestSame] at isLeft
  rw [downloadSame] at isDownload
  exact interrupted entry found isLeft download isDownload

/-- A file of a job that can be read can be asked for. -/
theorem Reading.askable
    {os : Os Source}
    {start job : TransferJob}
    {skipped : List Int}
    {stage : Stage}
    {volume : Volume String Source}
    (reading : Reading os disk start skipped stage job)
    (readable : Readable os disk start)
    (unchanged : volume.disk = disk)
    (detection : job.enableOverwriteDetection = true) :
    Askable os volume job := by
  subst unchanged
  have detects : start.enableOverwriteDetection = true :=
    reading.setup.enableOverwriteDetection ▸ detection
  intro entry current
  have found : start.files[stage.number]? = some entry :=
    reading.currentEntry_eq.symm.trans current
  have member := List.mem_of_getElem? found
  have samePath := reading.setup.pathOf_eq os.style entry
  cases streaming : job.dataStream with
  | some stream => exact (reading.streams stream streaming).2.2.2 readable detects
  | none =>
      dsimp only
      rw [samePath]
      have opens : (perform os.toHost volume
          (.openRead (start.pathOf os.style entry))).1 = true := readable.opens member
      refine ⟨opens, fun stream isStream => ?_⟩
      obtain ⟨inode, file, isFile, isHeld, handle⟩ := perform_openRead_opened opens
      obtain rfl := Option.some.inj (handle.symm.trans isStream)
      obtain ⟨other, isOther, dated⟩ := readable.present entry member
      obtain rfl := Option.some.inj (isFile.symm.trans isOther)
      rw [perform_openRead_disk, isHeld]
      exact dated detects

/-- A job fails with an error of a file, or ends. -/
theorem Takes.failed
    {codec : Codec}
    {start : TransferJob}
    {contents : Nat → List UInt8}
    {skipped : List Int}
    {before after : Stage}
    {message : FileMessage}
    (takes : Takes codec start contents skipped before message after)
    (failed : after.failed = true) :
    before.failed = true ∨ Troubled message ∨ after.phase = .ended := by
  cases takes with
  | block | digest => exact .inl failed
  | fails => exact .inr (.inl ⟨_, _, _, rfl, nofun⟩)
  | stalls inside genuine => exact .inr (.inl ⟨_, _, _, rfl, genuine⟩)
  | done | skips => exact .inr (.inr rfl)

/-- Without errors of files the reading side has not failed before its end. -/
theorem Takes.course_sound
    {codec : Codec}
    {start : TransferJob}
    {contents : Nat → List UInt8}
    {skipped : List Int}
    {before after : Stage}
    {messages : List FileMessage}
    (course : Course (Takes codec start contents skipped) before messages after)
    (quiet : ∀ message ∈ messages, ¬Troubled message)
    (sound : before.failed = false ∨ before.phase = .ended) :
    after.failed = false ∨ after.phase = .ended := by
  induction messages generalizing before with
  | nil =>
      obtain rfl := course
      exact sound
  | cons message messages ih =>
      obtain ⟨next, takes, rest⟩ := course
      refine ih rest (fun other member => quiet other (List.mem_cons_of_mem _ member)) ?_
      have going := sound.resolve_right (by
        rw [takes.sending]
        nofun)
      cases failing : next.failed with
      | false => exact .inl rfl
      | true =>
          rcases takes.failed failing with before | troubled | ended
          · rw [going] at before
            cases before
          · exact absurd troubled (quiet message List.mem_cons_self)
          · exact .inr ended

/-- The check of a digest finds no two files the same. -/
theorem isWriteNeedConfirmation_ne_isSame
    {Location : Type}
    [DecidableEq Location]
    (os : Os Location)
    (codec : Codec)
    (isResume : Bool)
    (path : String)
    (digest : FileTransferDigest)
    (volume : Volume String Location) :
    (isWriteNeedConfirmation os codec isResume path digest volume).1 ≠ .ok .isSame := by
  have compared : ∀ volume : Volume String Location,
      (compareFile os path digest volume).1 ≠ .ok .isSame := by
    intro volume
    unfold compareFile
    dsimp only
    split
    · nofun
    · split <;> nofun
  unfold isWriteNeedConfirmation
  split
  · dsimp only
    split
    · nofun
    · exact compared _
  · exact compared _

/-- The host tells nobody to skip a file. -/
theorem handleFs_no_skip
    (os : Os Destination)
    (codec : Codec)
    (event : FsEvent)
    (manager : Manager Destination)
    {request : FileTransferSendConfirmRequest}
    (reply : .sendConfirm request ∈ (handleFs os codec event manager).2) :
    request.union ≠ some (.skip true) := by
  unfold handleFs at reply
  split at reply
  · cases reply
  · cases event with
    | checkDigest id fileNum fileSize lastModified isUpload isResume =>
        simp only [handleRunning] at reply
        split at reply
        · cases reply
        · dsimp only [checkDigest] at reply
          split at reply
          · cases reply
          · split at reply
            · next result checked =>
                have answer := List.mem_singleton.mp reply
                cases result with
                | isSame => exact (isWriteNeedConfirmation_ne_isSame _ _ _ _ _ _ checked).elim
                | needConfirm digest => cases answer
                | noSuchFile =>
                    obtain rfl := FileMessage.sendConfirm.inj answer
                    simp
            · cases List.mem_singleton.mp reply
    | newWrite => cases reply
    | cancelWrite =>
        simp only [handleRunning] at reply
        split at reply <;> cases reply
    | writeDone | writeError =>
        simp only [handleRunning] at reply
        split at reply
        · cases reply
        · cases List.mem_singleton.mp reply
    | sendConfirm =>
        simp only [handleRunning] at reply
        split at reply
        · cases reply
        · split at reply <;> cases reply
    | writeBlock =>
        simp only [handleRunning] at reply
        split at reply
        · cases reply
        · dsimp only at reply
          split at reply
          · cases reply
          · cases List.mem_singleton.mp reply

/-- A reaction leaves the messages alone, and leaves a file out only where that was decided. -/
structure Transfer.Reacts
    (decision : Decision)
    (before after : Transfer Source Destination) : Prop where
  way : after.way = before.way
  handled : after.handled = before.handled
  skipped : decision.overwrite = true → after.skipped = before.skipped

namespace Transfer

variable {decision : Decision}

theorem Reacts.trans
    {before between after : Transfer Source Destination}
    (one : Reacts decision before between)
    (other : Reacts decision between after) :
    Reacts decision before after :=
  ⟨other.way.trans one.way, other.handled.trans one.handled,
    fun overwrite => (other.skipped overwrite).trans (one.skipped overwrite)⟩

/-- A reaction that does not reach the reading side. -/
theorem Reacts.of_eq
    {before after : Transfer Source Destination}
    (way : after.way = before.way)
    (handled : after.handled = before.handled)
    (skipped : after.skipped = before.skipped) :
    Reacts decision before after :=
  ⟨way, handled, fun _ => skipped⟩

variable (setting)

theorem confirmReader_reacts
    {request : FileTransferSendConfirmRequest}
    (transfer : Transfer Source Destination)
    (kind : decision.overwrite = true → request.union ≠ some (.skip true)) :
    Reacts decision transfer (transfer.confirmReader setting request) := by
  refine ⟨rfl, rfl, fun overwrite => ?_⟩
  simp only [confirmReader, if_neg (kind overwrite)]

theorem answerExisting_no_skip
    (isResume : Bool)
    (digest : FileTransferDigest)
    (overwrite : decision.overwrite = true) :
    (answerExisting isResume decision digest).union ≠ some (.skip true) := by
  simp only [answerExisting, overwrite, if_true]
  split
  · simp
  · simp

theorem onDigest_reacts
    (digest : FileTransferDigest)
    (transfer : Transfer Source Destination) :
    Reacts decision transfer (onDigest setting decision digest transfer) := by
  unfold onDigest
  split
  · exact .of_eq rfl rfl rfl
  · split
    · exact .of_eq rfl rfl rfl
    · dsimp only
      split
      · exact .of_eq rfl rfl rfl
      · next result checked =>
          refine Reacts.trans ?_ (confirmReader_reacts setting _ fun overwrite => ?_)
          · exact .of_eq rfl rfl rfl
          cases result with
          | isSame => exact (isWriteNeedConfirmation_ne_isSame _ _ _ _ _ _ checked).elim
          | needConfirm digest => exact answerExisting_no_skip _ _ overwrite
          | noSuchFile => simp [answerChecked]

theorem onReply_reacts
    {message : FileMessage}
    (transfer : Transfer Source Destination)
    (noSkip : ∀ request, message = .sendConfirm request → request.union ≠ some (.skip true)) :
    Reacts decision transfer (onReply setting decision transfer message) := by
  cases message with
  | digest digest =>
      simp only [onReply]
      split
      · exact .of_eq rfl rfl rfl
      · split
        · exact .of_eq rfl rfl rfl
        · have answered : ∀ isResume, Reacts decision transfer
              (transfer.confirmReader setting (answerExisting isResume decision digest)) :=
            fun isResume => confirmReader_reacts setting transfer
              (answerExisting_no_skip isResume digest)
          cases decision with
          | strategy => exact (answered _).trans (.of_eq rfl rfl rfl)
          | user =>
              dsimp only
              split
              · exact (answered _).trans (.of_eq rfl rfl rfl)
              · exact answered _
  | sendConfirm request => exact confirmReader_reacts setting transfer fun _ => noSkip request rfl
  | block | done | error => exact .of_eq rfl rfl rfl

theorem handleResponse_reacts
    (message : FileMessage)
    (transfer : Transfer Source Destination) :
    Reacts decision transfer (transfer.handleResponse setting decision message) := by
  cases message with
  | digest digest =>
      simp only [handleResponse]
      split
      · exact .of_eq rfl rfl rfl
      · exact onDigest_reacts ..
  | done id fileNum =>
      simp only [handleResponse]
      split
      · exact .of_eq rfl rfl rfl
      · split <;> exact .of_eq rfl rfl rfl
  | block | error | sendConfirm => exact .of_eq rfl rfl rfl

theorem handleRequest_reacts
    (message : FileMessage)
    (transfer : Transfer Source Destination) :
    Reacts decision transfer (transfer.handleRequest setting decision message) := by
  have replies : ∀ (messages : List FileMessage) (transfer : Transfer Source Destination),
      (∀ request, .sendConfirm request ∈ messages → request.union ≠ some (.skip true)) →
        Reacts decision transfer (messages.foldl (onReply setting decision) transfer) := by
    intro messages
    induction messages with
    | nil => exact fun _ _ => .of_eq rfl rfl rfl
    | cons reply messages ih =>
        intro transfer noSkip
        refine (onReply_reacts setting transfer ?_).trans (ih _ ?_)
        · rintro request rfl
          exact noSkip request List.mem_cons_self
        · exact fun request member => noSkip request (List.mem_cons_of_mem _ member)
  unfold handleRequest
  split
  · exact .of_eq rfl rfl rfl
  · refine Reacts.trans ?_ (replies _ _ fun request => handleFs_no_skip _ _ _ _)
    exact .of_eq rfl rfl rfl

/-- A message that is handled is no longer under way, and no file is left out by a decision to
overwrite. -/
theorem deliver_reacts
    (decision : Decision)
    (transfer : Transfer Source Destination) :
    (transfer.step setting (.deliver decision)).handled ++
          (transfer.step setting (.deliver decision)).way =
        transfer.handled ++ transfer.way ∧
      (decision.overwrite = true →
        (transfer.step setting (.deliver decision)).skipped = transfer.skipped) := by
  cases way : transfer.way with
  | nil => simp only [step, way, implies_true, and_self]
  | cons message rest =>
      have reacts : ∀ after, Reacts decision { transfer with
            way := rest, handled := transfer.handled ++ [message] } after →
          after.handled ++ after.way = transfer.handled ++ message :: rest ∧
            (decision.overwrite = true → after.skipped = transfer.skipped) := by
        rintro after ⟨wayAfter, handledAfter, skipped⟩
        rw [wayAfter, handledAfter]
        exact ⟨by simp, skipped⟩
      simp only [step, way]
      cases setting.direction with
      | download => exact reacts _ (handleResponse_reacts setting message _)
      | upload => exact reacts _ (handleRequest_reacts setting message _)

/-- Decisions to overwrite leave no file out. -/
theorem run_skips_none
    (events : List Event)
    (transfer : Transfer Source Destination)
    (overwrites : ∀ decision, .deliver decision ∈ events → decision.overwrite = true) :
    (run (step setting) transfer events).skipped = transfer.skipped := by
  induction events generalizing transfer with
  | nil => rfl
  | cons event events ih =>
      rw [run_cons, ih _ fun decision member => overwrites decision (List.mem_cons_of_mem _ member)]
      cases event with
      | tick => rfl
      | deliver decision =>
          exact (deliver_reacts setting decision transfer).2
            (overwrites decision List.mem_cons_self)

/-- The digest that is handled finds the write job at its file. -/
def Meeting
    (reading : TransferJob)
    (transfer : Transfer Source Destination) : Event → Prop
  | .tick => True
  | .deliver _ =>
      ∀ digest, transfer.way.head? = some (.digest digest) → Meets setting reading transfer digest

end Transfer

/-- A transfer of files that can all be read: both ends are in step, no file failed, and of the
files that nothing is sent of yet there is what an interrupted transfer left. -/
structure Unfailing
    (setting : Setting Source Destination)
    (disk : Disk Source)
    (reading writing : TransferJob)
    (first : Nat)
    (behind : Stage)
    (transfer : Transfer Source Destination)
    (ahead : Stage) : Prop where
  afoot : Afoot setting disk reading writing first behind transfer ahead
  quiet : ∀ message ∈ transfer.handled ++ transfer.way, ¬Troubled message
  left : ∀ number, first ≤ number → behind.toCursor.Awaits number →
    Interrupted setting disk reading writing transfer.manager.volume.disk number

namespace Unfailing

/-- The reading side has not failed before its end. -/
theorem sound
    (unfailing : Unfailing setting disk reading writing first behind transfer ahead) :
    ahead.failed = false ∨ ahead.phase = .ended := by
  refine Takes.course_sound unfailing.afoot.course
    (fun message member => unfailing.quiet message (List.mem_append_right _ member)) ?_
  rcases unfailing.afoot.writes with working | gone
  · exact .inl working.sound
  · refine .inr (gone.reason.resolve_right ?_)
    rintro ⟨message, handled, troubled⟩
    exact unfailing.quiet message (List.mem_append_left _ handled) troubled

/-- A job that has ended sends nothing, and others send no errors of files. -/
theorem ticked_quiet
    (matched : Matched setting reading writing first)
    (readable : Readable setting.source disk reading)
    (unfailing : Unfailing setting disk reading writing first behind transfer ahead)
    (message : FileMessage)
    (sent : message ∈ Transfer.ticked setting transfer.reader) :
    ¬Troubled message := by
  rcases unfailing.sound with sound | ended
  · obtain ⟨_, _, _, untroubled⟩ := unfailing.afoot.reads.tick matched.inverse matched.readGeneric
      matched.notLast
    exact (untroubled readable sound).2 message sent
  · rcases unfailing.afoot.reads.job with ⟨job, _, isReading⟩ | ⟨none, _⟩
    · exact absurd ended isReading.present
    · simp only [Transfer.ticked, unfailing.afoot.reads.running, none] at sent
      cases sent

/-- What is left of the file of a digest is a part of it. -/
theorem leftPart
    (unfailing : Unfailing setting disk reading writing first behind transfer ahead)
    {digest : FileTransferDigest}
    {rest : List FileMessage}
    (way : transfer.way = .digest digest :: rest) :
    LeftPart setting disk reading transfer digest := by
  obtain ⟨next, takes, _⟩ := unfailing.afoot.oldest way
  cases takes with
  | @digest number failed _ inside own asks notUpload =>
      intro job member file found left download isDownload
      rcases unfailing.afoot.writes with working | gone
      · obtain ⟨other, current, single, kept⟩ := working.job
        rw [single] at member
        obtain rfl := List.mem_singleton.mp member
        have fromFirst : first ≤ number := unfailing.afoot.first_le
        rw [asks, asUsize_natCast, kept.setup.files] at found
        rw [kept.setup.pathOf_eq] at left isDownload
        obtain ⟨digestFile, _, isKept, _⟩ := keptLength_pos left
        rw [asks, asUsize_natCast]
        exact unfailing.left number fromFirst (.inr ⟨rfl, rfl⟩) file found
          (by rw [isKept]; rfl) download isDownload
      · rw [gone.none] at member
        cases member

/-- A transfer of files that can be read is careful where its digests find the write job at their
files. -/
theorem careful
    (readable : Readable setting.source disk reading)
    (unfailing : Unfailing setting disk reading writing first behind transfer ahead)
    {event : Transfer.Event}
    (meeting : transfer.Meeting setting reading event) :
    transfer.Careful setting disk reading event := by
  cases event with
  | tick =>
      intro job member detection _
      rcases unfailing.afoot.reads.job with ⟨reader, only, isReading⟩ | ⟨none, _⟩
      · rw [only] at member
        obtain rfl := List.mem_singleton.mp member
        exact isReading.askable readable unfailing.afoot.reads.unchanged detection
      · rw [none] at member
        cases member
  | deliver decision =>
      cases way : transfer.way with
      | nil => exact Transfer.careful_idle way decision
      | cons message rest =>
          refine Transfer.careful_deliver message (by rw [way]; rfl) ?_ decision
          have isQuiet : ¬Troubled message :=
            unfailing.quiet message (by rw [way]; simp)
          cases message with
          | block block =>
              exact fun _ other handled => unfailing.quiet other (List.mem_append_left _ handled)
          | error id error fileNum =>
              exact fun trouble => absurd ⟨id, error, fileNum, rfl, trouble⟩ isQuiet
          | done | sendConfirm => trivial
          | digest digest =>
              exact ⟨meeting digest (by rw [way]; rfl), unfailing.leftPart way⟩

/-- Both ends go on without a failure. -/
theorem step
    (matched : Matched setting reading writing first)
    (readable : Readable setting.source disk reading)
    (unfailing : Unfailing setting disk reading writing first behind transfer ahead)
    {event : Transfer.Event}
    (meeting : transfer.Meeting setting reading event) :
    ∃ next final,
      Unfailing setting disk reading writing first next (transfer.step setting event) final := by
  obtain ⟨next, final, afoot, spares⟩ :=
    unfailing.afoot.step matched (unfailing.careful readable meeting)
  refine ⟨next, final, afoot, ?_, fun number fromFirst awaits => ?_⟩
  · cases event with
    | tick =>
        intro message member
        rw [Transfer.step, ← List.append_assoc] at member
        rcases List.mem_append.mp member with before | now
        · exact unfailing.quiet message before
        · exact unfailing.ticked_quiet matched readable message now
    | deliver decision =>
        rw [(Transfer.deliver_reacts setting decision transfer).1]
        exact unfailing.quiet
  · obtain ⟨awaited, untouched⟩ := spares number awaits
    exact (unfailing.left number fromFirst awaited).of_untouched untouched

end Unfailing

/-- The write job has the file of a read job open at a place, and its download holds the file up
to there. -/
def HoldsUpTo
    (setting : Setting Source Destination)
    (disk : Disk Source)
    (reading writing : TransferJob)
    (transfer : Transfer Source Destination)
    (fileNum : Int)
    (position : Nat) : Prop :=
  ∃ job handle download bytes, transfer.manager.writeJobs = [job] ∧ job.fileNum = fileNum ∧
    job.dataStream = some handle ∧ handle.writable = true ∧ handle.position = position ∧
    spot setting.destination writing .download (asUsize fileNum) = some download ∧
    transfer.manager.volume.disk.names download = some handle.inode ∧
    transfer.manager.volume.disk.bytes download = some bytes ∧ position ≤ bytes.length ∧
    bytes.take position = (contentsOf setting.source disk reading (asUsize fileNum)).take position

/-- A resumed transfer damages no file. -/
structure Intact
    (setting : Setting Source Destination)
    (disk : Disk Source)
    (reading writing : TransferJob)
    (first : Nat)
    (transfer : Transfer Source Destination) : Prop where
  arrived : ∀ (id fileNum : Int), .done id fileNum ∈ transfer.handled → ∀ number, first ≤ number →
    number < reading.files.length →
      Delivered setting disk reading writing transfer.manager.volume.disk number ∨
        (number : Int) ∈ transfer.skipped
  together : transfer.way = [] → ∀ job ∈ transfer.reader.readJobs, ∀ stream ∈ job.dataStream,
    0 < stream.position →
      HoldsUpTo setting disk reading writing transfer job.fileNum stream.position

/-- A transfer without a failure damages no file. -/
theorem Unfailing.intact
    (unfailing : Unfailing setting disk reading writing first behind transfer ahead) :
    Intact setting disk reading writing first transfer := by
  constructor
  · intro id fileNum handled
    have gone := unfailing.afoot.writes.resolve_left fun working =>
      working.going (unfailing.afoot.finished id fileNum handled)
    exact gone.clean (fun message member => unfailing.quiet message (List.mem_append_left _ member))
      id fileNum handled
  · intro way job member stream streaming begun
    obtain ⟨isReading, going⟩ : Reading setting.source disk reading transfer.skipped ahead job ∧
        ahead.phase ≠ .ended := by
      rcases unfailing.afoot.reads.job with ⟨other, only, isReading⟩ | ⟨none, _⟩
      · rw [only] at member
        obtain rfl := List.mem_singleton.mp member
        exact ⟨isReading, isReading.present⟩
      · rw [none] at member
        cases member
    obtain rfl : behind = ahead := by
      have course := unfailing.afoot.course
      rwa [way] at course
    have working := unfailing.afoot.writes.resolve_right fun gone => by
      rcases gone.reason with ended | ⟨message, handled, troubled⟩
      · exact going ended
      · exact unfailing.quiet message (List.mem_append_left _ handled) troubled
    obtain ⟨writer, current, single, kept⟩ := working.job
    have position := (isReading.streams stream streaming).2.1
    rw [position] at begun ⊢
    rw [isReading.fileNum]
    obtain ⟨handle, isOpen⟩ : ∃ handle, writer.dataStream = some handle := by
      refine Option.ne_none_iff_exists'.mp fun none => ?_
      have := (kept.idle none).1
      omega
    obtain ⟨writable, download, bytes, isSpot, named, collected, isPrefix, inFile, place⟩ :=
      kept.streams handle isOpen
    obtain ⟨rfl, samePlace⟩ : current = behind.number ∧ handle.position = behind.position := by
      rcases place with ⟨here, _, same⟩ | ⟨_, atStart, _⟩
      · exact ⟨here, same⟩
      · omega
    refine ⟨writer, handle, download, bytes, single, kept.fileNum, isOpen, writable, samePlace, ?_,
      named, collected, samePlace ▸ inFile, ?_⟩
    · rw [asUsize_natCast]
      exact isSpot
    · rw [asUsize_natCast]
      obtain ⟨rest, whole⟩ := isPrefix
      rw [← whole, List.take_append_of_le_length (samePlace ▸ inFile)]

/-- A resumed transfer of files that can be read damages none of them, if its digests find the
write job at their files; it leaves no file out that is to be overwritten. -/
theorem intact_of_meeting
    (matched : Matched setting reading writing first)
    (origin : Volume String Source)
    (target : Volume String Destination)
    (readable : Readable setting.source origin.disk reading)
    (left : ∀ number, first ≤ number →
      Interrupted setting origin.disk reading writing target.disk number)
    (events : List Transfer.Event)
    (meeting : Along (Transfer.step setting)
      (fun transfer event => transfer.Meeting setting reading event)
      (.start reading writing origin target) events) :
    Intact setting origin.disk reading writing first
        (run (Transfer.step setting) (.start reading writing origin target) events) ∧
      ((∀ decision, .deliver decision ∈ events → decision.overwrite = true) →
        (run (Transfer.step setting) (.start reading writing origin target) events).skipped =
          []) := by
  constructor
  · obtain ⟨behind, ahead, unfailing⟩ := run_invariant
      (fun transfer => ∃ behind ahead,
        Unfailing setting origin.disk reading writing first behind transfer ahead)
      (fun transfer event ⟨behind, ahead, unfailing⟩ meeting =>
        unfailing.step matched readable meeting)
      ⟨_, _, afoot_start matched origin target, nofun, fun number fromFirst _ =>
        left number fromFirst⟩ meeting
    exact unfailing.intact
  · exact Transfer.run_skips_none setting events _

namespace Transfer

/-- A message that is no digest finds the write job wherever it is. -/
theorem meeting_other
    (message : FileMessage)
    (oldest : transfer.way.head? = some message)
    (other : ∀ digest, message ≠ .digest digest)
    (decision : Decision) :
    transfer.Meeting setting reading (.deliver decision) :=
  fun digest isOldest => absurd (Option.some.inj (oldest.symm.trans isOldest)) (other digest)

theorem meeting_digest
    (digest : FileTransferDigest)
    (oldest : transfer.way.head? = some (.digest digest))
    (meets : Meets setting reading transfer digest)
    (decision : Decision) :
    transfer.Meeting setting reading (.deliver decision) := by
  intro other isOldest
  obtain rfl := FileMessage.digest.inj (Option.some.inj (oldest.symm.trans isOldest))
  exact meets

end Transfer

/-- A codec that reads the digests of two files. -/
def pairCodec : Codec :=
  ⟨id, id, fun bytes => [⟨2, 10⟩, ⟨2, 20⟩].find? fun digest => digestJson digest = bytes⟩

/-- A download that goes on with what is left. -/
def resumedDownload : Setting String String where
  direction := .download
  source := Os.plain .unix
  destination := Os.plain .unix
  codec := pairCodec
  supportsResume := true
  errorText := fun _ => "failed"

/-- A job that goes on to send the two files of `/out`. -/
def resumedRead : TransferJob :=
  { TransferJob.newRead 7 .generic "/out" 0 outgoing true with isResume := true }

/-- A job that goes on to receive them. -/
def resumedWrite : TransferJob :=
  { TransferJob.newWrite 7 .generic "/in" 0 outgoing true with isResume := true }

/-- Two files of two bytes. -/
def pair : Disk String :=
  ((((Disk.empty : Disk String).create "/out/a" 10).setFile 0 ⟨[1, 2], 10⟩).create "/out/b"
    20).setFile 1 ⟨[3, 4], 20⟩

/-- A disk with the first half of the first file and its digest. -/
def firstHalf : Disk String :=
  ((((Disk.empty : Disk String).create "/in/a.download" 0).setFile 0 ⟨[1], 0⟩).create
    "/in/a.digest" 0).setFile 1 ⟨digestJson ⟨2, 10⟩, 0⟩

/-- A disk with the first halves of both files and their digests. -/
def bothHalves : Disk String :=
  (((firstHalf.create "/in/b.download" 0).setFile 2 ⟨[3], 0⟩).create "/in/b.digest" 0).setFile 3
    ⟨digestJson ⟨2, 20⟩, 0⟩

/-- Both files are asked for, answered and sent. -/
def pairEvents : List Transfer.Event :=
  [.tick, .deliver (.strategy true), .tick, .tick, .tick] ++
    List.replicate 3 (.deliver (.strategy true)) ++ [.tick, .tick, .tick] ++
      List.replicate 3 (.deliver (.strategy true))

theorem resumed_matched : Matched resumedDownload resumedRead resumedWrite 0 where
  inverse := fun _ => rfl
  permits := fun _ _ => rfl
  separate := ⟨twoFiles_separate.located, twoFiles_separate.distinct⟩
  readGeneric := rfl
  writeGeneric := rfl
  notLast := rfl
  id := rfl
  length := rfl
  readFirst := rfl
  writeFirst := rfl
  readIdle := rfl
  writeIdle := rfl
  notWaiting := rfl
  notSkipped := rfl

theorem pair_readable : Readable (Os.plain .unix) pair resumedRead where
  permits := fun _ _ => rfl
  present := by
    intro entry member
    rcases List.mem_pair.mp member with rfl | rfl
    · exact ⟨⟨[1, 2], 10⟩, by decide, by decide⟩
    · exact ⟨⟨[3, 4], 20⟩, by decide, by decide⟩

theorem firstHalf_interrupted (number : Nat) :
    Interrupted resumedDownload pair resumedRead resumedWrite firstHalf number := by
  intro entry found _ download isDownload
  match number with
  | 0 =>
      obtain rfl := Option.some.inj found
      have isHalf : fileAt (Os.plain .unix) firstHalf "/in/a.download" = some ⟨[1], 0⟩ := by decide
      obtain rfl := Option.some.inj (isHalf.symm.trans isDownload)
      decide
  | 1 =>
      obtain rfl := Option.some.inj found
      cases isDownload
  | number + 2 => cases found

theorem bothHalves_interrupted (number : Nat) :
    Interrupted resumedDownload pair resumedRead resumedWrite bothHalves number := by
  intro entry found _ download isDownload
  match number with
  | 0 =>
      obtain rfl := Option.some.inj found
      have isHalf : fileAt (Os.plain .unix) bothHalves "/in/a.download" = some ⟨[1], 0⟩ := by decide
      obtain rfl := Option.some.inj (isHalf.symm.trans isDownload)
      decide
  | 1 =>
      obtain rfl := Option.some.inj found
      have isHalf : fileAt (Os.plain .unix) bothHalves "/in/b.download" = some ⟨[3], 0⟩ := by decide
      obtain rfl := Option.some.inj (isHalf.symm.trans isDownload)
      decide
  | number + 2 => cases found

/-- The write job that has the first file open takes no answer about the second one, and its first
half is lost. -/
theorem second_half_lost :
    Matched resumedDownload resumedRead resumedWrite 0 ∧
      Readable (Os.plain .unix) pair resumedRead ∧
      (∀ number, Interrupted resumedDownload pair resumedRead resumedWrite bothHalves number) ∧
      ¬Intact resumedDownload pair resumedRead resumedWrite 0
        (run (Transfer.step resumedDownload)
          (.start resumedRead resumedWrite ⟨pair, []⟩ ⟨bothHalves, []⟩) pairEvents) := by
  refine ⟨resumed_matched, pair_readable, bothHalves_interrupted, fun intact => ?_⟩
  rcases intact.arrived 7 2 (by decide +kernel) 1 (by decide) (by decide) with delivered | skipped
  · exact absurd (delivered "/in/b" (by decide)) (by decide +kernel)
  · exact absurd skipped (by decide +kernel)

/-- Only the first file was interrupted, and both arrive whole. -/
theorem intact_of_meeting_first_half :
    Intact resumedDownload pair resumedRead resumedWrite 0
        (run (Transfer.step resumedDownload)
          (.start resumedRead resumedWrite ⟨pair, []⟩ ⟨firstHalf, []⟩) pairEvents) := by
  refine (intact_of_meeting resumed_matched ⟨pair, []⟩ ⟨firstHalf, []⟩ pair_readable
    (fun number _ => firstHalf_interrupted number) pairEvents ?_).1
  refine ⟨trivial, ?_, trivial, trivial, trivial, ?_, ?_, ?_, trivial, trivial, trivial, ?_, ?_, ?_,
    trivial⟩
  · exact Transfer.meeting_digest ⟨7, 0, 10, 2, false, false, 0, true⟩ (by decide)
      (by decide +kernel) _
  · exact Transfer.meeting_other (.block ⟨7, 0, [2], false⟩) (by decide +kernel) nofun _
  · exact Transfer.meeting_other (.block ⟨7, 0, [], false⟩) (by decide +kernel) nofun _
  · exact Transfer.meeting_digest ⟨7, 1, 20, 2, false, false, 0, true⟩ (by decide +kernel)
      (by decide +kernel) _
  · exact Transfer.meeting_other (.block ⟨7, 1, [3, 4], false⟩) (by decide +kernel) nofun _
  · exact Transfer.meeting_other (.block ⟨7, 1, [], false⟩) (by decide +kernel) nofun _
  · exact Transfer.meeting_other (.done 7 2) (by decide +kernel) nofun _

end Fs
end OneDesk
