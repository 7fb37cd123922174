import OneDesk.Fs.Publish
import OneDesk.Fs.Reading

/-!
# What a write job holds

A write job keeps up with the stage of its read job: in the middle of a file its
stream stands in the download of that file, between two files the last one it
was sent lies whole in its download, and the files before are at their final
paths.  A resumed file may find more bytes in its download than it goes on from,
because an offset has 32 bits only.
-/

namespace OneDesk
namespace Fs

open Lib

variable {Location : Type}

/-- A file of a job is at its final path with given contents. -/
def Settled
    (os : Os Location)
    (start : TransferJob)
    (contents : Nat → List UInt8)
    (disk : Disk Location)
    (number : Nat) : Prop :=
  ∀ final, spot os start .final number = some final → disk.bytes final = some (contents number)

/-- The open stream of a write job: it stands at the place of the cursor in the current file, or
it has written a file before it whole. -/
structure Collects
    (os : Os Location)
    (start : TransferJob)
    (contents : Nat → List UInt8)
    (disk : Disk Location)
    (cursor : Cursor)
    (current : Nat)
    (stream : Handle) : Prop where
  writable : stream.writable = true
  holds : ∃ download bytes, spot os start .download current = some download ∧
    disk.names download = some stream.inode ∧ disk.bytes download = some bytes ∧
    bytes <+: contents current ∧ stream.position ≤ bytes.length ∧
    ((current = cursor.number ∧ 0 < cursor.position ∧ stream.position = cursor.position) ∨
      (current < cursor.number ∧ cursor.position = 0 ∧ bytes = contents current))

/-- A write job that was sent the files up to a cursor, from a first file on.  Some files are
excused: nothing is said about them. -/
structure Writing
    (os : Os Location)
    (start : TransferJob)
    (first : Nat)
    (contents : Nat → List UInt8)
    (excused : Nat → Prop)
    (disk : Disk Location)
    (cursor : Cursor)
    (current : Nat)
    (job : TransferJob) : Prop where
  setup : TransferJob.SameSetup start job
  fileNum : job.fileNum = current
  idle : job.dataStream = none → cursor.position = 0 ∧
    (current = cursor.number ∨ current < cursor.number ∧ excused current)
  streams : ∀ stream, job.dataStream = some stream →
    Collects os start contents disk cursor current stream
  settled : ∀ number, first ≤ number → number < cursor.number →
    (number = current ∧ job.dataStream ≠ none) ∨ excused number ∨
      Settled os start contents disk number

/-- Nothing of a file was sent yet. -/
def Cursor.Awaits (cursor : Cursor) (number : Nat) : Prop :=
  cursor.number < number ∨ cursor.number = number ∧ cursor.position = 0

/-- The three files of a number are as before. -/
def Untouched
    (os : Os Location)
    (start : TransferJob)
    (before after : Volume String Location)
    (number : Nat) : Prop :=
  ∀ role location, spot os start role number = some location → SameAt before after location

variable {os : Os Location} {codec : Codec} {start job : TransferJob} {first current : Nat}
variable {contents : Nat → List UInt8} {excused : Nat → Prop} {volume : Volume String Location}
variable {cursor : Cursor} {block : FileTransferBlock}

/-- A chunk leaves behind the files that nothing was sent of. -/
theorem Cursor.awaits_next
    {number : Nat}
    (awaits : (cursor.next contents).Awaits number) :
    cursor.number < number := by
  unfold Cursor.next at awaits
  split at awaits
  · rcases awaits with later | ⟨same, _⟩
    · exact Nat.lt_of_succ_lt later
    · exact Nat.lt_of_succ_le same.le
  · next more =>
      rcases awaits with later | ⟨_, none⟩
      · exact later
      · have := List.length_pos_of_ne_nil more
        dsimp only at none
        omega

namespace Writing

theorem currentEntry_eq
    {disk : Disk Location}
    (writing : Writing os start first contents excused disk cursor current job) :
    job.currentEntry = start.files[current]? := by
  rw [TransferJob.currentEntry, writing.setup.files, writing.fileNum, asUsize_natCast]

/-- Excusing more files and changing the flags of the job breaks nothing. -/
theorem of_flags
    {disk : Disk Location}
    {after : TransferJob}
    {more : Nat → Prop}
    (writing : Writing os start first contents excused disk cursor current job)
    (setup : TransferJob.SameSetup job after)
    (fileNum : after.fileNum = job.fileNum)
    (stream : after.dataStream = job.dataStream)
    (weaker : ∀ number, excused number → more number) :
    Writing os start first contents more disk cursor current after where
  setup := writing.setup.trans setup
  fileNum := fileNum.trans writing.fileNum
  idle := by
    intro none
    obtain ⟨atStart, place⟩ := writing.idle (stream ▸ none)
    exact ⟨atStart, place.imp_right fun behind => ⟨behind.1, weaker current behind.2⟩⟩
  streams := by
    rw [stream]
    exact writing.streams
  settled := by
    intro number fromFirst before
    rw [stream]
    exact (writing.settled number fromFirst before).imp_right (Or.imp_left (weaker number))

/-- Where a stream stands after a chunk of its file. -/
theorem collects_next
    {disk : Disk Location}
    {download : Location}
    {bytes : List UInt8}
    {stream : Handle}
    (writable : stream.writable = true)
    (downloadSpot : spot os start .download cursor.number = some download)
    (named : disk.names download = some stream.inode)
    (collected : disk.bytes download = some bytes)
    (isPrefix : bytes <+: contents cursor.number)
    (enough : cursor.position + (cursor.chunk contents).length ≤ bytes.length)
    (position : stream.position = cursor.position + (cursor.chunk contents).length) :
    Collects os start contents disk (cursor.next contents) cursor.number stream := by
  refine ⟨writable, download, bytes, downloadSpot, named, collected, isPrefix,
    by rw [position]; exact enough, ?_⟩
  by_cases ends : cursor.chunk contents = []
  · right
    rw [Cursor.next, if_pos ends]
    refine ⟨Nat.lt_succ_self _, rfl, isPrefix.eq_of_length ?_⟩
    have whole := congrArg List.length (Cursor.take_of_chunk_nil ends)
    rw [List.length_take] at whole
    have := isPrefix.length_le
    omega
  · left
    rw [Cursor.next, if_neg ends]
    have := List.length_pos_of_ne_nil ends
    exact ⟨rfl, by dsimp only; omega, position⟩

/-- The files up to the current one stay settled when the cursor moves on in it. -/
theorem settled_next
    {disk : Disk Location}
    {after : TransferJob}
    (streaming : after.dataStream ≠ none)
    (settled : ∀ number, first ≤ number → number < cursor.number →
      excused number ∨ Settled os start contents disk number)
    (number : Nat)
    (fromFirst : first ≤ number)
    (before : number < (cursor.next contents).number) :
    (number = cursor.number ∧ after.dataStream ≠ none) ∨ excused number ∨
      Settled os start contents disk number := by
  by_cases earlier : number < cursor.number
  · exact .inr (settled number fromFirst earlier)
  · refine .inl ⟨?_, streaming⟩
    unfold Cursor.next at before
    split at before
    · have : number < cursor.number + 1 := before
      omega
    · exact absurd before earlier

/-- A file that is left out, whatever the write job knows of it. -/
theorem leavesOut
    {disk : Disk Location}
    {more : Nat → Prop}
    {number : Nat}
    (writing : Writing os start first contents excused disk ⟨number, 0⟩ current job)
    (weaker : ∀ other, excused other → more other)
    (isExcused : more number) :
    Writing os start first contents more disk ⟨number + 1, 0⟩ current job where
  setup := writing.setup
  fileNum := writing.fileNum
  idle := by
    intro none
    refine ⟨rfl, .inr ?_⟩
    rcases (writing.idle none).2 with same | ⟨behind, wasExcused⟩
    · obtain rfl : current = number := same
      exact ⟨Nat.lt_succ_self current, isExcused⟩
    · exact ⟨Nat.lt_succ_of_lt behind, weaker current wasExcused⟩
  streams := by
    intro stream streaming
    obtain ⟨writable, download, bytes, downloadSpot, named, collected, isPrefix, inFile, place⟩ :=
      writing.streams stream streaming
    refine ⟨writable, download, bytes, downloadSpot, named, collected, isPrefix, inFile, .inr ?_⟩
    rcases place with ⟨_, begun, _⟩ | ⟨behind, _, whole⟩
    · exact absurd begun (Nat.lt_irrefl 0)
    · exact ⟨Nat.lt_succ_of_lt behind, rfl, whole⟩
  settled := by
    intro other fromFirst before
    rcases Nat.lt_succ_iff_lt_or_eq.mp before with earlier | rfl
    · exact (writing.settled other fromFirst earlier).imp_right (Or.imp_left (weaker other))
    · exact .inr (.inl isExcused)

end Writing

variable [DecidableEq Location]

/-- A file stays settled while its final path is left alone. -/
theorem Settled.of_same
    {before after : Volume String Location}
    {number : Nat}
    (settled : Settled os start contents before.disk number)
    (same : ∀ final, spot os start .final number = some final → SameAt before after final) :
    Settled os start contents after.disk number := by
  intro final here
  rw [(same final here).bytes]
  exact settled final here

namespace Writing

/-- Publishing the current file settles all the files before the cursor. -/
theorem publishes
    (permits : Permits os)
    (generic : start.type = .generic)
    (separate : Separate os start)
    (writing : Writing os start first contents excused volume.disk cursor current job)
    {number : Nat}
    (fromFirst : first ≤ number)
    (before : number < cursor.number) :
    excused number ∨
      Settled os start contents (job.modifyTime os volume).disk number := by
  have isGeneric : job.type = .generic := writing.setup.type.trans generic
  cases found : start.files[current]? with
  | none =>
      -- without a current file nothing is published, and no stream is open
      rw [TransferJob.modifyTime_of_none (writing.currentEntry_eq.trans found)]
      rcases writing.settled number fromFirst before with ⟨_, streaming⟩ | rest
      · obtain ⟨stream, isStream⟩ := Option.ne_none_iff_exists'.mp streaming
        obtain ⟨download, _, downloadSpot, _⟩ := (writing.streams stream isStream).holds
        obtain ⟨entry, isEntry, _⟩ := spot_eq_some.mp downloadSpot
        rw [found] at isEntry
        cases isEntry
      · exact rest
  | some entry =>
      have isCurrent : job.currentEntry = some entry := writing.currentEntry_eq.trans found
      obtain ⟨final, download, digest, finalSpot, downloadSpot, digestSpot, startSpots⟩ :=
        separate.spots found
      have spots : Spots os (job.pathOf os.style entry) final download digest := by
        rw [writing.setup.pathOf_eq]
        exact startSpots
      by_cases same : number = current
      · subst same
        cases streaming : job.dataStream with
        | none =>
            rcases (writing.idle streaming).2 with here | behind
            · omega
            · exact .inl behind.2
        | some stream =>
            right
            obtain ⟨found, bytes, foundSpot, _, collected, _, _, place⟩ :=
              (writing.streams stream streaming).holds
            obtain rfl : download = found := Option.some.inj (downloadSpot.symm.trans foundSpot)
            obtain rfl : bytes = contents number := by
              rcases place with ⟨here, _⟩ | ⟨_, _, whole⟩
              · omega
              · exact whole
            obtain ⟨isFinal, _⟩ :=
              TransferJob.modifyTime_publishes permits isGeneric isCurrent spots collected
            intro other otherSpot
            obtain rfl : final = other := Option.some.inj (finalSpot.symm.trans otherSpot)
            rw [Disk.bytes, isFinal]
            rfl
      · rcases writing.settled number fromFirst before with ⟨here, _⟩ | rest
        · exact absurd here same
        · refine rest.imp_right fun settled => settled.of_same ?_
          intro other otherSpot
          exact TransferJob.modifyTime_elsewhere isGeneric isCurrent spots
            (separate.ne otherSpot finalSpot (.inr same))
            (separate.ne otherSpot downloadSpot (.inl (by decide)))
            (separate.ne otherSpot digestSpot (.inl (by decide)))

/-- The current file is not behind the cursor. -/
theorem current_le
    {disk : Disk Location}
    (writing : Writing os start first contents excused disk cursor current job) :
    current ≤ cursor.number := by
  cases streaming : job.dataStream with
  | none => rcases (writing.idle streaming).2 with same | ⟨behind, _⟩ <;> omega
  | some stream =>
      obtain ⟨_, _, _, _, _, _, _, _, place⟩ := writing.streams stream streaming
      rcases place with ⟨same, _⟩ | ⟨behind, _⟩ <;> omega

/-- Publishing the current file leaves the files behind the cursor alone. -/
theorem modifyTime_spares
    (generic : start.type = .generic)
    (separate : Separate os start)
    (writing : Writing os start first contents excused volume.disk cursor current job)
    {number : Nat}
    (later : cursor.number < number)
    {role : Role}
    {location : Location}
    (here : spot os start role number = some location) :
    SameAt volume (job.modifyTime os volume) location := by
  cases found : start.files[current]? with
  | none =>
      rw [TransferJob.modifyTime_of_none (writing.currentEntry_eq.trans found)]
      exact .of_disk rfl location
  | some entry =>
      obtain ⟨final, download, digest, finalSpot, downloadSpot, digestSpot, startSpots⟩ :=
        separate.spots found
      have spots : Spots os (job.pathOf os.style entry) final download digest := by
        rw [writing.setup.pathOf_eq]
        exact startSpots
      have differs : number ≠ current := by
        have := writing.current_le
        omega
      exact TransferJob.modifyTime_elsewhere (writing.setup.type.trans generic)
        (writing.currentEntry_eq.trans found) spots (separate.ne here finalSpot (.inr differs))
        (separate.ne here downloadSpot (.inr differs))
        (separate.ne here digestSpot (.inr differs))

/-- A block for the open file goes to its place in the download. -/
theorem appends
    (steady : Steady os)
    (separate : Separate os start)
    (writing : Writing os start first contents excused volume.disk cursor current job)
    (begun : 0 < cursor.position)
    (carries : Carries codec start.id contents cursor block) :
    Writing os start first contents excused (job.write os codec block volume).volume.disk
        (cursor.next contents) cursor.number (job.write os codec block volume).job ∧
      ∀ number, cursor.number < number →
        Untouched os start volume (job.write os codec block volume).volume number := by
  obtain ⟨stream, streaming⟩ : ∃ stream, job.dataStream = some stream := by
    refine Option.ne_none_iff_exists'.mp fun none => ?_
    have := (writing.idle none).1
    omega
  obtain ⟨writable, download, bytes, downloadSpot, named, collected, isPrefix, inFile, place⟩ :=
    writing.streams stream streaming
  obtain ⟨rfl, position⟩ : current = cursor.number ∧ stream.position = cursor.position := by
    rcases place with ⟨here, _, position⟩ | ⟨_, atStart, _⟩
    · exact ⟨here, position⟩
    · omega
  obtain ⟨entry, found, _⟩ := spot_eq_some.mp downloadSpot
  have isNumber : asUsize block.fileNum = cursor.number := by
    rw [carries.fileNum, asUsize_natCast]
  have foundHere : job.files[asUsize block.fileNum]? = some entry := by
    rw [isNumber, writing.setup.files, found]
  have isOpen : ¬job.Opens block.fileNum := by
    simp [TransferJob.Opens, carries.fileNum, writing.fileNum, streaming]
  obtain ⟨_, streamAfter, numberAfter, names, overwritten, elsewhere⟩ :=
    TransferJob.writeData_at job volume codec steady streaming writable named collected block
  rw [carries.payload, position] at overwritten
  rw [carries.payload, position] at streamAfter
  obtain ⟨stillPrefix, enough⟩ :=
    overwrite_isPrefix isPrefix (position ▸ inFile) bufSize
  rw [TransferJob.write_of_streaming (carries.id.trans writing.setup.id.symm) foundHere isOpen]
  have streams : ∀ moved, (job.writeData os codec block volume).job.dataStream = some moved →
      Collects os start contents (job.writeData os codec block volume).volume.disk
        (cursor.next contents) cursor.number moved := by
    intro moved isMoved
    obtain rfl := Option.some.inj (streamAfter.symm.trans isMoved)
    refine collects_next writable downloadSpot ?_ overwritten stillPrefix enough rfl
    rw [names]
    exact named
  refine ⟨⟨writing.setup.trans (TransferJob.writeData_setup os codec job volume block),
    numberAfter.trans writing.fileNum, fun none => ?_, streams, ?_⟩, ?_⟩
  · rw [streamAfter] at none
    cases none
  · refine settled_next (by simp [streamAfter]) ?_
    intro number fromFirst before
    have notHere : ¬(number = cursor.number ∧ job.dataStream ≠ none) := fun here => by omega
    refine ((writing.settled number fromFirst before).resolve_left notHere).imp_right ?_
    intro settled
    refine settled.of_same fun final finalSpot => elsewhere final ?_
    exact separate.ne finalSpot downloadSpot (.inl (by decide))
  · intro number later role location here
    exact elsewhere location (separate.ne here downloadSpot (.inr later.ne'))

/-- The first block of a file settles the files before and starts a new download. -/
theorem opens
    (permits : Permits os)
    (generic : start.type = .generic)
    (separate : Separate os start)
    (writing : Writing os start first contents excused volume.disk cursor current job)
    (between : cursor.position = 0)
    (inside : cursor.number < start.files.length)
    (carries : Carries codec start.id contents cursor block) :
    Writing os start first contents excused (job.write os codec block volume).volume.disk
        (cursor.next contents) cursor.number (job.write os codec block volume).job ∧
      ∀ number, cursor.number < number →
        Untouched os start volume (job.write os codec block volume).volume number := by
  have isNumber : asUsize block.fileNum = cursor.number := by
    rw [carries.fileNum, asUsize_natCast]
  obtain ⟨entry, found⟩ : ∃ entry, start.files[cursor.number]? = some entry :=
    ⟨_, List.getElem?_eq_getElem inside⟩
  have foundHere : job.files[asUsize block.fileNum]? = some entry := by
    rw [isNumber, writing.setup.files, found]
  have isOpening : job.Opens block.fileNum := by
    cases streaming : job.dataStream with
    | none => exact .inr streaming
    | some stream =>
        left
        obtain ⟨_, _, _, _, _, _, _, _, place⟩ := writing.streams stream streaming
        rw [isNumber, writing.fileNum, asUsize_natCast]
        rcases place with ⟨_, begun, _⟩ | ⟨behind, _⟩ <;> omega
  obtain ⟨final, download, digest, _, downloadSpot, digestSpot, startSpots⟩ :=
    separate.spots found
  have spots : Spots os (job.pathOf os.style entry) final download digest := by
    rw [writing.setup.pathOf_eq]
    exact startSpots
  obtain ⟨inode, succeeds, opened, named, empty, openElsewhere⟩ :=
    TransferJob.openFile_steady permits.steady (writing.setup.type.trans generic) spots
      block.fileNum volume
  let fresh : TransferJob := { job with
    fileNum := block.fileNum, dataStream := some ⟨inode, 0, true⟩ }
  let middle := (job.openFile os block.fileNum entry volume).volume
  obtain ⟨_, streamAfter, numberAfter, names, written, writeElsewhere⟩ :=
    TransferJob.writeData_at fresh middle codec permits.steady rfl rfl named empty block
  rw [carries.payload] at written
  rw [carries.payload] at streamAfter
  have chunk : ((contents cursor.number).drop 0).take bufSize = cursor.chunk contents := by
    rw [Cursor.chunk, between]
  obtain ⟨stillPrefix, enough⟩ := overwrite_isPrefix
    (List.nil_prefix (l := contents cursor.number)) (Nat.le_refl 0) bufSize
  rw [chunk] at stillPrefix enough
  rw [TransferJob.write_of_opening (carries.id.trans writing.setup.id.symm) foundHere isOpening
    succeeds, opened]
  have streams : ∀ moved, (fresh.writeData os codec block middle).job.dataStream = some moved →
      Collects os start contents (fresh.writeData os codec block middle).volume.disk
        (cursor.next contents) cursor.number moved := by
    intro moved isMoved
    obtain rfl := Option.some.inj (streamAfter.symm.trans isMoved)
    refine collects_next rfl downloadSpot ?_ written stillPrefix ?_ ?_
    · rw [names]
      exact named
    · rw [between]
      exact enough
    · rw [between]
  have setup : TransferJob.SameSetup job (fresh.writeData os codec block middle).job :=
    (show TransferJob.SameSetup job fresh from ⟨rfl, rfl, rfl, rfl, rfl, rfl⟩).trans
      (TransferJob.writeData_setup os codec fresh middle block)
  have afterwards : ∀ location, location ≠ download → location ≠ digest →
      SameAt (job.modifyTime os volume) (fresh.writeData os codec block middle).volume
        location :=
    fun location notDownload notDigest =>
      (openElsewhere location notDownload notDigest).trans (writeElsewhere location notDownload)
  refine ⟨⟨writing.setup.trans setup, numberAfter.trans carries.fileNum, fun none => ?_, streams,
    ?_⟩, ?_⟩
  · rw [streamAfter] at none
    cases none
  · refine settled_next (by rw [streamAfter]; simp) ?_
    intro number fromFirst before
    refine (writing.publishes permits generic separate fromFirst before).imp_right ?_
    intro settled
    refine settled.of_same fun other otherSpot => afterwards other ?_ ?_
    · exact separate.ne otherSpot downloadSpot (.inl (by decide))
    · exact separate.ne otherSpot digestSpot (.inl (by decide))
  · intro number later role location here
    refine (writing.modifyTime_spares generic separate later here).trans (afterwards location ?_ ?_)
    · exact separate.ne here downloadSpot (.inr later.ne')
    · exact separate.ne here digestSpot (.inr later.ne')

/-- A write job keeps up with a block. -/
theorem receives
    (permits : Permits os)
    (generic : start.type = .generic)
    (separate : Separate os start)
    (writing : Writing os start first contents excused volume.disk cursor current job)
    (inside : cursor.number < start.files.length)
    (carries : Carries codec start.id contents cursor block) :
    Writing os start first contents excused (job.write os codec block volume).volume.disk
        (cursor.next contents) cursor.number (job.write os codec block volume).job ∧
      ∀ number, cursor.number < number →
        Untouched os start volume (job.write os codec block volume).volume number := by
  rcases Nat.eq_zero_or_pos cursor.position with between | begun
  · exact writing.opens permits generic separate between inside carries
  · exact writing.appends permits.steady separate begun carries

/-- A write job that is told that a file is skipped stays where it is, or turns to the next
file. -/
theorem confirm_skip
    {more : Nat → Prop}
    {number : Nat}
    (writing : Writing os start first contents excused volume.disk ⟨number, 0⟩ current job)
    (weaker : ∀ other, excused other → more other)
    (isExcused : more number)
    (id : Int) :
    ∃ after next, job.confirm os ⟨id, number, some (.skip true)⟩ volume = some (after, volume) ∧
      Writing os start first contents more volume.disk ⟨number + 1, 0⟩ next after := by
  have left := writing.leavesOut weaker isExcused
  by_cases here : current = number
  · subst here
    refine ⟨job.setFileSkipped, current + 1, by simp [TransferJob.confirm, writing.fileNum], ?_⟩
    refine ⟨writing.setup.trans ⟨rfl, rfl, rfl, rfl, rfl, rfl⟩, ?_, fun _ => ⟨rfl, .inl rfl⟩,
      by intros; contradiction, ?_⟩
    · simp [TransferJob.setFileSkipped, writing.fileNum]
    · intro other fromFirst before
      rcases left.settled other fromFirst before with ⟨rfl, _⟩ | rest
      · exact .inr (.inl isExcused)
      · exact .inr rest
  · refine ⟨job, current, ?_, left⟩
    have differs : job.fileNum ≠ number := by
      rw [writing.fileNum]
      exact_mod_cast here
    simp only [TransferJob.confirm, if_pos differs]

/-- A write job that is told that a file is sent from its start only notes it. -/
theorem confirm_whole
    (writing : Writing os start first contents excused volume.disk cursor current job)
    (id fileNum : Int) :
    ∃ after, job.confirm os ⟨id, fileNum, some (.offsetBlk 0)⟩ volume = some (after, volume) ∧
      Writing os start first contents excused volume.disk cursor current after := by
  by_cases here : job.fileNum ≠ fileNum
  · exact ⟨job, by simp only [TransferJob.confirm, if_pos here], writing⟩
  · refine ⟨job.setFileConfirmed true, ?_, ?_⟩
    · simp only [TransferJob.confirm, if_neg here]
      rfl
    · exact writing.of_flags (TransferJob.setFileConfirmed_setup job true) rfl rfl
        fun _ isExcused => isExcused

/-- A write job that is at a file goes on with what is left of it. -/
theorem confirm_resume
    (steady : Steady os)
    (separate : Separate os start)
    {number : Nat}
    (writing : Writing os start first contents excused volume.disk ⟨number, 0⟩ number job)
    {entry : FileEntry}
    (found : start.files[number]? = some entry)
    {kept download : File}
    (isKept : fileAt os volume.disk (digestOf (start.pathOf os.style entry)) = some kept)
    (isDownload : fileAt os volume.disk (downloadOf (start.pathOf os.style entry)) = some download)
    (isPrefix : download.bytes <+: contents number)
    {offset : UInt32}
    (positive : 0 < offset)
    (inFile : offset.toNat ≤ download.bytes.length)
    (id : Int) :
    ∃ after later, job.confirm os ⟨id, number, some (.offsetBlk offset)⟩ volume =
        some (after, later) ∧
      later.disk = volume.disk ∧
      Writing os start first contents excused volume.disk ⟨number, offset.toNat⟩ number after := by
  obtain ⟨final, downloadPlace, digestPlace, _, downloadSpot, _, startSpots⟩ :=
    separate.spots found
  have spots : Spots os ((job.setFileConfirmed true).pathOf os.style entry) final downloadPlace
      digestPlace := by
    rw [(TransferJob.setFileConfirmed_setup job true).pathOf_eq, writing.setup.pathOf_eq]
    exact startSpots
  have foundHere : (job.setFileConfirmed true).files[number]? = some entry := by
    rw [(TransferJob.setFileConfirmed_setup job true).files, writing.setup.files, found]
  simp only [fileAt, startSpots.digest_located, startSpots.download_located,
    Option.bind_some] at isKept isDownload
  obtain ⟨digestInode, digestNamed, _⟩ := Option.map_eq_some_iff.mp isKept
  obtain ⟨inode, named, isHeld⟩ := Option.map_eq_some_iff.mp isDownload
  obtain ⟨later, sought, same⟩ := TransferJob.setStreamOffset_steady
    (job.setFileConfirmed true) steady foundHere spots named digestNamed offset.toNat
  refine ⟨(job.setFileConfirmed true).seekTo (some ⟨inode, 0, true⟩) offset.toNat, later, ?_,
    same, ?_⟩
  · simp only [TransferJob.confirm, writing.fileNum, ne_eq, not_true, if_false, if_pos positive,
      asUsize_natCast]
    exact sought
  · have setup : TransferJob.SameSetup job
        ((job.setFileConfirmed true).seekTo (some ⟨inode, 0, true⟩) offset.toNat) :=
      (TransferJob.setFileConfirmed_setup job true).trans (TransferJob.seekTo_setup ..)
    refine ⟨writing.setup.trans setup, writing.fileNum, by intros; contradiction, ?_, ?_⟩
    · intro stream isStream
      obtain rfl := Option.some.inj isStream
      refine ⟨rfl, downloadPlace, download.bytes, downloadSpot, named, ?_, isPrefix, inFile,
        .inl ⟨rfl, ?_, rfl⟩⟩
      · rw [Disk.bytes, isDownload]
        rfl
      · exact UInt32.lt_iff_toNat_lt.mp positive
    · intro other fromFirst before
      rcases writing.settled other fromFirst before with ⟨rfl, _⟩ | rest
      · exact absurd before (Nat.lt_irrefl other)
      · exact .inr rest

end Writing

end Fs
end OneDesk
