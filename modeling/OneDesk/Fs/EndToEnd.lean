import OneDesk.Fs.ReadJobs

/-!
# A whole transfer

The sender and the receiver of a job see nothing of each other but blocks.
Where a transfer stands is a cursor: the number of the current file and the
bytes of it that were sent.  Each block moves the cursor of the sender on, and
the receiver keeps up with it: it collects the current file up to the cursor
and has published the files before.
-/

namespace OneDesk
namespace Fs

open Lib

/-- How far a transfer has come: the current file and the bytes of it that were sent. -/
structure Cursor where
  number : Nat
  position : Nat

/-- The next bytes of the current file. -/
def Cursor.chunk (contents : Nat → List UInt8) (cursor : Cursor) : List UInt8 :=
  ((contents cursor.number).drop cursor.position).take bufSize

/-- An empty chunk ends a file. -/
def Cursor.next (contents : Nat → List UInt8) (cursor : Cursor) : Cursor :=
  if cursor.chunk contents = [] then ⟨cursor.number + 1, 0⟩
  else ⟨cursor.number, cursor.position + (cursor.chunk contents).length⟩

/-- A chunk continues what was sent of a file. -/
theorem Cursor.take_append_chunk (contents : Nat → List UInt8) (cursor : Cursor) :
    (contents cursor.number).take cursor.position ++ cursor.chunk contents =
      (contents cursor.number).take (cursor.position + (cursor.chunk contents).length) := by
  rw [List.take_add]
  congr 1
  simp [chunk, List.take_eq_take_iff]

/-- Nothing is left of a file with an empty chunk. -/
theorem Cursor.take_of_chunk_nil
    {contents : Nat → List UInt8}
    {cursor : Cursor}
    (ends : cursor.chunk contents = []) :
    (contents cursor.number).take cursor.position = contents cursor.number := by
  have noRoom : bufSize ≠ 0 := by decide
  rcases List.take_eq_nil_iff.mp ends with none | nothing
  · exact absurd none noRoom
  · exact List.take_of_length_le (List.drop_eq_nil_iff.mp nothing)

/-- A block that brings the chunk of a cursor. -/
structure Carries
    (codec : Codec)
    (id : Int)
    (contents : Nat → List UInt8)
    (cursor : Cursor)
    (block : FileTransferBlock) : Prop where
  id : block.id = id
  fileNum : block.fileNum = cursor.number
  payload : TransferJob.payload codec block = cursor.chunk contents

section Sender

variable {Location : Type} [DecidableEq Location]

/-- The file that a path names. -/
def fileAt (os : Os Location) (disk : Disk Location) (path : String) : Option File :=
  (os.locate path).bind disk.file

/-- The system of the sender refuses nothing and has every file of the job, dated after 1970 where
the peer is told the date. -/
structure Readable (os : Os Location) (disk : Disk Location) (job : TransferJob) : Prop where
  permits : Permits os
  present : ∀ entry ∈ job.files, ∃ file,
    fileAt os disk (job.pathOf os.style entry) = some file ∧
      (job.enableOverwriteDetection = true → 0 ≤ file.modified)

/-- The contents of the files of a job. -/
def contentsOf
    (os : Os Location)
    (disk : Disk Location)
    (job : TransferJob)
    (number : Nat) : List UInt8 :=
  match (job.files[number]?).bind fun entry => fileAt os disk (job.pathOf os.style entry) with
  | some file => file.bytes
  | none => []

variable {os : Os Location} {codec : Codec} {disk : Disk Location} {start job : TransferJob}
variable {cursor : Cursor} {volume : Volume String Location}

/-- A job that has sent its files up to a cursor. -/
structure Sending
    (os : Os Location)
    (disk : Disk Location)
    (start : TransferJob)
    (cursor : Cursor)
    (job : TransferJob) : Prop where
  setup : TransferJob.SameSetup start job
  fileNum : job.fileNum = cursor.number
  within : cursor.number ≤ start.files.length
  idle : job.dataStream = none → cursor.position = 0
  streams : ∀ stream, job.dataStream = some stream →
    cursor.number < start.files.length ∧ stream.position = cursor.position ∧
      (disk.files stream.inode).bytes = contentsOf os disk start cursor.number ∧
      (start.enableOverwriteDetection = true → 0 ≤ (disk.files stream.inode).modified)

/-- A job whose current file is open and was asked for. -/
structure Ready (start job : TransferJob) (cursor : Cursor) : Prop where
  opened : cursor.number < start.files.length → job.dataStream ≠ none
  asked : cursor.number < start.files.length → start.enableOverwriteDetection = true →
    job.fileConfirmed = true ∨ job.fileIsWaiting = true

theorem Sending.currentEntry_eq (sending : Sending os disk start cursor job) :
    job.currentEntry = start.files[cursor.number]? := by
  rw [TransferJob.currentEntry, sending.setup.files, sending.fileNum, asUsize_natCast]

/-- No file is open behind the last one. -/
theorem Sending.closed
    (sending : Sending os disk start cursor job)
    (beyond : start.files.length ≤ cursor.number) :
    job.dataStream = none := by
  cases streaming : job.dataStream with
  | none => rfl
  | some stream => exact absurd (sending.streams stream streaming).1 (by omega)

/-- A job behind its last file is at the very end. -/
theorem Sending.cursor_eq
    (sending : Sending os disk start cursor job)
    (ends : cursor.number = start.files.length) :
    cursor = ⟨start.files.length, 0⟩ := by
  have idle := sending.idle (sending.closed (le_of_eq ends.symm))
  obtain ⟨number, position⟩ := cursor
  obtain rfl : number = start.files.length := ends
  obtain rfl : position = 0 := idle
  rfl

/-- A job that changes its flags goes on sending. -/
theorem Sending.of_flags
    {after : TransferJob}
    (sending : Sending os disk start cursor job)
    (setup : TransferJob.SameSetup job after)
    (fileNum : after.fileNum = job.fileNum)
    (stream : after.dataStream = job.dataStream) :
    Sending os disk start cursor after where
  setup := sending.setup.trans setup
  fileNum := fileNum.trans sending.fileNum
  within := sending.within
  idle := by
    rw [stream]
    exact sending.idle
  streams := by
    rw [stream]
    exact sending.streams

/-- A job whose file is open asks for it. -/
theorem askForConfirm_ready
    (generic : start.type = .generic)
    (sending : Sending os disk start cursor job)
    (isOpen : job.dataStream ≠ none)
    (sameDisk : volume.disk = disk) :
    Sending os disk start cursor (job.askForConfirm volume).job ∧
      Ready start (job.askForConfirm volume).job cursor := by
  obtain ⟨stream, streaming⟩ := Option.ne_none_iff_exists'.mp isOpen
  obtain ⟨_, _, _, dated⟩ := sending.streams stream streaming
  have detects := sending.setup.enableOverwriteDetection
  unfold TransferJob.askForConfirm
  split
  · next asks =>
      have notBefore : ¬(volume.disk.files stream.inode).modified < 0 := by
        have := dated (detects ▸ asks.2.1)
        rw [sameDisk]
        omega
      simp only [TransferJob.sendCurrentDigest, streaming, notBefore, if_false]
      exact ⟨sending.of_flags ⟨rfl, rfl, rfl, rfl, rfl, rfl⟩ rfl streaming.symm,
        fun _ => by simp, fun _ _ => .inr rfl⟩
  · next silent =>
      refine ⟨sending, fun _ => isOpen, ?_⟩
      intro _ detection
      rw [sending.setup.type, detects] at silent
      by_cases confirmed : job.fileConfirmed = true
      · exact .inl confirmed
      · refine .inr ?_
        simpa [generic, detection, confirmed] using silent

/-- A job opens its current file and asks for it. -/
theorem initDataStream_ready
    (readable : Readable os disk start)
    (generic : start.type = .generic)
    (sending : Sending os disk start cursor job)
    (sameDisk : volume.disk = disk) :
    Sending os disk start cursor (job.initDataStream os volume).job ∧
      Ready start (job.initDataStream os volume).job cursor := by
  cases found : start.files[cursor.number]? with
  | none =>
      have current : job.currentEntry = none := sending.currentEntry_eq.trans found
      have beyond := List.getElem?_eq_none_iff.mp found
      have closed := sending.closed beyond
      simp only [TransferJob.initDataStream, current]
      exact ⟨sending.of_flags ⟨rfl, rfl, rfl, rfl, rfl, rfl⟩ rfl closed.symm,
        fun inside => absurd inside (by omega), fun inside => absurd inside (by omega)⟩
  | some entry =>
      have current : job.currentEntry = some entry := sending.currentEntry_eq.trans found
      have inside := (List.getElem?_eq_some_iff.mp found).1
      cases streaming : job.dataStream with
      | some stream =>
          rw [TransferJob.initDataStream_streaming current streaming]
          exact askForConfirm_ready generic sending (by simp [streaming]) sameDisk
      | none =>
          obtain ⟨file, isFile, dated⟩ := readable.present entry (List.mem_of_getElem? found)
          obtain ⟨location, located, isAt⟩ := Option.bind_eq_some_iff.mp isFile
          obtain ⟨inode, named, isHeld⟩ := Option.map_eq_some_iff.mp isAt
          have samePath := sending.setup.pathOf_eq os.style entry
          have opens := perform_of_apply os.toHost volume
            (readable.permits volume.log (.openRead (job.pathOf os.style entry)))
            (show Operation.apply os.toHost volume.log volume.disk
              (.openRead (job.pathOf os.style entry)) = some volume.disk by
                simp [Operation.apply, samePath, located, sameDisk, named])
          have handle : openedAt os.toHost ⟨volume.disk, volume.log ++
              [(.openRead (job.pathOf os.style entry), true)]⟩ (job.pathOf os.style entry) false =
                some ⟨inode, 0, false⟩ := by
            simp [openedAt, samePath, located, sameDisk, named]
          have isContents : contentsOf os disk start cursor.number = file.bytes := by
            simp [contentsOf, found, isFile]
          have sendingOpened : Sending os disk start cursor
              { job with
                dataStream := some ⟨inode, 0, false⟩
                fileConfirmed := false
                fileIsWaiting := false } := by
            refine ⟨sending.setup.trans ⟨rfl, rfl, rfl, rfl, rfl, rfl⟩, sending.fileNum,
              sending.within, (fun closed => by cases closed), ?_⟩
            intro stream isStream
            obtain rfl := Option.some.inj isStream
            exact ⟨inside, (sending.idle streaming).symm, by rw [isHeld, isContents],
              by rw [isHeld]; exact dated⟩
          have unfolded : job.initDataStream os volume =
              TransferJob.askForConfirm
                { job with
                  dataStream := some ⟨inode, 0, false⟩
                  fileConfirmed := false
                  fileIsWaiting := false }
                ⟨volume.disk, volume.log ++
                  [(.openRead (job.pathOf os.style entry), true)]⟩ := by
            rw [TransferJob.initDataStream_opened current streaming (by rw [opens])
              (by rw [opens]; exact handle), opens]
          rw [unfolded]
          exact askForConfirm_ready generic sendingOpened (by simp) sameDisk

/-- Packing loses nothing. -/
theorem payload_packed
    (inverse : ∀ data, codec.decompress (codec.compress data) = data)
    (id fileNum : Int)
    (name : String)
    (data : List UInt8) :
    TransferJob.payload codec
      ⟨id, fileNum, (TransferJob.packed codec name data).1,
        (TransferJob.packed codec name data).2⟩ = data := by
  unfold TransferJob.packed
  split
  · simp [TransferJob.payload, inverse]
  · simp [TransferJob.payload]

/-- A job that is ready sends the chunk of its cursor, waits for an answer or is at its end. -/
theorem read_sending
    (inverse : ∀ data, codec.decompress (codec.compress data) = data)
    (permits : Permits os)
    (sending : Sending os disk start cursor job)
    (ready : Ready start job cursor)
    (sameDisk : volume.disk = disk) :
    ((job.read os codec volume).result = .ok none ∧
      Sending os disk start cursor (job.read os codec volume).job ∧
      ((job.read os codec volume).job.jobCompleted = true →
        cursor.number = start.files.length)) ∨
    ∃ block, (job.read os codec volume).result = .ok (some block) ∧
      cursor.number < start.files.length ∧
      Carries codec start.id (contentsOf os disk start) cursor block ∧
      Sending os disk start (cursor.next (contentsOf os disk start))
        (job.read os codec volume).job := by
  have setup := sending.setup
  by_cases waits : job.type = .generic ∧ job.enableOverwriteDetection ∧ !job.fileConfirmed
  · -- a file that was asked for and is not confirmed does not count as completed
    have unread : job.read os codec volume = ⟨job, volume, .ok none⟩ := by
      simp only [TransferJob.read, if_pos waits]
    rw [unread]
    refine .inl ⟨rfl, sending, ?_⟩
    intro completed
    by_contra short
    have detection : job.enableOverwriteDetection = true := waits.2.1
    have unconfirmed : job.fileConfirmed = false := by simpa using waits.2.2
    have asked := ready.asked (lt_of_le_of_ne sending.within short)
      (setup.enableOverwriteDetection ▸ detection)
    simp [TransferJob.jobCompleted, detection, unconfirmed] at completed asked
    rw [asked] at completed
    cases completed
  · cases found : start.files[cursor.number]? with
    | none =>
        have current : job.currentEntry = none := sending.currentEntry_eq.trans found
        have beyond := List.getElem?_eq_none_iff.mp found
        have closed := sending.closed beyond
        have ended : job.read os codec volume =
            ⟨{ job with dataStream := none }, volume, .ok none⟩ := by
          simp only [TransferJob.read, if_neg waits, current]
        rw [ended]
        exact .inl ⟨rfl, sending.of_flags ⟨rfl, rfl, rfl, rfl, rfl, rfl⟩ rfl closed.symm,
          fun _ => le_antisymm sending.within beyond⟩
    | some entry =>
        have current : job.currentEntry = some entry := sending.currentEntry_eq.trans found
        have inside := (List.getElem?_eq_some_iff.mp found).1
        obtain ⟨stream, streaming⟩ := Option.ne_none_iff_exists'.mp (ready.opened inside)
        obtain ⟨_, position, bytes, dated⟩ := sending.streams stream streaming
        have reads := perform_of_apply os.toHost volume (permits volume.log (.read stream))
          (show Operation.apply os.toHost volume.log volume.disk (.read stream) =
            some volume.disk from rfl)
        have chunk : ((volume.disk.files stream.inode).bytes.drop stream.position).take bufSize =
            cursor.chunk (contentsOf os disk start) := by
          rw [sameDisk, bytes, position]
          rfl
        right
        by_cases ends : cursor.chunk (contentsOf os disk start) = []
        · have turned : job.read os codec volume =
              ⟨job.nextFile, ⟨volume.disk, volume.log ++ [(.read stream, true)]⟩,
                .ok (some ⟨job.id, job.fileNum, [], false⟩)⟩ := by
            simp only [TransferJob.read, if_neg waits, current, streaming, reads, if_true, chunk,
              ends]
          rw [turned]
          refine ⟨_, rfl, inside, ⟨setup.id, sending.fileNum, ?_⟩, ?_⟩
          · simp [TransferJob.payload, ends]
          · rw [Cursor.next, if_pos ends]
            refine ⟨setup.trans ⟨rfl, rfl, rfl, rfl, rfl, rfl⟩, ?_, inside, fun _ => rfl, nofun⟩
            simp [TransferJob.nextFile, sending.fileNum]
        · have sent : job.read os codec volume =
              ⟨{ job with
                  dataStream := some
                    { stream with
                      position := stream.position +
                        (cursor.chunk (contentsOf os disk start)).length }
                  finishedSize := job.finishedSize +
                    (cursor.chunk (contentsOf os disk start)).length
                  transferred := job.transferred + (TransferJob.packed codec entry.name
                    (cursor.chunk (contentsOf os disk start))).1.length },
                ⟨volume.disk, volume.log ++ [(.read stream, true)]⟩,
                .ok (some ⟨job.id, job.fileNum,
                  (TransferJob.packed codec entry.name
                    (cursor.chunk (contentsOf os disk start))).1,
                  (TransferJob.packed codec entry.name
                    (cursor.chunk (contentsOf os disk start))).2⟩)⟩ := by
            simp only [TransferJob.read, if_neg waits, current, streaming, reads, if_true, chunk,
              if_neg ends]
          rw [sent]
          refine ⟨_, rfl, inside, ⟨setup.id, sending.fileNum, payload_packed inverse _ _ _ _⟩, ?_⟩
          rw [Cursor.next, if_neg ends]
          refine ⟨setup.trans ⟨rfl, rfl, rfl, rfl, rfl, rfl⟩, sending.fileNum, sending.within,
            nofun, ?_⟩
          intro moved isMoved
          obtain rfl := Option.some.inj isMoved
          exact ⟨inside, by simp [position], bytes, dated⟩

/-- The turn of a job that is ready: it sends the block of its cursor, or none and ends only after
its last file. -/
theorem readTurn_sending
    (inverse : ∀ data, codec.decompress (codec.compress data) = data)
    (permits : Permits os)
    (sending : Sending os disk start cursor job)
    (ready : Ready start job cursor)
    (sameDisk : volume.disk = disk) :
    (blocksOf start.id (readTurn os codec job volume).messages = [] ∧
      Sending os disk start cursor (readTurn os codec job volume).job ∧
      ((readTurn os codec job volume).finished = true →
        cursor.number = start.files.length)) ∨
    ∃ block, blocksOf start.id (readTurn os codec job volume).messages = [block] ∧
      (readTurn os codec job volume).finished = false ∧
      cursor.number < start.files.length ∧
      Carries codec start.id (contentsOf os disk start) cursor block ∧
      Sending os disk start (cursor.next (contentsOf os disk start))
        (readTurn os codec job volume).job := by
  have ends := readTurn_finished os codec job volume
  rw [readTurn_blocks, readTurn_job]
  rcases read_sending inverse permits sending ready sameDisk with
      ⟨nothing, still, completes⟩ | ⟨block, sent, inside, carries, moved⟩
  · left
    rw [nothing]
    exact ⟨rfl, still, fun finished => completes (ends finished).2⟩
  · right
    rw [sent] at ends ⊢
    refine ⟨block, if_pos sending.setup.id, ?_, inside, carries, moved⟩
    by_contra finished
    cases (ends (by simpa using finished)).1

end Sender

section Receiver

variable {Location : Type} [DecidableEq Location]
variable {os : Os Location} {codec : Codec} {start : TransferJob}
variable {contents : Nat → List UInt8}

/-- A receiver takes a block, whether or not that succeeds. -/
def receive
    (os : Os Location)
    (codec : Codec)
    (state : TransferJob × Volume String Location)
    (block : FileTransferBlock) : TransferJob × Volume String Location :=
  let written := state.1.write os codec block state.2
  (written.job, written.volume)

/-- The disk of a receiver after the blocks of a job and its end. -/
def delivered
    (os : Os Location)
    (codec : Codec)
    (job : TransferJob)
    (volume : Volume String Location)
    (blocks : List FileTransferBlock) : Disk Location :=
  let receiver := run (receive os codec) (job, volume) blocks
  (receiver.1.modifyTime os receiver.2).disk

/-- A file has arrived: its final path holds it, and its working files are gone. -/
def Arrived
    (os : Os Location)
    (start : TransferJob)
    (contents : Nat → List UInt8)
    (disk : Disk Location)
    (number : Nat) : Prop :=
  ∀ entry ∈ start.files[number]?,
    fileAt os disk (start.pathOf os.style entry) =
        some ⟨contents number, asI64 entry.modifiedTime⟩ ∧
      fileAt os disk (downloadOf (start.pathOf os.style entry)) = none ∧
      fileAt os disk (digestOf (start.pathOf os.style entry)) = none

/-- A file that has arrived stays so while nothing happens to its paths. -/
theorem Arrived.of_same
    {before after : Volume String Location}
    {number : Nat}
    (arrived : Arrived os start contents before.disk number)
    (separate : Separate os start)
    (same : ∀ role location, spot os start role number = some location →
      SameAt before after location) :
    Arrived os start contents after.disk number := by
  intro entry found
  obtain ⟨final, download, digest, finalSpot, downloadSpot, digestSpot, spots⟩ :=
    separate.spots found
  obtain ⟨isFinal, noDownload, noDigest⟩ := arrived entry found
  simp only [fileAt, spots.final_located, spots.download_located, spots.digest_located,
    Option.bind_some] at isFinal noDownload noDigest ⊢
  exact ⟨(same .final final finalSpot).file.trans isFinal,
    (same .download download downloadSpot).file.trans noDownload,
    (same .digest digest digestSpot).file.trans noDigest⟩

/-- A receiver that collects a file: it holds some bytes of it, and the files before have
arrived. -/
structure Holds
    (os : Os Location)
    (start : TransferJob)
    (contents : Nat → List UInt8)
    (number : Nat)
    (bytes : List UInt8)
    (state : TransferJob × Volume String Location) : Prop where
  fileNum : state.1.fileNum = number
  streams : ∃ stream download, state.1.dataStream = some stream ∧
    spot os start .download number = some download ∧
    stream.writable = true ∧
    state.2.disk.names download = some stream.inode ∧
    state.2.disk.bytes download = some bytes ∧
    stream.position = bytes.length
  arrived : ∀ earlier < number, Arrived os start contents state.2.disk earlier

/-- A receiver has taken every block up to a cursor: where a file has ended and the next one has
not begun, the one that ended is still open. -/
def Received
    (os : Os Location)
    (start : TransferJob)
    (contents : Nat → List UInt8)
    (state : TransferJob × Volume String Location) : Cursor → Prop
  | ⟨0, 0⟩ => state.1.dataStream = none
  | ⟨number + 1, 0⟩ => Holds os start contents number (contents number) state
  | ⟨number, position + 1⟩ =>
      Holds os start contents number ((contents number).take (position + 1)) state

/-- In the middle of a file its first bytes are there. -/
theorem received_within
    (state : TransferJob × Volume String Location)
    (number position : Nat) :
    Received os start contents state ⟨number, position + 1⟩ ↔
      Holds os start contents number ((contents number).take (position + 1)) state := by
  cases number <;> rfl

variable {job : TransferJob} {volume : Volume String Location} {number : Nat}
variable {bytes : List UInt8} {block : FileTransferBlock}

/-- Publishing a whole file lets it arrive and leaves those before alone. -/
theorem Holds.publishes
    (permits : Permits os)
    (generic : start.type = .generic)
    (separate : Separate os start)
    (setup : TransferJob.SameSetup start job)
    (holds : Holds os start contents number (contents number) (job, volume)) :
    ∀ earlier < number + 1, Arrived os start contents (job.modifyTime os volume).disk earlier := by
  obtain ⟨stream, download, _, downloadSpot, _, _, collected, _⟩ := holds.streams
  obtain ⟨entry, found, _⟩ := spot_eq_some.mp downloadSpot
  have current : job.currentEntry = some entry := by
    rw [TransferJob.currentEntry, setup.files, holds.fileNum, asUsize_natCast, found]
  obtain ⟨final, foundDownload, digest, finalSpot, foundSpot, digestSpot, startSpots⟩ :=
    separate.spots found
  obtain rfl : download = foundDownload := Option.some.inj (downloadSpot.symm.trans foundSpot)
  have spots : Spots os (job.pathOf os.style entry) final download digest := by
    rw [setup.pathOf_eq]
    exact startSpots
  have isGeneric : job.type = .generic := setup.type.trans generic
  intro earlier before
  by_cases same : earlier = number
  · subst same
    obtain ⟨isFinal, noDownload, noDigest⟩ :=
      TransferJob.modifyTime_publishes permits isGeneric current spots collected
    intro other isEntry
    obtain rfl : entry = other := Option.some.inj (found.symm.trans isEntry)
    simp only [fileAt, startSpots.final_located, startSpots.download_located,
      startSpots.digest_located, Option.bind_some]
    exact ⟨isFinal, by rw [Disk.file, noDownload]; rfl, by rw [Disk.file, noDigest]; rfl⟩
  · refine (holds.arrived earlier (by omega)).of_same separate ?_
    intro role location here
    exact TransferJob.modifyTime_elsewhere isGeneric current spots
      (separate.ne here finalSpot (.inr same)) (separate.ne here downloadSpot (.inr same))
      (separate.ne here digestSpot (.inr same))

/-- A block for another file starts to collect that file. -/
theorem Holds.of_opening
    (steady : Steady os)
    (generic : start.type = .generic)
    (separate : Separate os start)
    (setup : TransferJob.SameSetup start job)
    (own : block.id = start.id)
    (fileNum : block.fileNum = number)
    (inside : number < start.files.length)
    (opens : job.Opens block.fileNum)
    (arrived : ∀ earlier < number,
      Arrived os start contents (job.modifyTime os volume).disk earlier) :
    Holds os start contents number (TransferJob.payload codec block)
      (receive os codec (job, volume) block) := by
  have isNumber : asUsize block.fileNum = number := by rw [fileNum, asUsize_natCast]
  obtain ⟨entry, found⟩ : ∃ entry, start.files[number]? = some entry :=
    ⟨_, List.getElem?_eq_getElem inside⟩
  have foundHere : job.files[asUsize block.fileNum]? = some entry := by
    rw [isNumber, setup.files, found]
  obtain ⟨final, download, digest, _, downloadSpot, digestSpot, startSpots⟩ := separate.spots found
  have spots : Spots os (job.pathOf os.style entry) final download digest := by
    rw [setup.pathOf_eq]
    exact startSpots
  obtain ⟨inode, succeeds, opened, named, empty, openElsewhere⟩ :=
    TransferJob.openFile_steady steady (setup.type.trans generic) spots block.fileNum volume
  obtain ⟨_, streamAfter, numberAfter, names, appended, writeElsewhere⟩ :=
    TransferJob.writeData_steady
      { job with fileNum := block.fileNum, dataStream := some ⟨inode, 0, true⟩ }
      (job.openFile os block.fileNum entry volume).volume codec steady rfl rfl named empty rfl block
  have received : receive os codec (job, volume) block =
      ((TransferJob.writeData os codec
          { job with fileNum := block.fileNum, dataStream := some ⟨inode, 0, true⟩ } block
          (job.openFile os block.fileNum entry volume).volume).job,
        (TransferJob.writeData os codec
          { job with fileNum := block.fileNum, dataStream := some ⟨inode, 0, true⟩ } block
          (job.openFile os block.fileNum entry volume).volume).volume) := by
    rw [receive, TransferJob.write_of_opening (own.trans setup.id.symm) foundHere opens succeeds,
      opened]
  rw [received]
  refine ⟨numberAfter.trans fileNum, ⟨_, download, streamAfter, downloadSpot, rfl, ?_, ?_, ?_⟩, ?_⟩
  · rw [names]
    exact named
  · exact appended
  · rfl
  · intro earlier before
    refine (arrived earlier before).of_same separate ?_
    intro role location here
    have notDownload := separate.ne here downloadSpot (.inr (Nat.ne_of_lt before))
    have notDigest := separate.ne here digestSpot (.inr (Nat.ne_of_lt before))
    exact (openElsewhere location notDownload notDigest).trans
      (writeElsewhere location notDownload)

/-- A block for the open file is appended to what was collected of it. -/
theorem Holds.append
    (steady : Steady os)
    (separate : Separate os start)
    (setup : TransferJob.SameSetup start job)
    (holds : Holds os start contents number bytes (job, volume))
    (own : block.id = start.id)
    (fileNum : block.fileNum = number) :
    Holds os start contents number (bytes ++ TransferJob.payload codec block)
      (receive os codec (job, volume) block) := by
  obtain ⟨stream, download, streaming, downloadSpot, writable, named, collected, atEnd⟩ :=
    holds.streams
  obtain ⟨entry, found, _⟩ := spot_eq_some.mp downloadSpot
  have isNumber : asUsize block.fileNum = number := by rw [fileNum, asUsize_natCast]
  have foundHere : job.files[asUsize block.fileNum]? = some entry := by
    rw [isNumber, setup.files, found]
  have current : job.fileNum = number := holds.fileNum
  have isOpen : ¬job.Opens block.fileNum := by
    simp [TransferJob.Opens, fileNum, current, show job.dataStream = some stream from streaming]
  obtain ⟨_, streamAfter, numberAfter, names, appended, elsewhere⟩ :=
    TransferJob.writeData_steady job volume codec steady streaming writable named collected atEnd
      block
  have received : receive os codec (job, volume) block =
      ((TransferJob.writeData os codec job block volume).job,
        (TransferJob.writeData os codec job block volume).volume) := by
    rw [receive, TransferJob.write_of_streaming (own.trans setup.id.symm) foundHere isOpen]
  rw [received]
  refine ⟨numberAfter.trans holds.fileNum,
    ⟨_, download, streamAfter, downloadSpot, writable, ?_, appended, rfl⟩, ?_⟩
  · rw [names]
    exact named
  · intro earlier before
    refine (holds.arrived earlier before).of_same separate ?_
    intro role location here
    exact elsewhere location (separate.ne here downloadSpot (.inr (Nat.ne_of_lt before)))

/-- What was collected of a file before and after a block stands for the cursor's next place. -/
theorem Received.of_holds
    {state : TransferJob × Volume String Location}
    {cursor : Cursor}
    (holds : Holds os start contents cursor.number
      ((contents cursor.number).take cursor.position ++ cursor.chunk contents) state) :
    Received os start contents state (cursor.next contents) := by
  by_cases ends : cursor.chunk contents = []
  · rw [ends, List.append_nil, Cursor.take_of_chunk_nil ends] at holds
    rw [Cursor.next, if_pos ends]
    exact holds
  · rw [Cursor.take_append_chunk] at holds
    rw [Cursor.next, if_neg ends]
    have more : cursor.position + (cursor.chunk contents).length =
        cursor.position + (cursor.chunk contents).length - 1 + 1 := by
      have := List.length_pos_of_ne_nil ends
      omega
    rw [more] at holds ⊢
    exact (received_within state _ _).mpr holds

/-- A receiver keeps up with the blocks. -/
theorem receive_received
    (permits : Permits os)
    (generic : start.type = .generic)
    (separate : Separate os start)
    {cursor : Cursor}
    (setup : TransferJob.SameSetup start job)
    (received : Received os start contents (job, volume) cursor)
    (inside : cursor.number < start.files.length)
    (carries : Carries codec start.id contents cursor block) :
    Received os start contents (receive os codec (job, volume) block) (cursor.next contents) := by
  refine .of_holds ?_
  rw [← carries.payload]
  obtain ⟨number, position⟩ := cursor
  match number, position with
  | 0, 0 =>
      -- the first block of all opens its file because no file is open
      have opens : job.Opens block.fileNum := .inr received
      exact .of_opening permits.steady generic separate setup carries.id carries.fileNum inside
        opens (fun earlier before => absurd before (Nat.not_lt_zero earlier))
  | number + 1, 0 =>
      have current : job.fileNum = number := Holds.fileNum received
      have next : block.fileNum = (number + 1 : Nat) := carries.fileNum
      have opens : job.Opens block.fileNum := by
        left
        rw [next, current, asUsize_natCast, asUsize_natCast]
        omega
      exact .of_opening permits.steady generic separate setup carries.id carries.fileNum inside
        opens (Holds.publishes permits generic separate setup received)
  | number, position + 1 =>
      exact Holds.append permits.steady separate setup ((received_within _ _ _).mp received)
        carries.id carries.fileNum

/-- Once every file was sent, publishing the last one lets all of them arrive. -/
theorem Received.arrives
    (permits : Permits os)
    (generic : start.type = .generic)
    (separate : Separate os start)
    (setup : TransferJob.SameSetup start job)
    (received : Received os start contents (job, volume) ⟨start.files.length, 0⟩)
    (number : Nat) :
    Arrived os start contents (job.modifyTime os volume).disk number := by
  intro entry found
  have inside := (List.getElem?_eq_some_iff.mp found).1
  cases count : start.files.length with
  | zero => omega
  | succ last =>
      rw [count] at received
      exact Holds.publishes permits generic separate setup received number (by omega) entry found

end Receiver

section Transfer

variable {Source Destination : Type} [DecidableEq Source] [DecidableEq Destination]

/-- A confirmation that takes the file from its start. -/
def FileTransferSendConfirmRequest.fromStart (request : FileTransferSendConfirmRequest) : Bool :=
  match request.union with
  | some (.skip skipped) => !skipped
  | some (.offsetBlk offset) => offset == 0
  | none => true

/-- What the peer of a job may answer while nothing is skipped or resumed. -/
def ConfirmsFromStart (id : Int) : ReadEvent → Prop
  | .tick => True
  | .sendConfirm request => request.id = id → request.fromStart = true

instance (id : Int) : (event : ReadEvent) → Decidable (ConfirmsFromStart id event)
  | .tick => inferInstanceAs (Decidable True)
  | .sendConfirm request => inferInstanceAs (Decidable (request.id = id → _))

variable {source : Os Source} {destination : Os Destination} {codec : Codec}
variable {disk : Disk Source} {reading writing : TransferJob} {id : Int}
variable {reader : Reader Source} {receiver : TransferJob × Volume String Destination}

/-- Two jobs that make up a transfer, and systems on which nothing fails. -/
structure Paired
    (source : Os Source)
    (destination : Os Destination)
    (codec : Codec)
    (disk : Disk Source)
    (reading writing : TransferJob) : Prop where
  inverse : ∀ data, codec.decompress (codec.compress data) = data
  readable : Readable source disk reading
  permits : Permits destination
  readGeneric : reading.type = .generic
  writeGeneric : writing.type = .generic
  id : writing.id = reading.id
  files : writing.files = reading.files
  separate : Separate destination writing

/-- The two ends of a transfer agree on where it stands; a job that was removed has sent
everything. -/
structure Linked
    (source : Os Source)
    (destination : Os Destination)
    (codec : Codec)
    (disk : Disk Source)
    (reading writing : TransferJob)
    (reader : Reader Source)
    (receiver : TransferJob × Volume String Destination) : Prop where
  unchanged : reader.volume.disk = disk
  setup : TransferJob.SameSetup writing receiver.1
  cursors :
    (∃ job cursor, ownJobs reading.id reader.readJobs = [job] ∧
      Sending source disk reading cursor job ∧
      Received destination writing (contentsOf source disk reading) receiver cursor) ∨
    (ownJobs reading.id reader.readJobs = [] ∧
      Received destination writing (contentsOf source disk reading) receiver
        ⟨reading.files.length, 0⟩)

/-- A confirmation of the own job changes only what was confirmed. -/
theorem confirm_sending
    {job : TransferJob}
    {cursor : Cursor}
    {volume : Volume String Source}
    {request : FileTransferSendConfirmRequest}
    {after : TransferJob × Volume String Source}
    (sending : Sending source disk reading cursor job)
    (fromStart : request.fromStart = true)
    (confirmed : job.confirm source request volume = some after) :
    Sending source disk reading cursor after.1 := by
  have flags := sending.of_flags (TransferJob.setFileConfirmed_setup job true) rfl rfl
  unfold TransferJob.confirm at confirmed
  split at confirmed
  · rw [← Option.some.inj confirmed]
    exact sending
  · split at confirmed
    · next skips =>
        rw [FileTransferSendConfirmRequest.fromStart, skips] at fromStart
        cases fromStart
    · rw [← Option.some.inj confirmed]
      exact flags
    · next offset resumes =>
        have zero : offset = 0 := by
          simpa [FileTransferSendConfirmRequest.fromStart, resumes] using fromStart
        rw [zero, if_neg (by decide)] at confirmed
        rw [← Option.some.inj confirmed]
        exact flags
    · rw [← Option.some.inj confirmed]
      exact sending

/-- What a tick sends keeps both ends together. -/
theorem Linked.tick
    (paired : Paired source destination codec disk reading writing)
    {jobs : List TransferJob}
    {volume : Volume String Source}
    {sent : List FileMessage}
    (linked : Linked source destination codec disk reading writing ⟨jobs, volume, sent, false⟩
      receiver) :
    Linked source destination codec disk reading writing
      ⟨(handleReadJobs source codec jobs volume).1, (handleReadJobs source codec jobs volume).2.1,
        sent ++ (handleReadJobs source codec jobs volume).2.2, false⟩
      (run (receive destination codec) receiver
        (blocksOf reading.id (handleReadJobs source codec jobs volume).2.2)) := by
  obtain ⟨unchanged, setup, ⟨job, cursor, only, sending, received⟩ | ⟨removed, received⟩⟩ := linked
  · obtain ⟨sameDisk, before, middle, opened, beforeDisk, middleDisk, isOpened, outcome⟩ :=
      handleReadJobs_own source codec only volume
    obtain ⟨sendingInit, ready⟩ := initDataStream_ready paired.readable paired.readGeneric sending
      (beforeDisk.trans unchanged)
    have sendingOpened : Sending source disk reading cursor opened := by
      rw [isOpened]
      split
      · exact sending
      · exact sendingInit
    rcases outcome with ⟨waits, noBlocks⟩ | ⟨notLast, blocks, left⟩
    · rw [noBlocks]
      exact ⟨sameDisk.trans unchanged, setup, .inl ⟨opened, cursor, waits, sendingOpened, received⟩⟩
    · rw [notLast] at isOpened
      rw [if_neg (by decide)] at isOpened
      subst isOpened
      rw [blocks]
      rcases readTurn_sending paired.inverse paired.readable.permits sendingInit ready
          (middleDisk.trans unchanged) with
          ⟨noBlocks, still, ends⟩ | ⟨block, oneBlock, unfinished, inside, carries, moved⟩
      · rw [noBlocks]
        refine ⟨sameDisk.trans unchanged, setup, ?_⟩
        rcases left with stays | ⟨removed, finished⟩
        · exact .inl ⟨_, cursor, stays, still, received⟩
        · rw [still.cursor_eq (ends finished)] at received
          exact .inr ⟨removed, received⟩
      · rw [oneBlock]
        refine ⟨sameDisk.trans unchanged,
          setup.trans (TransferJob.write_setup destination codec _ _ block), .inl ?_⟩
        rcases left with stays | ⟨_, finished⟩
        · refine ⟨_, _, stays, moved, ?_⟩
          refine receive_received paired.permits paired.writeGeneric paired.separate setup
            received ?_ ?_
          · rw [paired.files]
            exact inside
          · rw [paired.id]
            exact carries
        · rw [unfinished] at finished
          cases finished
  · obtain ⟨sameDisk, still, noBlocks⟩ := handleReadJobs_others source codec removed volume
    rw [noBlocks]
    exact ⟨sameDisk.trans unchanged, setup, .inr ⟨still, received⟩⟩

/-- An answer of the peer keeps both ends together. -/
theorem Linked.confirms
    {jobs : List TransferJob}
    {job after : TransferJob}
    {volume later : Volume String Source}
    {sent : List FileMessage}
    {request : FileTransferSendConfirmRequest}
    (fromStart : request.id = reading.id → request.fromStart = true)
    (found : getJob request.id jobs = some job)
    (confirmed : job.confirm source request volume = some (after, later))
    (linked : Linked source destination codec disk reading writing ⟨jobs, volume, sent, false⟩
      receiver) :
    Linked source destination codec disk reading writing
      ⟨setJob request.id after jobs, later, sent, false⟩ receiver := by
  have sameDisk := TransferJob.confirm_disk source job volume confirmed
  have sameId : after.id = request.id :=
    (TransferJob.confirm_setup confirmed).id.trans (getJob_mem found).2
  obtain ⟨unchanged, setup, ⟨current, cursor, only, sending, received⟩ | ⟨removed, received⟩⟩ :=
    linked
  · refine ⟨sameDisk.trans unchanged, setup, .inl ?_⟩
    by_cases own : request.id = reading.id
    · have isOwn : job = current := by
        rw [own, getJob_eq_head, only] at found
        exact (Option.some.inj found).symm
      subst isOwn
      refine ⟨after, cursor, ?_, confirm_sending sending (fromStart own) confirmed, received⟩
      rw [own]
      exact ownJobs_setJob only (sameId.trans own)
    · refine ⟨current, cursor, ?_, sending, received⟩
      rw [ownJobs_setJob_of_ne own sameId]
      exact only
  · refine ⟨sameDisk.trans unchanged, setup, .inr ⟨?_, received⟩⟩
    have other : request.id ≠ reading.id := by
      intro own
      rw [own, getJob_eq_head, removed] at found
      cases found
    rw [ownJobs_setJob_of_ne other sameId]
    exact removed

/-- The blocks that a step of the sender adds keep both ends together. -/
theorem Linked.step
    (paired : Paired source destination codec disk reading writing)
    (linked : Linked source destination codec disk reading writing reader receiver)
    {event : ReadEvent}
    (fromStart : ConfirmsFromStart reading.id event) :
    ∃ added, (reader.step source codec event).sent = reader.sent ++ added ∧
      Linked source destination codec disk reading writing (reader.step source codec event)
        (run (receive destination codec) receiver (blocksOf reading.id added)) := by
  obtain ⟨jobs, volume, sent, panicked⟩ := reader
  cases panicked with
  | true => exact ⟨[], (List.append_nil _).symm, linked⟩
  | false =>
      cases event with
      | tick =>
          exact ⟨_, rfl, linked.tick paired⟩
      | sendConfirm request =>
          refine ⟨[], ?_⟩
          rw [List.append_nil, show blocksOf reading.id [] = [] from rfl, run_nil]
          cases found : getJob request.id jobs with
          | none => simpa [Reader.step, found] using linked
          | some job =>
              cases confirmed : job.confirm source request volume with
              | none =>
                  -- a resumed file without an entry stops the sender for good
                  simp only [Reader.step, found, confirmed, Bool.false_eq_true, if_false, true_and]
                  exact ⟨linked.unchanged, linked.setup, linked.cursors⟩
              | some done =>
                  simp only [Reader.step, found, confirmed, Bool.false_eq_true, if_false, true_and]
                  exact linked.confirms fromStart found confirmed

/-- Whatever the sender does, both ends stay together. -/
theorem Linked.run
    (paired : Paired source destination codec disk reading writing)
    {events : List ReadEvent}
    (linked : Linked source destination codec disk reading writing reader receiver)
    (fromStart : ∀ event ∈ events, ConfirmsFromStart reading.id event) :
    ∃ added, (run (Reader.step source codec) reader events).sent = reader.sent ++ added ∧
      Linked source destination codec disk reading writing
        (run (Reader.step source codec) reader events)
        (run (receive destination codec) receiver (blocksOf reading.id added)) := by
  induction events generalizing reader receiver with
  | nil => exact ⟨[], (List.append_nil _).symm, linked⟩
  | cons event events ih =>
      obtain ⟨first, firstSent, linkedAfter⟩ := linked.step paired
        (fromStart event List.mem_cons_self)
      obtain ⟨rest, restSent, linkedEnd⟩ := ih linkedAfter
        fun other member => fromStart other (List.mem_cons_of_mem event member)
      refine ⟨first ++ rest, ?_, ?_⟩
      · rw [run_cons, restSent, firstSent, List.append_assoc]
      · rw [run_cons, blocksOf_append, run_append]
        exact linkedEnd

/-- The entries of two files to send. -/
def outgoing : List FileEntry :=
  [⟨"a", 100⟩, ⟨"b", 200⟩]

/-- The disk that has them, the second one empty. -/
def outbox : Disk String :=
  (((Disk.empty : Disk String).create "/out/a" 30).setFile 0 ⟨[1, 2, 3], 50⟩).create "/out/b" 60

/-- The ticks and answers that send both files from their start. -/
def exchange : List ReadEvent :=
  [.tick, .sendConfirm ⟨7, 0, some (.offsetBlk 0)⟩, .tick, .tick, .tick,
    .sendConfirm ⟨7, 1, some (.skip false)⟩, .tick, .tick]

end Transfer

end Fs
end OneDesk
