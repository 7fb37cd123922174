import OneDesk.Fs.Answer

/-!
# Files that cannot be read

The reading side goes on after a file that it could not read, while the writing
side gives the whole job up.  Both agree about the other files as long as no
file is sent whole after an error, or is still to be published when one comes.
-/

namespace OneDesk
namespace Fs

open Lib

variable {Source Destination : Type} [DecidableEq Source] [DecidableEq Destination]
variable {setting : Setting Source Destination} {disk : Disk Source}
variable {reading writing : TransferJob} {first : Nat} {behind ahead : Stage}
variable {transfer : Transfer Source Destination}

/-- The oldest message comes when both ends still agree. -/
def Heeds
    (setting : Setting Source Destination)
    (disk : Disk Source)
    (reading : TransferJob)
    (transfer : Transfer Source Destination) : FileMessage → Prop
  | .block block =>
      TransferJob.payload setting.codec block = [] → ∀ message ∈ transfer.handled, ¬Troubled message
  | .digest digest =>
      Meets setting reading transfer digest ∧ LeftPart setting disk reading transfer digest
  | .error _ error _ =>
      error ≠ skipError → ∀ job ∈ transfer.manager.writeJobs, job.dataStream ≠ none →
        ¬Completes setting.codec transfer.handled (asUsize job.fileNum)
  | .done _ _ => True
  | .sendConfirm _ => True

/-- A file that the peer is asked about can be opened, unless it is the last one, and no message
comes that ends the write job for more than the file that it is about. -/
def Transfer.Careful
    (setting : Setting Source Destination)
    (disk : Disk Source)
    (reading : TransferJob)
    (transfer : Transfer Source Destination) : Transfer.Event → Prop
  | .tick =>
      ∀ job ∈ transfer.reader.readJobs, job.enableOverwriteDetection = true →
        asUsize job.fileNum + 1 < job.files.length →
          Askable setting.source transfer.reader.volume job
  | .deliver _ => ∀ message ∈ transfer.way.head?, Heeds setting disk reading transfer message

theorem Transfer.careful_deliver
    (message : FileMessage)
    (oldest : transfer.way.head? = some message)
    (heeds : Heeds setting disk reading transfer message)
    (decision : Decision) :
    transfer.Careful setting disk reading (.deliver decision) := by
  intro other isOldest
  obtain rfl := Option.some.inj (oldest.symm.trans isOldest)
  exact heeds

theorem Transfer.careful_idle
    (idle : transfer.way = [])
    (decision : Decision) :
    transfer.Careful setting disk reading (.deliver decision) := by
  intro message oldest
  rw [idle] at oldest
  cases oldest

/-- Both ends stay in step, and the files that nothing is sent of yet are left alone. -/
theorem Afoot.step
    (matched : Matched setting reading writing first)
    (afoot : Afoot setting disk reading writing first behind transfer ahead)
    {event : Transfer.Event}
    (careful : transfer.Careful setting disk reading event) :
    ∃ next final,
      Afoot setting disk reading writing first next (transfer.step setting event) final ∧
      Spares setting writing behind next transfer (transfer.step setting event) := by
  cases event with
  | tick =>
      obtain ⟨after, onwards, _⟩ := afoot.tick matched careful
      exact ⟨behind, after, onwards, .of_disk (fun _ awaits => awaits) rfl⟩
  | deliver decision =>
      cases way : transfer.way with
      | nil =>
          have still : transfer.step setting (.deliver decision) = transfer := by
            simp only [Transfer.step, way]
          rw [still]
          exact ⟨behind, ahead, afoot, .of_disk (fun _ awaits => awaits) rfl⟩
      | cons message rest =>
          have heeds : Heeds setting disk reading transfer message :=
            careful message (by simp [way])
          cases message with
          | block block =>
              obtain ⟨next, onwards, spares⟩ := afoot.block matched way heeds decision
              exact ⟨next, ahead, onwards, spares⟩
          | digest digest => exact afoot.digest matched way heeds.1 heeds.2 decision
          | done id fileNum =>
              obtain ⟨next, onwards, spares⟩ := afoot.done matched way decision
              exact ⟨next, ahead, onwards, spares⟩
          | error id error fileNum =>
              obtain ⟨next, onwards, spares⟩ := afoot.error matched way heeds decision
              exact ⟨next, ahead, onwards, spares⟩
          | sendConfirm request =>
              obtain ⟨next, takes, _⟩ := afoot.oldest way
              cases takes

/-- What was sent whole is there after the end, and a job is shown as done when each of its files
is there, was skipped or was shown to have failed. -/
structure Accounts
    (setting : Setting Source Destination)
    (disk : Disk Source)
    (reading writing : TransferJob)
    (first : Nat)
    (transfer : Transfer Source Destination) : Prop where
  complete : ∀ (id fileNum : Int), .done id fileNum ∈ transfer.handled →
    ∀ number, Completes setting.codec transfer.handled number →
      Delivered setting disk reading writing transfer.manager.volume.disk number
  shown : ∀ (id fileNum : Int), .jobDone id fileNum ∈ transfer.shown → ∀ number, first ≤ number →
    number < reading.files.length → Accounted setting disk reading writing transfer number

/-- Both ends in step lose nothing. -/
theorem Afoot.accounts
    (afoot : Afoot setting disk reading writing first behind transfer ahead) :
    Accounts setting disk reading writing first transfer := by
  have gone : behind.phase = .ended → Gone setting disk reading writing first behind transfer :=
    fun ended => afoot.writes.resolve_left fun working => working.going ended
  constructor
  · intro id fileNum handled
    exact (gone (afoot.finished id fileNum handled)).completed
  · intro id fileNum told
    exact (gone (afoot.closed id fileNum told)).closed id fileNum told

/-- A job that sends the two files of `/out`. -/
def twoFilesRead : TransferJob :=
  TransferJob.newRead 7 .generic "/out" 0 outgoing false

/-- A download in which every operation succeeds that can. -/
def plainDownload : Setting String String where
  direction := .download
  source := Os.plain .unix
  destination := Os.plain .unix
  codec := plainCodec
  supportsResume := false
  errorText := fun _ => "failed"

theorem twoFiles_matched : Matched plainDownload twoFilesRead twoFiles 0 where
  inverse := fun _ => rfl
  permits := fun _ _ => rfl
  separate := twoFiles_separate
  readGeneric := rfl
  writeGeneric := rfl
  notLast := rfl
  id := rfl
  length := rfl
  readFirst := rfl
  writeFirst := rfl
  readIdle := rfl
  writeIdle := rfl
  notWaiting := rfl
  notSkipped := rfl

/-- A disk that has the second file only. -/
def secondOnly : Disk String :=
  ((Disk.empty : Disk String).create "/out/b" 60).setFile 0 ⟨[4], 60⟩

/-- Four ticks of the reading side, and then up to five messages are handled. -/
def fourTicks : List Transfer.Event :=
  List.replicate 4 .tick ++ List.replicate 5 (.deliver (.strategy true))

end Fs
end OneDesk
