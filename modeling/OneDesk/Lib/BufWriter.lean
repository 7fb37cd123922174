import OneDesk.Lib.Disk

/-!
# Buffered writers

A writer collects bytes in a buffer before it gives them to its file.  What has been written is
the file followed by the buffer, so nothing but a flush can lose bytes.  The rules are those of the
Rust standard library's `BufWriter`.
-/

namespace OneDesk
namespace Lib

/-- A file that is written at its end, and the bytes that it has not got yet. -/
structure BufWriter where
  handle : Handle
  pending : List UInt8 := []
  deriving DecidableEq

namespace BufWriter

variable {Path Location : Type} [DecidableEq Location]
variable (host : Host Path Location)

/-- Success, the writer and the disk after an operation of a writer. -/
abbrev Result (Path Location : Type) := Bool × BufWriter × Volume Path Location

/-- Give bytes to the file. -/
def append
    (writer : BufWriter)
    (data : List UInt8)
    (volume : Volume Path Location) : Result Path Location :=
  let written := perform host volume (.write writer.handle data)
  if written.1 then
    (true,
      { writer with
        handle := { writer.handle with position := writer.handle.position + data.length } },
      written.2)
  else (false, writer, written.2)

/-- Give the buffer to the file. -/
def flush (writer : BufWriter) (volume : Volume Path Location) : Result Path Location :=
  if writer.pending = [] then (true, writer, volume)
  else
    let appended := append host writer writer.pending volume
    if appended.1 then (true, { appended.2.1 with pending := [] }, appended.2.2) else appended

/-- Empty the buffer when some bytes do not fit into it. -/
def spill
    (capacity : Nat)
    (writer : BufWriter)
    (data : List UInt8)
    (volume : Volume Path Location) : Result Path Location :=
  if capacity < writer.pending.length + data.length then flush host writer volume
  else (true, writer, volume)

/-- Write some bytes; what is larger than the buffer goes past it. -/
def write
    (capacity : Nat)
    (writer : BufWriter)
    (data : List UInt8)
    (volume : Volume Path Location) : Result Path Location :=
  let spilled := spill host capacity writer data volume
  if spilled.1 then
    if capacity ≤ data.length then append host spilled.2.1 data spilled.2.2
    else (true, { spilled.2.1 with pending := spilled.2.1.pending ++ data }, spilled.2.2)
  else spilled

/-- A writer that is dropped tries to flush. -/
def drop (writer : BufWriter) (volume : Volume Path Location) : Volume Path Location :=
  (flush host writer volume).2.2

/-- The file and the buffer of a writer hold some bytes. -/
structure Writes (writer : BufWriter) (disk : Disk Location) (bytes : List UInt8) : Prop where
  writable : writer.handle.writable = true
  position : writer.handle.position = (disk.files writer.handle.inode).bytes.length
  contents : (disk.files writer.handle.inode).bytes ++ writer.pending = bytes

variable {host} {writer : BufWriter} {volume : Volume Path Location} {bytes : List UInt8}

/-- An operation has changed no name, and the writer has kept its file. -/
structure Keeps
    (writer : BufWriter)
    (volume : Volume Path Location)
    (result : Result Path Location) : Prop where
  names : result.2.2.disk.names = volume.disk.names
  inode : result.2.1.handle.inode = writer.handle.inode
  later : volume.disk.Later result.2.2.disk

theorem Keeps.refl (succeeds : Bool) : Keeps writer volume (succeeds, writer, volume) :=
  ⟨rfl, rfl, .refl _⟩

variable (host) in
theorem append_keeps (writer : BufWriter) (data : List UInt8) (volume : Volume Path Location) :
    Keeps writer volume (append host writer data volume) := by
  unfold append
  dsimp only
  split
  · exact ⟨perform_write_names .., rfl, perform_later ..⟩
  · exact ⟨perform_write_names .., rfl, perform_later ..⟩

variable (host) in
theorem flush_keeps (writer : BufWriter) (volume : Volume Path Location) :
    Keeps writer volume (flush host writer volume) := by
  have appended := append_keeps host writer writer.pending volume
  unfold flush
  split
  · exact .refl true
  · dsimp only
    split
    · exact ⟨appended.names, appended.inode, appended.later⟩
    · exact appended

variable (host) in
theorem spill_keeps
    (capacity : Nat)
    (writer : BufWriter)
    (data : List UInt8)
    (volume : Volume Path Location) :
    Keeps writer volume (spill host capacity writer data volume) := by
  unfold spill
  split
  · exact flush_keeps ..
  · exact .refl true

variable (host) in
theorem write_keeps
    (capacity : Nat)
    (writer : BufWriter)
    (data : List UInt8)
    (volume : Volume Path Location) :
    Keeps writer volume (write host capacity writer data volume) := by
  have spilled := spill_keeps host capacity writer data volume
  unfold write
  dsimp only
  split
  · split
    · have appended := append_keeps host
        (spill host capacity writer data volume).2.1 data
        (spill host capacity writer data volume).2.2
      exact ⟨appended.names.trans spilled.names, appended.inode.trans spilled.inode,
        spilled.later.trans appended.later⟩
    · exact ⟨spilled.names, spilled.inode, spilled.later⟩
  · exact spilled

/-- Writes to a file keep what holds of a disk. -/
def Preserves
    (host : Host Path Location)
    (Holds : Volume Path Location → Prop)
    (inode : Nat) : Prop :=
  ∀ volume handle data, handle.inode = inode → Holds volume →
    Holds (perform host volume (.write handle data)).2

variable {Holds : Volume Path Location → Prop}

theorem Preserves.append
    (preserves : Preserves host Holds writer.handle.inode)
    (data : List UInt8)
    (holds : Holds volume) :
    Holds (BufWriter.append host writer data volume).2.2 := by
  unfold BufWriter.append
  dsimp only
  split
  · exact preserves volume writer.handle data rfl holds
  · exact preserves volume writer.handle data rfl holds

theorem Preserves.flush
    (preserves : Preserves host Holds writer.handle.inode)
    (holds : Holds volume) :
    Holds (BufWriter.flush host writer volume).2.2 := by
  have appended := preserves.append writer.pending holds
  unfold BufWriter.flush
  split
  · exact holds
  · dsimp only
    split
    · exact appended
    · exact appended

theorem Preserves.write
    (preserves : Preserves host Holds writer.handle.inode)
    (capacity : Nat)
    (data : List UInt8)
    (holds : Holds volume) :
    Holds (BufWriter.write host capacity writer data volume).2.2 := by
  have spilled : Holds (spill host capacity writer data volume).2.2 := by
    unfold spill
    split
    · exact preserves.flush holds
    · exact holds
  have same := (spill_keeps host capacity writer data volume).inode
  unfold BufWriter.write
  dsimp only
  split
  · split
    · exact (same.symm ▸ preserves).append data spilled
    · exact spilled
  · exact spilled

theorem drop_empty (empty : writer.pending = []) : drop host writer volume = volume := by
  simp [drop, flush, empty]

/-- Bytes that the file has got are at its end. -/
theorem append_file
    {data : List UInt8}
    (writable : writer.handle.writable = true)
    (atEnd : writer.handle.position = (volume.disk.files writer.handle.inode).bytes.length)
    (succeeds : (append host writer data volume).1 = true) :
    (append host writer data volume).2.1 =
        { writer with
          handle := { writer.handle with position := writer.handle.position + data.length } } ∧
      ((append host writer data volume).2.2.disk.files writer.handle.inode).bytes =
        (volume.disk.files writer.handle.inode).bytes ++ data := by
  rcases perform_cases host volume (.write writer.handle data) with ⟨fails, _⟩ | ⟨done, applies⟩
  · simp [append, fails] at succeeds
  · simp only [Operation.apply, writable, if_true, Option.some.injEq] at applies
    simp only [append, done, if_true, true_and]
    rw [← applies]
    simp [Disk.written, atEnd, overwrite_length]

/-- A flush that succeeds leaves the file with all that was written. -/
theorem Writes.flush
    (writes : writer.Writes volume.disk bytes)
    (succeeds : (flush host writer volume).1 = true) :
    (flush host writer volume).2.1.pending = [] ∧
      (flush host writer volume).2.1.Writes (flush host writer volume).2.2.disk bytes := by
  unfold BufWriter.flush at succeeds ⊢
  split
  · next empty => exact ⟨empty, writes⟩
  · next nonempty =>
      simp only [if_neg nonempty] at succeeds
      have appended : (append host writer writer.pending volume).1 = true := by
        by_contra fails
        simp [fails] at succeeds
      obtain ⟨moved, file⟩ := append_file writes.writable writes.position appended
      simp only [appended, if_true, true_and]
      rw [moved]
      refine ⟨writes.writable, ?_, ?_⟩
      · simp [file, writes.position]
      · simpa [file] using writes.contents

/-- A write that succeeds comes after what was there. -/
theorem Writes.write
    {capacity : Nat}
    {data : List UInt8}
    (writes : writer.Writes volume.disk bytes)
    (succeeds : (write host capacity writer data volume).1 = true) :
    (write host capacity writer data volume).2.1.Writes
      (write host capacity writer data volume).2.2.disk (bytes ++ data) := by
  have spills : (spill host capacity writer data volume).1 = true := by
    by_contra fails
    simp [BufWriter.write, fails] at succeeds
  have spilled : (spill host capacity writer data volume).2.1.Writes
      (spill host capacity writer data volume).2.2.disk bytes := by
    unfold spill at spills ⊢
    split
    · next full =>
        rw [if_pos full] at spills
        exact (writes.flush spills).2
    · exact writes
  unfold BufWriter.write at succeeds ⊢
  simp only [spills, if_true] at succeeds ⊢
  split
  · next large =>
      simp only [if_pos large] at succeeds
      -- what is larger than the buffer finds it empty
      have empty : (spill host capacity writer data volume).2.1.pending = [] := by
        unfold spill at spills ⊢
        split
        · next full =>
            rw [if_pos full] at spills
            exact (writes.flush spills).1
        · show writer.pending = []
          exact List.length_eq_zero_iff.mp (by omega)
      obtain ⟨moved, file⟩ := append_file spilled.writable spilled.position succeeds
      have contents := spilled.contents
      rw [empty, List.append_nil] at contents
      rw [moved]
      refine ⟨spilled.writable, ?_, ?_⟩
      · simp [file, spilled.position]
      · simp [file, contents, empty]
  · refine ⟨spilled.writable, spilled.position, ?_⟩
    rw [← spilled.contents, List.append_assoc]

end BufWriter

end Lib
end OneDesk
