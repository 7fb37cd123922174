import Mathlib.Data.List.Basic
import Mathlib.Logic.Function.Basic

/-!
# A disk of plain files

A disk maps locations to files through inodes, so that a handle opened before
a rename keeps writing to the file it was opened on.  Programs reach it by
paths: a host says which location a path names, and it may refuse any
operation for reasons of its own.  Directories, links and other programs are
not part of the model.
-/

namespace OneDesk
namespace Lib

/-- The contents of a file and the time it was last modified. -/
structure File where
  bytes : List UInt8
  modified : Int
  deriving DecidableEq

/-- A directory of names and the files behind them. -/
structure Disk (Location : Type) where
  names : Location → Option Nat
  files : Nat → File
  next : Nat
  /-- Every named file has been allocated. -/
  allocated : ∀ location inode, names location = some inode → inode < next
  /-- No file has two names. -/
  single : ∀ one other inode,
    names one = some inode → names other = some inode → one = other

/-- An open file: where the next byte goes and whether writing is allowed. -/
structure Handle where
  inode : Nat
  position : Nat
  writable : Bool
  deriving DecidableEq

/-- What a program may ask of a disk. -/
inductive Operation (Path : Type) where
  | stat (path : Path)
  | remove (path : Path)
  | rename (source target : Path)
  | setModified (path : Path) (time : Int)
  | makeParent (path : Path)
  | create (path : Path)
  | save (path : Path) (data : List UInt8)
  | openWrite (path : Path)
  | openRead (path : Path)
  | write (handle : Handle) (data : List UInt8)
  | read (handle : Handle)
  | sync (handle : Handle)
  deriving DecidableEq

/-- Operations tried so far and whether each took effect. -/
abbrev History (Path : Type) := List (Operation Path × Bool)

/-- The operating system as a program sees it. -/
structure Host (Path Location : Type) where
  /-- The location a path names, if it can name a file at all. -/
  locate : Path → Option Location
  /-- Whether an operation is let through after the given history. -/
  allows : History Path → Operation Path → Bool
  /-- The time after the given history. -/
  clock : History Path → Int

/-- A disk in use, with the history of its operations. -/
structure Volume (Path Location : Type) where
  disk : Disk Location
  log : History Path

/-- Overwrite from a position on, filling a gap before it with zeros. -/
def overwrite (bytes : List UInt8) (position : Nat) (data : List UInt8) : List UInt8 :=
  bytes.take position ++ List.replicate (position - bytes.length) 0 ++ data ++
    bytes.drop (position + data.length)

/-- Writing a part of some contents over a beginning of them leaves a beginning. -/
theorem overwrite_isPrefix
    {bytes contents : List UInt8}
    {position : Nat}
    (isPrefix : bytes <+: contents)
    (inside : position ≤ bytes.length)
    (count : Nat) :
    overwrite bytes position ((contents.drop position).take count) <+: contents ∧
      position + ((contents.drop position).take count).length ≤
        (overwrite bytes position ((contents.drop position).take count)).length := by
  have within : bytes.length ≤ contents.length := isPrefix.length_le
  have start : bytes.take position = contents.take position := by
    obtain ⟨rest, rfl⟩ := isPrefix
    rw [List.take_append_of_le_length inside]
  have noGap : position - bytes.length = 0 := by omega
  have joined : contents.take position ++ (contents.drop position).take count =
      contents.take (position + count) := (List.take_add ..).symm
  have whole : overwrite bytes position ((contents.drop position).take count) =
      contents.take (position + count) ++
        bytes.drop (position + min count (contents.length - position)) := by
    rw [overwrite, noGap, List.replicate_zero, List.append_nil, start, joined, List.length_take,
      List.length_drop]
  rw [whole]
  constructor
  · by_cases short : position + count ≤ bytes.length
    · -- the part lies inside the beginning, which stays as it is
      have sameCount : min count (contents.length - position) = count := by omega
      obtain ⟨rest, rfl⟩ := isPrefix
      rw [sameCount, List.take_append_of_le_length short, List.take_append_drop]
      exact List.prefix_append ..
    · rw [List.drop_of_length_le (by omega), List.append_nil]
      exact List.take_prefix ..
  · rw [List.length_append, List.length_take, List.length_drop, List.length_take,
      List.length_drop]
    omega

/-- Writing at the end appends. -/
theorem overwrite_length
    (bytes data : List UInt8) :
    overwrite bytes bytes.length data = bytes ++ data := by
  simp [overwrite]

namespace Disk

variable {Location : Type}

/-- The file at a location. -/
def file (disk : Disk Location) (location : Location) : Option File :=
  (disk.names location).map disk.files

/-- The bytes of the file at a location. -/
def bytes (disk : Disk Location) (location : Location) : Option (List UInt8) :=
  (disk.file location).map File.bytes

/-- Replace one file and leave the names alone. -/
def setFile (disk : Disk Location) (inode : Nat) (file : File) : Disk Location where
  names := disk.names
  files := Function.update disk.files inode file
  next := disk.next
  allocated := disk.allocated
  single := disk.single

variable [DecidableEq Location]

/-- A disk without files. -/
def empty : Disk Location where
  names := fun _ => none
  files := fun _ => ⟨[], 0⟩
  next := 0
  allocated := by simp
  single := by simp

/-- Take a name away. -/
def erase (disk : Disk Location) (location : Location) : Disk Location where
  names := Function.update disk.names location none
  files := disk.files
  next := disk.next
  allocated := by
    intro other inode named
    by_cases same : other = location
    · simp [same] at named
    · exact disk.allocated other inode (by simpa [same] using named)
  single := by
    intro one other inode oneNamed otherNamed
    by_cases oneSame : one = location
    · simp [oneSame] at oneNamed
    · by_cases otherSame : other = location
      · simp [otherSame] at otherNamed
      · exact disk.single one other inode (by simpa [oneSame] using oneNamed)
          (by simpa [otherSame] using otherNamed)

/-- Give a file that no location names a name. -/
def link
    (disk : Disk Location)
    (location : Location)
    (inode : Nat)
    (bounded : inode < disk.next)
    (unnamed : ∀ other, disk.names other ≠ some inode) : Disk Location where
  names := Function.update disk.names location (some inode)
  files := disk.files
  next := disk.next
  allocated := by
    intro other found named
    by_cases same : other = location
    · have : inode = found := by simpa [same] using named
      omega
    · exact disk.allocated other found (by simpa [same] using named)
  single := by
    intro one other found oneNamed otherNamed
    by_cases oneSame : one = location
    · by_cases otherSame : other = location
      · rw [oneSame, otherSame]
      · have : inode = found := by simpa [oneSame] using oneNamed
        exact absurd (by simpa [otherSame, this] using otherNamed) (unnamed other)
    · by_cases otherSame : other = location
      · have : inode = found := by simpa [otherSame] using otherNamed
        exact absurd (by simpa [oneSame, this] using oneNamed) (unnamed one)
      · exact disk.single one other found (by simpa [oneSame] using oneNamed)
          (by simpa [otherSame] using otherNamed)

/-- A disk with one more unnamed file. -/
def allocate (disk : Disk Location) (file : File) : Disk Location where
  names := disk.names
  files := Function.update disk.files disk.next file
  next := disk.next + 1
  allocated := fun location inode named =>
    Nat.lt_succ_of_lt (disk.allocated location inode named)
  single := disk.single

theorem erase_unnames
    {disk : Disk Location}
    {location : Location}
    {inode : Nat}
    (named : disk.names location = some inode)
    (other : Location) :
    (disk.erase location).names other ≠ some inode := by
  intro found
  by_cases same : other = location
  · simp [erase, same] at found
  · exact same (disk.single other location inode (by simpa [erase, same] using found) named)

/-- Move the file at one location over whatever is at another. -/
def move (disk : Disk Location) (source target : Location) : Option (Disk Location) :=
  match named : disk.names source with
  | none => none
  | some inode =>
      some ((disk.erase source).link target inode
        (disk.allocated source inode named) (erase_unnames named))

/-- Make an empty file at a location, truncating one that is there. -/
def create (disk : Disk Location) (location : Location) (now : Int) : Disk Location :=
  match disk.names location with
  | some inode => disk.setFile inode ⟨[], now⟩
  | none =>
      (disk.allocate ⟨[], now⟩).link location disk.next (Nat.lt_succ_self disk.next)
        (fun other named => absurd (disk.allocated other disk.next named) (by omega))

/-- The file behind a handle after a write. -/
def written (disk : Disk Location) (handle : Handle) (data : List UInt8) (now : Int) : File :=
  ⟨overwrite (disk.files handle.inode).bytes handle.position data, now⟩

end Disk

variable {Path Location : Type} [DecidableEq Location]

/-- What an operation does to a disk that is ready for it. -/
def Operation.apply
    (host : Host Path Location)
    (history : History Path)
    (disk : Disk Location) :
    Operation Path → Option (Disk Location)
  | .stat path | .openRead path => do
      let location ← host.locate path
      let _ ← disk.names location
      return disk
  | .remove path => do
      let location ← host.locate path
      let _ ← disk.names location
      return disk.erase location
  | .rename source target => do
      let source ← host.locate source
      let target ← host.locate target
      disk.move source target
  | .setModified path time => do
      let location ← host.locate path
      let inode ← disk.names location
      return disk.setFile inode { disk.files inode with modified := time }
  | .makeParent _ | .read _ | .sync _ => some disk
  | .create path => do
      let location ← host.locate path
      return disk.create location (host.clock history)
  | .save path data => do
      let location ← host.locate path
      let emptied := disk.create location (host.clock history)
      let inode ← emptied.names location
      return emptied.setFile inode ⟨data, host.clock history⟩
  | .openWrite path => do
      let location ← host.locate path
      match disk.names location with
      | some _ => return disk
      | none => return disk.create location (host.clock history)
  | .write handle data =>
      if handle.writable then
        some (disk.setFile handle.inode (disk.written handle data (host.clock history)))
      else none

/-- Try an operation: it takes effect if the host lets it and the disk is ready. -/
def perform
    (host : Host Path Location)
    (volume : Volume Path Location)
    (operation : Operation Path) : Bool × Volume Path Location :=
  match (if host.allows volume.log operation then
      operation.apply host volume.log volume.disk else none) with
  | some disk => (true, ⟨disk, volume.log ++ [(operation, true)]⟩)
  | none => (false, ⟨volume.disk, volume.log ++ [(operation, false)]⟩)

/-- The handle a path opens. -/
def openedAt
    (host : Host Path Location)
    (volume : Volume Path Location)
    (path : Path)
    (writable : Bool) : Option Handle := do
  let location ← host.locate path
  let inode ← volume.disk.names location
  return ⟨inode, 0, writable⟩

/-- An operation may change the name or the file at a location. -/
def Operation.Reaches
    (host : Host Path Location)
    (disk : Disk Location)
    (location : Location) : Operation Path → Prop
  | .remove path | .setModified path _ | .create path | .save path _ | .openWrite path =>
      host.locate path = some location
  | .rename source target =>
      host.locate source = some location ∨ host.locate target = some location
  | .write handle _ => disk.names location = some handle.inode
  | .stat _ | .makeParent _ | .openRead _ | .read _ | .sync _ => False

/-- The files that an operation creates, renames, truncates or removes. -/
def Operation.files : Operation Path → List Path
  | .remove path | .create path | .save path _ | .openWrite path => [path]
  | .rename source target => [source, target]
  | .stat _ | .setModified _ _ | .makeParent _ | .openRead _ | .write _ _ | .read _ | .sync _ => []

namespace Disk

variable (disk : Disk Location)

@[simp] theorem setFile_names (inode : Nat) (file : File) :
    (disk.setFile inode file).names = disk.names := rfl

@[simp] theorem setFile_files (inode : Nat) (file : File) :
    (disk.setFile inode file).files = Function.update disk.files inode file := rfl

@[simp] theorem erase_names (location : Location) :
    (disk.erase location).names = Function.update disk.names location none := rfl

@[simp] theorem erase_files (location : Location) :
    (disk.erase location).files = disk.files := rfl

/-- A move takes the file along with its inode. -/
theorem move_eq_some
    {source target : Location}
    {moved : Disk Location}
    (moves : disk.move source target = some moved) :
    ∃ inode, disk.names source = some inode ∧
      moved.names = Function.update (Function.update disk.names source none) target
        (some inode) ∧
      moved.files = disk.files := by
  unfold move at moves
  split at moves
  · simp at moves
  · next inode named =>
      obtain rfl := Option.some.inj moves
      exact ⟨inode, named, rfl, rfl⟩

theorem move_isSome
    {source : Location}
    {inode : Nat}
    (named : disk.names source = some inode)
    (target : Location) :
    ∃ moved, disk.move source target = some moved := by
  unfold move
  split
  · next absent => simp [absent] at named
  · exact ⟨_, rfl⟩

/-- Creation leaves an empty file at its location. -/
theorem create_at
    (location : Location)
    (now : Int) :
    ∃ inode, (disk.create location now).names location = some inode ∧
      (disk.create location now).files inode = ⟨[], now⟩ := by
  unfold create
  split
  · next inode named => exact ⟨inode, by simpa using named, by simp⟩
  · exact ⟨disk.next, by simp [link, allocate], by simp [link, allocate]⟩

/-- Creation leaves every other location as it is. -/
theorem create_elsewhere
    {location other : Location}
    (elsewhere : other ≠ location)
    (now : Int) :
    (disk.create location now).names other = disk.names other ∧
      (disk.create location now).file other = disk.file other := by
  unfold create
  split
  · next inode named =>
      refine ⟨rfl, ?_⟩
      unfold file
      cases found : disk.names other with
      | none => simp [found]
      | some otherInode =>
          have distinct : otherInode ≠ inode := by
            rintro rfl
            exact elsewhere (disk.single other location _ found named)
          simp [found, distinct]
  · have kept : ((disk.allocate ⟨[], now⟩).link location disk.next (Nat.lt_succ_self disk.next)
        (fun other named => absurd (disk.allocated other disk.next named) (by omega))).names
          other = disk.names other := by
      simp [link, allocate, elsewhere]
    refine ⟨kept, ?_⟩
    unfold file
    rw [kept]
    cases found : disk.names other with
    | none => rfl
    | some otherInode =>
        have bounded := disk.allocated other otherInode found
        have distinct : otherInode ≠ disk.next := by omega
        simp [link, allocate, distinct]

/-- Replacing one file leaves every location that names another as it is. -/
theorem setFile_elsewhere
    {inode : Nat}
    {location : Location}
    (elsewhere : disk.names location ≠ some inode)
    (replaced : File) :
    (disk.setFile inode replaced).file location = disk.file location := by
  unfold file
  cases found : disk.names location with
  | none => simp [found]
  | some other =>
      have distinct : other ≠ inode := by
        rintro rfl
        exact elsewhere found
      simp [found, distinct]

end Disk

/-- An operation leaves alone every location that it does not reach. -/
theorem Operation.apply_frame
    {host : Host Path Location}
    {history : History Path}
    {disk after : Disk Location}
    {operation : Operation Path}
    (applies : operation.apply host history disk = some after)
    {location : Location}
    (unreached : ¬operation.Reaches host disk location) :
    after.names location = disk.names location ∧ after.file location = disk.file location := by
  cases operation with
  | stat path | openRead path =>
      simp only [apply, Option.bind_eq_bind, Option.bind_eq_some_iff] at applies
      obtain ⟨_, _, _, _, same⟩ := applies
      obtain rfl := Option.some.inj same
      exact ⟨rfl, rfl⟩
  | makeParent path | read handle | sync handle =>
      obtain rfl := Option.some.inj applies
      exact ⟨rfl, rfl⟩
  | remove path =>
      simp only [apply, Option.bind_eq_bind, Option.bind_eq_some_iff] at applies
      obtain ⟨removed, located, _, _, same⟩ := applies
      obtain rfl := Option.some.inj same
      have elsewhere : location ≠ removed := by
        rintro rfl
        exact unreached located
      simp [Disk.file, elsewhere]
  | rename source target =>
      simp only [apply, Option.bind_eq_bind, Option.bind_eq_some_iff] at applies
      obtain ⟨fromLocation, sourceLocated, toLocation, targetLocated, moves⟩ := applies
      obtain ⟨inode, _, names, files⟩ := disk.move_eq_some moves
      have notSource : location ≠ fromLocation := by
        rintro rfl
        exact unreached (.inl sourceLocated)
      have notTarget : location ≠ toLocation := by
        rintro rfl
        exact unreached (.inr targetLocated)
      have kept : after.names location = disk.names location := by
        simp [names, notSource, notTarget]
      exact ⟨kept, by simp only [Disk.file, kept, files]⟩
  | setModified path time =>
      simp only [apply, Option.bind_eq_bind, Option.bind_eq_some_iff] at applies
      obtain ⟨dated, located, inode, named, same⟩ := applies
      obtain rfl := Option.some.inj same
      refine ⟨rfl, disk.setFile_elsewhere ?_ _⟩
      intro shared
      exact unreached (disk.single location dated inode shared named ▸ located)
  | create path =>
      simp only [apply, Option.bind_eq_bind, Option.bind_eq_some_iff] at applies
      obtain ⟨created, located, same⟩ := applies
      obtain rfl := Option.some.inj same
      refine disk.create_elsewhere ?_ _
      rintro rfl
      exact unreached located
  | save path data =>
      simp only [apply, Option.bind_eq_bind, Option.bind_eq_some_iff] at applies
      obtain ⟨saved, located, inode, named, same⟩ := applies
      obtain rfl := Option.some.inj same
      have elsewhere : location ≠ saved := by
        rintro rfl
        exact unreached located
      obtain ⟨names, kept⟩ := disk.create_elsewhere elsewhere (host.clock history)
      refine ⟨names, ?_⟩
      rw [Disk.setFile_elsewhere _ _ _, kept]
      intro shared
      exact elsewhere ((disk.create saved _).single location saved inode shared named)
  | openWrite path =>
      simp only [apply, Option.bind_eq_bind, Option.bind_eq_some_iff] at applies
      obtain ⟨opened, located, same⟩ := applies
      split at same
      · obtain rfl := Option.some.inj same
        exact ⟨rfl, rfl⟩
      · obtain rfl := Option.some.inj same
        refine disk.create_elsewhere ?_ _
        rintro rfl
        exact unreached located
  | write handle data =>
      simp only [apply] at applies
      split at applies
      · obtain rfl := Option.some.inj applies
        exact ⟨rfl, disk.setFile_elsewhere unreached _⟩
      · simp at applies

/-- The files that an operation deals with can be files. -/
theorem Operation.apply_located
    {host : Host Path Location}
    {history : History Path}
    {disk after : Disk Location}
    {operation : Operation Path}
    (applies : operation.apply host history disk = some after)
    {path : Path}
    (member : path ∈ operation.files) :
    ∃ location, host.locate path = some location := by
  cases operation with
  | stat _ | setModified _ _ | makeParent _ | openRead _ | write _ _ | read _ | sync _ =>
      simp [files] at member
  | remove removed | create removed | save removed data | openWrite removed =>
      obtain rfl : path = removed := by simpa [files] using member
      simp only [apply, Option.bind_eq_bind, Option.bind_eq_some_iff] at applies
      obtain ⟨location, located, _⟩ := applies
      exact ⟨location, located⟩
  | rename source target =>
      simp only [apply, Option.bind_eq_bind, Option.bind_eq_some_iff] at applies
      obtain ⟨fromLocation, sourceLocated, toLocation, targetLocated, _⟩ := applies
      rcases List.mem_pair.mp member with rfl | rfl
      · exact ⟨fromLocation, sourceLocated⟩
      · exact ⟨toLocation, targetLocated⟩

/-- A disk that comes after another one: files keep their numbers, and a file that has no name any
more gets none again. -/
structure Disk.Later (before after : Disk Location) : Prop where
  next : before.next ≤ after.next
  unnamed : ∀ inode, inode < before.next →
    (∀ location, before.names location ≠ some inode) →
    ∀ location, after.names location ≠ some inode

omit [DecidableEq Location] in
theorem Disk.Later.refl (disk : Disk Location) : disk.Later disk :=
  ⟨Nat.le_refl _, fun _ _ unnamed => unnamed⟩

omit [DecidableEq Location] in
theorem Disk.Later.trans
    {first second third : Disk Location}
    (one : first.Later second)
    (two : second.Later third) :
    first.Later third :=
  ⟨Nat.le_trans one.next two.next, fun inode old unnamed =>
    two.unnamed inode (Nat.lt_of_lt_of_le old one.next) (one.unnamed inode old unnamed)⟩

omit [DecidableEq Location] in
theorem Disk.later_setFile (disk : Disk Location) (inode : Nat) (file : File) :
    disk.Later (disk.setFile inode file) :=
  ⟨Nat.le_refl _, fun _ _ unnamed => unnamed⟩

theorem Disk.later_erase (disk : Disk Location) (location : Location) :
    disk.Later (disk.erase location) := by
  refine ⟨Nat.le_refl _, ?_⟩
  intro inode _ unnamed other
  by_cases same : other = location
  · simp [same]
  · simpa [same] using unnamed other

theorem Disk.later_create (disk : Disk Location) (location : Location) (now : Int) :
    disk.Later (disk.create location now) := by
  unfold create
  split
  · exact disk.later_setFile ..
  · refine ⟨Nat.le_succ _, ?_⟩
    intro inode old unnamed other
    by_cases same : other = location
    · simpa [link, allocate, same] using Nat.ne_of_gt old
    · simpa [link, allocate, same] using unnamed other

theorem Disk.later_move
    {disk moved : Disk Location}
    {source target : Location}
    (moves : disk.move source target = some moved) :
    disk.Later moved := by
  obtain ⟨found, named, names, _⟩ := disk.move_eq_some moves
  refine ⟨?_, ?_⟩
  · unfold move at moves
    split at moves
    · simp at moves
    · obtain rfl := Option.some.inj moves
      exact Nat.le_refl _
  · intro inode _ unnamed other
    rw [names]
    by_cases isTarget : other = target
    · have differs : found ≠ inode := by
        rintro rfl
        exact unnamed source named
      simpa [isTarget] using differs
    · by_cases isSource : other = source
      · simp [isSource, isSource ▸ isTarget]
      · simpa [isTarget, isSource] using unnamed other

/-- Every operation leads to a later disk. -/
theorem Operation.apply_later
    {host : Host Path Location}
    {history : History Path}
    {disk after : Disk Location}
    {operation : Operation Path}
    (applies : operation.apply host history disk = some after) :
    disk.Later after := by
  cases operation with
  | stat path | openRead path =>
      simp only [apply, Option.bind_eq_bind, Option.bind_eq_some_iff] at applies
      obtain ⟨_, _, _, _, same⟩ := applies
      obtain rfl := Option.some.inj same
      exact .refl disk
  | makeParent path | read handle | sync handle =>
      obtain rfl := Option.some.inj applies
      exact .refl disk
  | remove path =>
      simp only [apply, Option.bind_eq_bind, Option.bind_eq_some_iff] at applies
      obtain ⟨location, _, _, _, same⟩ := applies
      obtain rfl := Option.some.inj same
      exact disk.later_erase location
  | rename source target =>
      simp only [apply, Option.bind_eq_bind, Option.bind_eq_some_iff] at applies
      obtain ⟨_, _, _, _, moves⟩ := applies
      exact Disk.later_move moves
  | setModified path time =>
      simp only [apply, Option.bind_eq_bind, Option.bind_eq_some_iff] at applies
      obtain ⟨_, _, _, _, same⟩ := applies
      obtain rfl := Option.some.inj same
      exact disk.later_setFile ..
  | create path =>
      simp only [apply, Option.bind_eq_bind, Option.bind_eq_some_iff] at applies
      obtain ⟨location, _, same⟩ := applies
      obtain rfl := Option.some.inj same
      exact disk.later_create location _
  | save path data =>
      simp only [apply, Option.bind_eq_bind, Option.bind_eq_some_iff] at applies
      obtain ⟨location, _, _, _, same⟩ := applies
      obtain rfl := Option.some.inj same
      exact (disk.later_create location _).trans (Disk.later_setFile ..)
  | openWrite path =>
      simp only [apply, Option.bind_eq_bind, Option.bind_eq_some_iff] at applies
      obtain ⟨location, _, same⟩ := applies
      split at same
      · obtain rfl := Option.some.inj same
        exact .refl disk
      · obtain rfl := Option.some.inj same
        exact disk.later_create location _
  | write handle data =>
      simp only [apply] at applies
      split at applies
      · obtain rfl := Option.some.inj applies
        exact disk.later_setFile ..
      · simp at applies

/-- Two states of a volume agree at a location: the same file is there. -/
structure SameAt (before after : Volume Path Location) (location : Location) : Prop where
  names : after.disk.names location = before.disk.names location
  file : after.disk.file location = before.disk.file location

theorem SameAt.trans
    {first second third : Volume Path Location}
    {location : Location}
    (one : SameAt first second location)
    (two : SameAt second third location) :
    SameAt first third location :=
  ⟨two.names.trans one.names, two.file.trans one.file⟩

theorem SameAt.bytes
    {before after : Volume Path Location}
    {location : Location}
    (same : SameAt before after location) :
    after.disk.bytes location = before.disk.bytes location := by
  rw [Disk.bytes, Disk.bytes, same.file]

/-- Volumes with the same disk agree everywhere. -/
theorem SameAt.of_disk
    {before after : Volume Path Location}
    (same : after.disk = before.disk)
    (location : Location) :
    SameAt before after location :=
  ⟨by rw [same], by rw [same]⟩

section Perform

variable (host : Host Path Location) (volume : Volume Path Location)

/-- An operation either takes effect or leaves the disk as it is. -/
theorem perform_cases (operation : Operation Path) :
    ((perform host volume operation).1 = false ∧
      (perform host volume operation).2.disk = volume.disk) ∨
    ((perform host volume operation).1 = true ∧
      operation.apply host volume.log volume.disk =
        some (perform host volume operation).2.disk) := by
  unfold perform
  split
  · next applied =>
      split at applied
      · exact .inr ⟨rfl, applied⟩
      · simp at applied
  · exact .inl ⟨rfl, rfl⟩

/-- An operation that fails leaves the disk as it is. -/
theorem perform_failed
    {operation : Operation Path}
    (fails : (perform host volume operation).1 = false) :
    (perform host volume operation).2.disk = volume.disk := by
  rcases perform_cases host volume operation with ⟨_, same⟩ | ⟨succeeds, _⟩
  · exact same
  · rw [fails] at succeeds
    cases succeeds

/-- An operation that the host lets through does what it does to the disk. -/
theorem perform_of_apply
    {operation : Operation Path}
    {after : Disk Location}
    (allowed : host.allows volume.log operation = true)
    (applies : operation.apply host volume.log volume.disk = some after) :
    perform host volume operation =
      (true, ⟨after, volume.log ++ [(operation, true)]⟩) := by
  simp [perform, allowed, applies]

/-- Every attempt is recorded with its outcome. -/
@[simp] theorem perform_log (operation : Operation Path) :
    (perform host volume operation).2.log =
      volume.log ++ [(operation, (perform host volume operation).1)] := by
  unfold perform
  split <;> rfl

/-- An attempt leaves alone every location that its operation does not reach. -/
theorem perform_frame
    {operation : Operation Path}
    {location : Location}
    (unreached : ¬operation.Reaches host volume.disk location) :
    SameAt volume (perform host volume operation).2 location := by
  rcases perform_cases host volume operation with ⟨_, same⟩ | ⟨_, applies⟩
  · exact .of_disk same location
  · obtain ⟨names, file⟩ := Operation.apply_frame applies unreached
    exact ⟨names, file⟩

/-- An attempt leads to a later disk. -/
theorem perform_later (operation : Operation Path) :
    volume.disk.Later (perform host volume operation).2.disk := by
  rcases perform_cases host volume operation with ⟨_, same⟩ | ⟨_, applies⟩
  · rw [same]
    exact .refl _
  · exact Operation.apply_later applies

/-- The operations that only look leave the whole disk as it is. -/
theorem perform_idle
    {operation : Operation Path}
    (looks : ∀ disk after, operation.apply host volume.log disk = some after → after = disk) :
    (perform host volume operation).2.disk = volume.disk := by
  rcases perform_cases host volume operation with ⟨_, same⟩ | ⟨_, applies⟩
  · exact same
  · exact looks _ _ applies

@[simp] theorem perform_stat_disk (path : Path) :
    (perform host volume (.stat path)).2.disk = volume.disk := by
  refine perform_idle host volume ?_
  intro disk after applies
  simp only [Operation.apply, Option.bind_eq_bind, Option.bind_eq_some_iff] at applies
  obtain ⟨_, _, _, _, same⟩ := applies
  exact (Option.some.inj same).symm

@[simp] theorem perform_openRead_disk (path : Path) :
    (perform host volume (.openRead path)).2.disk = volume.disk := by
  refine perform_idle host volume ?_
  intro disk after applies
  simp only [Operation.apply, Option.bind_eq_bind, Option.bind_eq_some_iff] at applies
  obtain ⟨_, _, _, _, same⟩ := applies
  exact (Option.some.inj same).symm

@[simp] theorem perform_makeParent_disk (path : Path) :
    (perform host volume (.makeParent path)).2.disk = volume.disk :=
  perform_idle host volume fun _ _ applies => (Option.some.inj applies).symm

@[simp] theorem perform_read_disk (handle : Handle) :
    (perform host volume (.read handle)).2.disk = volume.disk :=
  perform_idle host volume fun _ _ applies => (Option.some.inj applies).symm

@[simp] theorem perform_sync_disk (handle : Handle) :
    (perform host volume (.sync handle)).2.disk = volume.disk :=
  perform_idle host volume fun _ _ applies => (Option.some.inj applies).symm

/-- A look that succeeds has found a file. -/
theorem perform_stat_found
    {path : Path}
    (found : (perform host volume (.stat path)).1 = true) :
    ∃ location inode, host.locate path = some location ∧
      volume.disk.names location = some inode := by
  rcases perform_cases host volume (.stat path) with ⟨failed, _⟩ | ⟨_, applies⟩
  · rw [found] at failed
    cases failed
  · simp only [Operation.apply, Option.bind_eq_bind, Option.bind_eq_some_iff] at applies
    obtain ⟨location, located, inode, named, _⟩ := applies
    exact ⟨location, inode, located, named⟩

/-- Opening a file that is there for writing changes nothing on the disk. -/
theorem perform_openWrite_disk
    {path : Path}
    {location : Location}
    {inode : Nat}
    (located : host.locate path = some location)
    (named : volume.disk.names location = some inode) :
    (perform host volume (.openWrite path)).2.disk = volume.disk := by
  rcases perform_cases host volume (.openWrite path) with ⟨_, same⟩ | ⟨_, applies⟩
  · exact same
  · have same : volume.disk = (perform host volume (.openWrite path)).2.disk := by
      simpa [Operation.apply, located, named] using applies
    exact same.symm

/-- A permitted removal leaves no name, whether or not there was a file. -/
theorem perform_remove
    {path : Path}
    {location : Location}
    (located : host.locate path = some location)
    (allowed : host.allows volume.log (.remove path) = true) :
    (perform host volume (.remove path)).2.disk.names location = none := by
  cases named : volume.disk.names location with
  | none =>
      have fails : Operation.apply host volume.log volume.disk (.remove path) = none := by
        simp [Operation.apply, located, named]
      rcases perform_cases host volume (.remove path) with ⟨_, same⟩ | ⟨_, applies⟩
      · rw [same, named]
      · rw [fails] at applies
        cases applies
  | some inode =>
      rw [perform_of_apply host volume allowed
        (show Operation.apply host volume.log volume.disk (.remove path) =
          some (volume.disk.erase location) by simp [Operation.apply, located, named])]
      simp

/-- A file that is removed has no name any more. -/
theorem perform_remove_unnames
    {path : Path}
    {location : Location}
    {inode : Nat}
    (located : host.locate path = some location)
    (allowed : host.allows volume.log (.remove path) = true)
    (named : volume.disk.names location = some inode)
    (other : Location) :
    (perform host volume (.remove path)).2.disk.names other ≠ some inode := by
  rw [perform_of_apply host volume allowed
    (show Operation.apply host volume.log volume.disk (.remove path) =
      some (volume.disk.erase location) by simp [Operation.apply, located, named])]
  exact Disk.erase_unnames named other

/-- A removal names nothing. -/
theorem perform_remove_absent
    {location : Location}
    (absent : volume.disk.names location = none)
    (path : Path) :
    (perform host volume (.remove path)).2.disk.names location = none := by
  rcases perform_cases host volume (.remove path) with ⟨_, same⟩ | ⟨_, applies⟩
  · rw [same, absent]
  · simp only [Operation.apply, Option.bind_eq_bind, Option.bind_eq_some_iff] at applies
    obtain ⟨removed, _, _, _, same⟩ := applies
    rw [← Option.some.inj same]
    by_cases here : location = removed
    · simp [here]
    · simpa [here] using absent

/-- A permitted removal of a file that is there takes effect. -/
theorem perform_remove_succeeds
    {path : Path}
    {location : Location}
    {inode : Nat}
    (located : host.locate path = some location)
    (allowed : host.allows volume.log (.remove path) = true)
    (named : volume.disk.names location = some inode) :
    (perform host volume (.remove path)).1 = true := by
  rw [perform_of_apply host volume allowed
    (show Operation.apply host volume.log volume.disk (.remove path) =
      some (volume.disk.erase location) by simp [Operation.apply, located, named])]

/-- Setting a time changes no name. -/
@[simp] theorem perform_setModified_names (path : Path) (time : Int) :
    (perform host volume (.setModified path time)).2.disk.names = volume.disk.names := by
  rcases perform_cases host volume (.setModified path time) with ⟨_, same⟩ | ⟨_, applies⟩
  · rw [same]
  · simp only [Operation.apply, Option.bind_eq_bind, Option.bind_eq_some_iff] at applies
    obtain ⟨_, _, _, _, same⟩ := applies
    rw [← Option.some.inj same]
    rfl

/-- Setting a time changes no contents. -/
@[simp] theorem perform_setModified_bytes (path : Path) (time : Int) (location : Location) :
    (perform host volume (.setModified path time)).2.disk.bytes location =
      volume.disk.bytes location := by
  rcases perform_cases host volume (.setModified path time) with ⟨_, same⟩ | ⟨_, applies⟩
  · rw [same]
  · simp only [Operation.apply, Option.bind_eq_bind, Option.bind_eq_some_iff] at applies
    obtain ⟨_, _, inode, _, same⟩ := applies
    rw [← Option.some.inj same]
    unfold Disk.bytes Disk.file
    cases found : volume.disk.names location with
    | none => simp [found]
    | some other =>
        by_cases shared : other = inode
        · simp [found, shared]
        · simp [found, shared]

/-- A permitted change of time dates the file at its path. -/
theorem perform_setModified_file
    {path : Path}
    {location : Location}
    {file : File}
    (time : Int)
    (located : host.locate path = some location)
    (allowed : host.allows volume.log (.setModified path time) = true)
    (present : volume.disk.file location = some file) :
    (perform host volume (.setModified path time)).2.disk.file location =
      some { file with modified := time } := by
  obtain ⟨inode, named, rfl⟩ := Option.map_eq_some_iff.mp present
  rw [perform_of_apply host volume allowed
    (show Operation.apply host volume.log volume.disk (.setModified path time) =
      some (volume.disk.setFile inode { volume.disk.files inode with modified := time }) by
        simp [Operation.apply, located, named])]
  simp [Disk.file, named]

/-- A rename that takes effect carries the file over. -/
theorem perform_rename_moves
    {source target : Path}
    {fromLocation toLocation : Location}
    (sourceLocated : host.locate source = some fromLocation)
    (targetLocated : host.locate target = some toLocation)
    (distinct : fromLocation ≠ toLocation)
    (succeeds : (perform host volume (.rename source target)).1 = true) :
    (∃ inode, volume.disk.names fromLocation = some inode) ∧
      (perform host volume (.rename source target)).2.disk.file toLocation =
        volume.disk.file fromLocation ∧
      (perform host volume (.rename source target)).2.disk.names fromLocation = none := by
  rcases perform_cases host volume (.rename source target) with ⟨fails, _⟩ | ⟨_, applies⟩
  · rw [fails] at succeeds
    cases succeeds
  · simp only [Operation.apply, Option.bind_eq_bind, Option.bind_eq_some_iff] at applies
    obtain ⟨found, foundLocated, reached, reachedLocated, moves⟩ := applies
    obtain rfl : fromLocation = found := Option.some.inj (sourceLocated.symm.trans foundLocated)
    obtain rfl : toLocation = reached :=
      Option.some.inj (targetLocated.symm.trans reachedLocated)
    obtain ⟨inode, named, names, files⟩ := volume.disk.move_eq_some moves
    refine ⟨⟨inode, named⟩, ?_, ?_⟩
    · simp [Disk.file, names, named, files]
    · simp [names, distinct]

/-- After a rename the new path names the file of the old one. -/
theorem perform_rename_named
    {source target : Path}
    {fromLocation toLocation : Location}
    {inode : Nat}
    (sourceLocated : host.locate source = some fromLocation)
    (targetLocated : host.locate target = some toLocation)
    (named : volume.disk.names fromLocation = some inode)
    (succeeds : (perform host volume (.rename source target)).1 = true) :
    (perform host volume (.rename source target)).2.disk.names toLocation = some inode ∧
      (perform host volume (.rename source target)).2.disk.files = volume.disk.files := by
  rcases perform_cases host volume (.rename source target) with ⟨fails, _⟩ | ⟨_, applies⟩
  · rw [fails] at succeeds
    cases succeeds
  · simp only [Operation.apply, sourceLocated, targetLocated, Option.bind_eq_bind,
      Option.bind_some] at applies
    obtain ⟨found, foundNamed, names, files⟩ := volume.disk.move_eq_some applies
    obtain rfl : inode = found := Option.some.inj (named.symm.trans foundNamed)
    exact ⟨by simp [names], files⟩

/-- A permitted rename of a file that is there takes effect. -/
theorem perform_rename_succeeds
    {source target : Path}
    {fromLocation toLocation : Location}
    {inode : Nat}
    (sourceLocated : host.locate source = some fromLocation)
    (targetLocated : host.locate target = some toLocation)
    (allowed : host.allows volume.log (.rename source target) = true)
    (named : volume.disk.names fromLocation = some inode) :
    (perform host volume (.rename source target)).1 = true := by
  obtain ⟨moved, moves⟩ := volume.disk.move_isSome named toLocation
  rw [perform_of_apply host volume allowed
    (show Operation.apply host volume.log volume.disk (.rename source target) = some moved by
      simp [Operation.apply, sourceLocated, targetLocated, moves])]

/-- A permitted creation succeeds and opens an empty file. -/
theorem perform_create
    {path : Path}
    {location : Location}
    (located : host.locate path = some location)
    (allowed : host.allows volume.log (.create path) = true) :
    (perform host volume (.create path)).1 = true ∧
      ∃ inode, (perform host volume (.create path)).2.disk.names location = some inode ∧
        (perform host volume (.create path)).2.disk.bytes location = some [] := by
  rw [perform_of_apply host volume allowed
    (show Operation.apply host volume.log volume.disk (.create path) =
      some (volume.disk.create location (host.clock volume.log)) by
        simp [Operation.apply, located])]
  obtain ⟨inode, named, empty⟩ := volume.disk.create_at location (host.clock volume.log)
  exact ⟨rfl, inode, named, by simp [Disk.bytes, Disk.file, named, empty]⟩

/-- A creation that takes effect has left an empty file at its path. -/
theorem perform_created
    {path : Path}
    (succeeds : (perform host volume (.create path)).1 = true) :
    ∃ location inode, host.locate path = some location ∧
      (perform host volume (.create path)).2.disk.names location = some inode ∧
      ((perform host volume (.create path)).2.disk.files inode).bytes = [] := by
  rcases perform_cases host volume (.create path) with ⟨fails, _⟩ | ⟨_, applies⟩
  · rw [fails] at succeeds
    cases succeeds
  · simp only [Operation.apply, Option.bind_eq_bind, Option.bind_eq_some_iff] at applies
    obtain ⟨location, located, same⟩ := applies
    obtain ⟨inode, named, empty⟩ := volume.disk.create_at location (host.clock volume.log)
    rw [← Option.some.inj same]
    exact ⟨location, inode, located, named, by rw [empty]⟩

/-- A write changes no name. -/
@[simp] theorem perform_write_names (handle : Handle) (data : List UInt8) :
    (perform host volume (.write handle data)).2.disk.names = volume.disk.names := by
  rcases perform_cases host volume (.write handle data) with ⟨_, same⟩ | ⟨_, applies⟩
  · rw [same]
  · simp only [Operation.apply] at applies
    split at applies
    · rw [← Option.some.inj applies]
      rfl
    · simp at applies

/-- A permitted write goes over what is there from its position on. -/
theorem perform_write_at
    {handle : Handle}
    {location : Location}
    {bytes : List UInt8}
    (data : List UInt8)
    (allowed : host.allows volume.log (.write handle data) = true)
    (writable : handle.writable = true)
    (named : volume.disk.names location = some handle.inode)
    (contents : volume.disk.bytes location = some bytes) :
    (perform host volume (.write handle data)).1 = true ∧
      (perform host volume (.write handle data)).2.disk.bytes location =
        some (overwrite bytes handle.position data) := by
  have holds : (volume.disk.files handle.inode).bytes = bytes := by
    simpa [Disk.bytes, Disk.file, named] using contents
  rw [perform_of_apply host volume allowed
    (show Operation.apply host volume.log volume.disk (.write handle data) =
      some (volume.disk.setFile handle.inode
        (volume.disk.written handle data (host.clock volume.log))) by
          simp [Operation.apply, writable])]
  refine ⟨rfl, ?_⟩
  simp [Disk.bytes, Disk.file, named, Disk.written, holds]

/-- A removal finds nothing where there is no file. -/
theorem perform_remove_of_absent
    {path : Path}
    (absent : ∀ location ∈ host.locate path, volume.disk.names location = none) :
    (perform host volume (.remove path)).2.disk = volume.disk := by
  rcases perform_cases host volume (.remove path) with ⟨_, same⟩ | ⟨_, applies⟩
  · exact same
  · simp only [Operation.apply, Option.bind_eq_bind, Option.bind_eq_some_iff] at applies
    obtain ⟨location, located, inode, named, _⟩ := applies
    rw [absent location located] at named
    cases named

/-- A rename finds nothing where there is no file. -/
theorem perform_rename_of_absent
    {source target : Path}
    (absent : ∀ location ∈ host.locate source, volume.disk.names location = none) :
    (perform host volume (.rename source target)).2.disk = volume.disk := by
  rcases perform_cases host volume (.rename source target) with ⟨_, same⟩ | ⟨_, applies⟩
  · exact same
  · simp only [Operation.apply, Option.bind_eq_bind, Option.bind_eq_some_iff] at applies
    obtain ⟨location, located, _, _, moves⟩ := applies
    obtain ⟨inode, named, _⟩ := volume.disk.move_eq_some moves
    rw [absent location located] at named
    cases named

/-- A file that already has a time keeps it. -/
theorem perform_setModified_same
    {path : Path}
    {time : Int}
    (dated : ∀ found ∈ host.locate path, ∀ file ∈ volume.disk.file found, file.modified = time)
    (location : Location) :
    SameAt volume (perform host volume (.setModified path time)).2 location := by
  refine ⟨by rw [perform_setModified_names], ?_⟩
  rcases perform_cases host volume (.setModified path time) with ⟨_, same⟩ | ⟨_, applies⟩
  · rw [same]
  · simp only [Operation.apply, Option.bind_eq_bind, Option.bind_eq_some_iff] at applies
    obtain ⟨found, located, inode, named, same⟩ := applies
    have present : volume.disk.file found = some (volume.disk.files inode) := by
      simp [Disk.file, named]
    have unchanged : { volume.disk.files inode with modified := time } =
        volume.disk.files inode := by
      rw [← dated found located _ present]
    rw [← Option.some.inj same, unchanged]
    simp [Disk.file]

/-- Nothing is written through a handle that was opened for reading. -/
theorem perform_write_readOnly
    {handle : Handle}
    (readOnly : handle.writable = false)
    (data : List UInt8) :
    (perform host volume (.write handle data)).2.disk = volume.disk := by
  rcases perform_cases host volume (.write handle data) with ⟨_, same⟩ | ⟨_, applies⟩
  · exact same
  · simp [Operation.apply, readOnly] at applies

end Perform

end Lib
end OneDesk
