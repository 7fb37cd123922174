import Mathlib.Data.List.DropRight
import OneDesk.Lib.Utf8
import OneDesk.Lib.Utf16
import OneDesk.Stream.Encrypt

/-!
# Files on the clipboard

A host keeps a record for every file and directory that is copied: where it is, what
its metadata say, and a cached handle for reading.  A record is written as 592 bytes
of a file list.
-/

namespace OneDesk
namespace Clipboard

open OneDesk.Stream

/-- A path on Unix is a byte string. -/
abbrev Path := Bytes

/-- `CliprdrError`, as far as files are served. -/
inductive CliprdrError
  | conversionFailure
  | fileError (path : Path) (err : String)
  | invalidRequest (description : String)
  deriving DecidableEq

/-- What a file system says about a path. -/
structure Metadata where
  len : UInt64
  isDir : Bool
  isFile : Bool
  readonly : Bool
  /-- Nanoseconds since 1970, if the file system knows them. -/
  modified : Option Int
  mode : UInt32
  deriving DecidableEq

/-- A file system.  It does not change while files are copied from it, and a file
that can be opened has as many bytes as its metadata say. -/
structure Disk where
  /-- `std::fs::metadata`. -/
  metadata : Path → Except String Metadata
  /-- `std::fs::read_dir`, entry by entry. -/
  readDir : Path → Except String (List (Except String Path))
  /-- `std::fs::File::open` and the contents of the file. -/
  contents : Path → Except String Bytes
  length_contents : ∀ path mt bytes, metadata path = .ok mt → contents path = .ok bytes →
    bytes.length = mt.len.toNat

/-- A handle reads contents from a position on. -/
structure Handle where
  contents : Bytes
  position : Nat
  deriving DecidableEq

/-- `LocalFile`.  The time is in nanoseconds since 1970. -/
structure LocalFile where
  relativeRoot : Path
  path : Path
  handle : Option Handle
  offset : Nat
  name : List Char
  size : UInt64
  lastWriteTime : Int
  isDir : Bool
  perm : UInt32
  readOnly : Bool
  hidden : Bool
  system : Bool
  archive : Bool
  normal : Bool
  deriving DecidableEq

/-! ## Paths -/

/-- The separator of paths. -/
def slash : UInt8 := 0x2F

/-- The dot of the current directory. -/
def dot : UInt8 := 0x2E

/-- How a path begins. -/
inductive Start
  | root
  | curDir
  | plain
  deriving DecidableEq

/-- How a path begins, and the parts after that. -/
def splitPath (path : Path) : Start × List Bytes :=
  let parts := path.splitOn slash
  if path.head? = some slash then (.root, parts)
  else if parts.head? = some [dot] then (.curDir, parts.tail)
  else (.plain, parts)

/-- Parts that are no component. -/
def isVoid (part : Bytes) : Bool :=
  part == [] || part == [dot]

/-- The components of a path; two paths with the same components are equal. -/
def components (path : Path) : Start × List Bytes :=
  ((splitPath path).1, (splitPath path).2.filter fun part => !isVoid part)

/-- `Components::as_path`, with void parts at the end cut off. -/
def asPath (start : Start) (parts : List Bytes) : Path :=
  match start, parts.rdropWhile isVoid with
  | .root, [] => [slash]
  | .curDir, [] => [dot]
  | .curDir, kept => dot :: slash :: [slash].intercalate kept
  | _, kept => [slash].intercalate kept

/-- The parts after the components of a base. -/
def afterComponents : List Bytes → List Bytes → Option (List Bytes)
  | [], parts => some parts
  | component :: components, parts =>
      match parts.dropWhile isVoid with
      | [] => none
      | part :: rest => if part = component then afterComponents components rest else none

/-- `Path::strip_prefix`. -/
def stripPrefix (path base : Path) : Option Path :=
  if components base = (.plain, []) then
    some (asPath (splitPath path).1 (splitPath path).2)
  else if (splitPath path).1 = (components base).1 then
    (afterComponents (components base).2 (splitPath path).2).map fun rest =>
      asPath .plain (rest.dropWhile isVoid)
  else none

/-- `Path::parent`. -/
def parent (path : Path) : Option Path :=
  match splitPath path with
  | (start, parts) =>
      match parts.rdropWhile isVoid, start with
      | [], .curDir => some []
      | [], _ => none
      | kept, start => some (asPath start kept.dropLast)

/-! ## Records -/

/-- `LocalFile::try_open`. -/
def LocalFile.tryOpen (disk : Disk) (relativeRoot path : Path) :
    Except CliprdrError LocalFile :=
  match disk.metadata path with
  | .error err => .error (.fileError path err)
  | .ok mt =>
      let text := Lib.fromUtf8Lossy path
      let hidden := text.head? == some '.'
      .ok {
        relativeRoot := relativeRoot
        path := path
        -- Files are opened lazily.
        handle := none
        offset := 0
        name := (text.dropWhile (· == '/')).map fun char => if char = '/' then '\\' else char
        size := mt.len
        lastWriteTime := mt.modified.getD 0
        isDir := mt.isDir
        perm := mt.mode
        readOnly := mt.readonly
        hidden := hidden
        system := false
        archive := false
        normal := !(mt.isDir || mt.readonly || false || hidden || false) }

/-- `LDAP_EPOCH_DELTA`. -/
def ldapEpochDelta : Nat := 116444772610000000

/-- `FLAGS_FD_ATTRIBUTES`. -/
def flagsFdAttributes : Nat := 0x04

/-- `FLAGS_FD_SIZE`. -/
def flagsFdSize : Nat := 0x40

/-- `FLAGS_FD_LAST_WRITE`. -/
def flagsFdLastWrite : Nat := 0x20

/-- `FLAGS_FD_PROGRESSUI`. -/
def flagsFdProgressui : Nat := 0x4000

/-- `FLAGS_FD_UNIX_MODE`. -/
def flagsFdUnixMode : Nat := 0x08

namespace LocalFile

variable (file : LocalFile)

/-- The attributes of a record. -/
def fileAttributes : Nat :=
  (if file.readOnly then 0x1 else 0) ||| (if file.hidden then 0x2 else 0) |||
    (if file.system then 0x4 else 0) ||| (if file.isDir then 0x10 else 0) |||
    (if file.archive then 0x20 else 0) ||| (if file.normal then 0x80 else 0)

/-- The time of a record: steps of 100 ns, from the epoch of Windows on. -/
def win32Time : Nat :=
  file.lastWriteTime.toNat % 2 ^ 64 / 100 + ldapEpochDelta

/-- The path below the relative root, or the whole path. -/
def relativePath : Path :=
  (stripPrefix file.path file.relativeRoot).getD file.path

/-- The code units of the path that is written. -/
def nameUnits : List Nat :=
  Lib.utf16 (Lib.fromUtf8Lossy file.relativePath)

/-- The fields before the name. -/
def fixedFields : Bytes :=
  let flags := flagsFdSize ||| flagsFdLastWrite ||| flagsFdAttributes |||
    flagsFdProgressui ||| flagsFdUnixMode
  Lib.littleEndian 4 flags ++ (List.replicate 32 0 ++
    (Lib.littleEndian 4 file.fileAttributes ++ (List.replicate 12 0 ++
      (Lib.littleEndian 4 file.perm.toNat ++
        (Lib.littleEndian 8 file.win32Time ++
          (Lib.littleEndian 4 (file.size.toNat / 2 ^ 32) ++
            Lib.littleEndian 4 (file.size.toNat % 2 ^ 32)))))))

/-- `LocalFile::as_bin`; nothing when the padding of the name has no length. -/
def asBin : Option Bytes :=
  let name := Lib.bytesOfUnits file.nameUnits
  if name.length ≤ 520 then
    some (file.fixedFields ++ (name ++ List.replicate (520 - name.length) 0))
  else none

@[simp] theorem length_fixedFields : file.fixedFields.length = 72 := by
  simp [fixedFields]

/-- A record has 592 bytes if its name fits, and else it is not written. -/
theorem asBin_length_iff :
    (∃ bytes, file.asBin = some bytes ∧ bytes.length = 592) ↔
      file.nameUnits.length ≤ 260 := by
  rw [asBin, Lib.length_bytesOfUnits]
  constructor
  · rintro ⟨bytes, written, _⟩
    split at written
    · omega
    · cases written
  · intro fits
    rw [if_pos (by omega)]
    refine ⟨_, rfl, ?_⟩
    simp only [List.length_append, length_fixedFields, Lib.length_bytesOfUnits,
      List.length_replicate]
    omega

end LocalFile

/-! ## Lists -/

/-- A path and what it contains are added to a list.  The depth bounds how far
directories are entered. -/
def constrFileList (disk : Disk) (relativeRoot : Path) :
    Nat → Path → List LocalFile × List Path →
      Except CliprdrError (List LocalFile × List Path)
  | 0, path, _ => .error (.fileError path "File name too long")
  | depth + 1, path, (fileList, visited) =>
      -- Prevent a loop of the file system.
      if visited.any fun other => components other == components path then
        .ok (fileList, visited)
      else do
        let localFile ← LocalFile.tryOpen disk relativeRoot path
        let fileList := fileList ++ [localFile]
        let visited := visited ++ [path]
        match disk.metadata path with
        | .error err => .error (.fileError path err)
        | .ok mt =>
            if mt.isDir then
              match disk.readDir path with
              | .error err => .error (.fileError path err)
              | .ok dir =>
                  dir.foldlM
                    (fun collected entry =>
                      match entry with
                      | .error err => .error (.fileError path err)
                      | .ok path => constrFileList disk relativeRoot depth path collected)
                    (fileList, visited)
            else .ok (fileList, visited)

/-- `PATH_MAX`: no path of a file system is longer. -/
def pathMax : Nat := 4096

/-- `construct_file_list`. -/
def constructFileList (disk : Disk) (paths : List Path) :
    Except CliprdrError (List LocalFile) :=
  match paths.head? with
  | none => .error (.invalidRequest "empty file list")
  | some first =>
      match parent first with
      | none => .error (.invalidRequest "empty parent")
      | some relativeRoot =>
          (paths.foldlM
            (fun collected path => constrFileList disk relativeRoot pathMax path collected)
            (([], []) : List LocalFile × List Path)).map Prod.fst

end Clipboard
end OneDesk
