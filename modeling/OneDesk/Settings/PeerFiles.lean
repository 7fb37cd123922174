import Mathlib.Data.Set.Function
import OneDesk.Lib.Base64
import OneDesk.Lib.Components
import OneDesk.Settings.Storage

/-!
# The files of peers

Every peer has a file that is named after its identifier.  Identifiers with
characters that file names cannot have are written in base64, which has a
slash of its own, and the directory is read back by a guess: what begins like
an encoded identifier is decoded.  The paths are those of Unix.
-/

namespace OneDesk
namespace Settings

open OneDesk.Lib
open OneDesk.Lib.Components

/-- What the names of files rely on: base64 with the standard alphabet and padding. -/
structure Primitives.StandardBase64 (p : Primitives) : Prop where
  encode_eq : ∀ data, p.encode data = Base64.encode data
  decode_encode : ∀ data, p.decode (utf8 (p.encode data)) = some data
  length_of_decode : ∀ text data, p.decode (utf8 text) = some data →
    4 ∣ text.length ∧ data.length ≤ text.length

/-- `PEERS` -/
def peersName : Text := "peers".toList

/-- What an encoded identifier begins with. -/
def base64Prefix : Text := "base64_".toList

/-- The extension of every file. -/
def tomlExtension : Text := "toml".toList

/-- The characters of `forbidden_paths`. -/
def isForbidden (char : Char) : Bool :=
  "<>:/\\|?*".toList.contains char

/-- `Config::with_extension` -/
def withTomlExtension (path : PathBuf) : PathBuf :=
  match extension path with
  | some ext => withExtension path (ext ++ '.' :: tomlExtension)
  | none => withExtension path tomlExtension

/-- A file of a peer, as far as its record is looked at. -/
structure PeerFile where
  config : PeerConfig
  /-- `info.platform` -/
  platform : Text
  deriving DecidableEq

/-- What `PeerConfig::load` gives where it cannot read a file. -/
def PeerFile.empty : PeerFile := ⟨.empty, []⟩

/-- The files that there are, without a record where it cannot be read. -/
abbrev PeerDisk := Table PathBuf (Option PeerFile)

/-- An entry of a directory. -/
structure DirEntry where
  name : Component
  isFile : Bool
  modified : Int

/-- What is known of a peer before its file is loaded. -/
structure Listed where
  id : Text
  modified : Int
  path : PathBuf

/-- `BATCH_LOADING_COUNT` -/
def batchLoadingCount : Nat := 100

section Files

variable (p : Primitives) (root : PathBuf)

/-- The directory of peers, where `root` is that of the configuration. -/
def peersDir : PathBuf :=
  push root peersName

/-- The identifier as it is written in a path. -/
def idEncoded (id : Text) : Text :=
  if id.any isForbidden then base64Prefix ++ p.encode (utf8 id) else id

/-- `PeerConfig::path` -/
def peerPath (id : Text) : PathBuf :=
  withTomlExtension (push (peersDir root) (idEncoded p id))

/-- The identifier that a file is listed under. -/
def listedId (path : PathBuf) : Text :=
  let id := (fileStem path).getD []
  if base64Prefix <+: id ∧ (utf8 id).length ≠ 7 then
    fromUtf8Lossy ((p.decode (utf8 (id.drop 7))).getD [])
  else id

/-- An entry of the directory as it is listed, if it is a file of a peer. -/
def listEntry (entry : DirEntry) : Option Listed :=
  let path := peersDir root ++ [entry.name]
  if entry.isFile ∧ extension path = some tomlExtension then
    some { id := listedId p path, modified := entry.modified, path }
  else none

/-- `PeerConfig::get_vec_id_modified_time_path`, given what `read_dir` yields. -/
def getVecIdModifiedTimePath
    (idFilters : Option (List Text))
    (peers : Option (List DirEntry)) : List Listed :=
  match peers with
  | none => []
  | some peers =>
      ((peers.filterMap (listEntry p root)).filter fun listed =>
        idFilters.all fun filters => filters.contains listed.id).mergeSort
          fun left right => right.modified ≤ left.modified

/-- `PeerConfig::load`, which may store the record again. -/
def loadPeerFile (id : Text) (disk : PeerDisk) : PeerFile × PeerDisk :=
  match disk.lookup (peerPath p root id) with
  | some (some file) =>
      let loaded := file.config.load p
      ({ file with config := loaded.record },
        if loaded.store then
          disk.insert (peerPath p root id)
            (some { file with config := loaded.record.store p })
        else disk)
  | _ => (.empty, disk)

/-- Load a listed peer, and remove its file if it has no platform. -/
def loadListed (listed : Listed) (disk : PeerDisk) : PeerFile × PeerDisk :=
  let (file, disk) := loadPeerFile p root listed.id disk
  (file, if file.platform = [] then disk.erase listed.path else disk)

/-- Load listed peers one after the other. -/
def loadAll : List Listed → PeerDisk → List (Listed × PeerFile) × PeerDisk
  | [], disk => ([], disk)
  | listed :: rest, disk =>
      let (file, disk) := loadListed p root listed disk
      let (files, disk) := loadAll rest disk
      (if file.platform = [] then files else (listed, file) :: files, disk)

/-- `PeerConfig::batch_peers` -/
def batchPeers
    (all : List Listed)
    (start : Nat)
    (stop : Option Nat)
    (disk : PeerDisk) : (List (Listed × PeerFile) × Nat) × PeerDisk :=
  if all.length ≤ start then (([], 0), disk)
  else
    let stop :=
      match stop with
      | some stop => min stop all.length
      | none => min (start + batchLoadingCount) all.length
    if stop ≤ start then (([], start), disk)
    else
      let (peers, disk) := loadAll p root ((all.take stop).drop start) disk
      ((peers, stop), disk)

end Files

/-! ## Paths of names -/

theorem peersDir_eq (root : PathBuf) : peersDir root = root ++ [peersName] :=
  IsName.push_eq ⟨by decide, by decide, by decide, by decide⟩ root

/-- The extension is appended to whatever name there is. -/
theorem withTomlExtension_concat
    (path : PathBuf)
    {name : Component}
    (notRoot : name ≠ rootDir)
    (notParent : name ≠ parentDir) :
    withTomlExtension (path ++ [name]) = path ++ [name ++ '.' :: tomlExtension] := by
  have named := fileName_concat path notRoot notParent
  rw [withTomlExtension, extension, named, Option.bind_some]
  rcases splitAtDot_cases name with whole | ⟨stem, ext, divided, joined⟩
  · rw [whole]
    simp only [withExtension, named, whole, List.dropLast_concat]
    rfl
  · rw [divided]
    simp only [withExtension, named, divided, List.dropLast_concat]
    rw [if_neg (by simp), ← joined, List.append_assoc]
    rfl

/-- A name with the extension has it, and the name for its stem. -/
theorem fileName_toml
    (path : PathBuf)
    (name : Component) :
    fileName (path ++ [name ++ '.' :: tomlExtension]) =
      some (name ++ '.' :: tomlExtension) := by
  have length : (name ++ '.' :: tomlExtension).length ≠ 2 ∧
      (name ++ '.' :: tomlExtension).length ≠ 1 := by
    rw [List.length_append]
    constructor <;> simp [tomlExtension]
  refine fileName_concat path (fun isRoot => ?_) (fun isParent => ?_)
  · exact length.2 (by rw [isRoot]; rfl)
  · exact length.1 (by rw [isParent]; rfl)

theorem splitAtDot_toml
    {name : Component}
    (given : name ≠ []) :
    splitAtDot (name ++ '.' :: tomlExtension) = (name, some tomlExtension) :=
  splitAtDot_append given (by decide)

section Correspondence

variable (p : Primitives) (root : PathBuf)

/-- A name of a file that stands for an identifier. -/
theorem listedId_toml
    {name : Component}
    (given : name ≠ []) :
    listedId p (peersDir root ++ [name ++ '.' :: tomlExtension]) =
      if base64Prefix <+: name ∧ (utf8 name).length ≠ 7 then
        fromUtf8Lossy ((p.decode (utf8 (name.drop 7))).getD [])
      else name := by
  rw [listedId, fileStem, fileName_toml, Option.map_some, splitAtDot_toml given,
    Option.getD_some]

/-- The file of a peer lies in the directory and is listed as that peer's. -/
structure Corresponds (id : Text) : Prop where
  inside : ∃ name, IsName name ∧ peerPath p root id = peersDir root ++ [name]
  listed : ∀ peers : List DirEntry,
    (∃ entry ∈ peers, entry.isFile = true ∧
      peersDir root ++ [entry.name] = peerPath p root id) →
    ∀ other, (∃ listed ∈ getVecIdModifiedTimePath p root none (some peers),
      listed.id = other ∧ listed.path = peerPath p root id) ↔ other = id

/-- An identifier whose file name can be read back. -/
def Encodable (id : Text) : Prop :=
  if id.any isForbidden then '/' ∉ p.encode (utf8 id)
  else id ∉ [[], ['.'], parentDir] ∧ (base64Prefix <+: id → id = base64Prefix)

instance (id : Text) : Decidable (Encodable p id) :=
  inferInstanceAs (Decidable (if id.any isForbidden then '/' ∉ p.encode (utf8 id)
    else id ∉ [[], ['.'], parentDir] ∧ (base64Prefix <+: id → id = base64Prefix)))

theorem mem_getVec_iff
    {listed : Listed}
    {idFilters : Option (List Text)}
    {peers : List DirEntry} :
    listed ∈ getVecIdModifiedTimePath p root idFilters (some peers) ↔
      (∃ entry ∈ peers, listEntry p root entry = some listed) ∧
        idFilters.all (fun filters => filters.contains listed.id) = true := by
  rw [getVecIdModifiedTimePath, List.mem_mergeSort, List.mem_filter, List.mem_filterMap]

/-- What is listed is a file in the directory, under the identifier of its name. -/
theorem eq_of_listEntry
    {entry : DirEntry}
    {listed : Listed}
    (isListed : listEntry p root entry = some listed) :
    entry.isFile = true ∧ listed.path = peersDir root ++ [entry.name] ∧
      extension listed.path = some tomlExtension ∧
      listed.id = listedId p listed.path := by
  simp only [listEntry, Option.ite_none_right_eq_some, Option.some.injEq] at isListed
  obtain ⟨⟨isFile, isToml⟩, rfl⟩ := isListed
  exact ⟨isFile, rfl, isToml, rfl⟩

/-- To correspond is to have a name in the directory that is read as the identifier. -/
theorem corresponds_iff (id : Text) :
    Corresponds p root id ↔
      (∃ name, IsName name ∧ peerPath p root id = peersDir root ++ [name]) ∧
        extension (peerPath p root id) = some tomlExtension ∧
        listedId p (peerPath p root id) = id := by
  constructor
  · rintro ⟨⟨name, isName, path_eq⟩, listed⟩
    obtain ⟨entry, member, id_eq, sameFile⟩ :=
      (listed [⟨name, true, 0⟩]
        ⟨⟨name, true, 0⟩, List.mem_singleton_self _, rfl, path_eq.symm⟩ id).mpr rfl
    obtain ⟨⟨found, _, isListed⟩, -⟩ := (mem_getVec_iff p root).mp member
    obtain ⟨-, -, isToml, read⟩ := eq_of_listEntry p root isListed
    rw [sameFile] at isToml read
    exact ⟨⟨name, isName, path_eq⟩, isToml, read.symm.trans id_eq⟩
  · rintro ⟨inside, isToml, read⟩
    refine ⟨inside, fun peers present other => ⟨?_, ?_⟩⟩
    · rintro ⟨entry, member, rfl, sameFile⟩
      obtain ⟨⟨found, _, isListed⟩, -⟩ := (mem_getVec_iff p root).mp member
      rw [(eq_of_listEntry p root isListed).2.2.2, sameFile, read]
    · rintro rfl
      obtain ⟨entry, member, isFile, path_eq⟩ := present
      refine ⟨⟨other, entry.modified, peerPath p root other⟩,
        (mem_getVec_iff p root).mpr ⟨⟨entry, member, ?_⟩, rfl⟩, rfl, rfl⟩
      simp only [listEntry, path_eq, isFile, isToml, read]
      exact if_pos ⟨trivial, trivial⟩

end Correspondence

/-! ## Which names can be read back -/

section Reading

variable {p : Primitives} {root : PathBuf} {id : Text}

theorem isName_toml {name : Component} (isName : IsName name) :
    IsName (name ++ '.' :: tomlExtension) where
  ne_nil := by simp
  ne_dot same := by
    have length := congrArg List.length same
    simp [tomlExtension] at length
  ne_parentDir same := by
    have length := congrArg List.length same
    simp [tomlExtension, parentDir] at length
  noSeparator := by
    rw [List.mem_append, not_or]
    exact ⟨isName.noSeparator, by decide⟩

/-- An identifier that is written as one name has a file of that name. -/
theorem peerPath_of_isName (isName : IsName (idEncoded p id)) :
    peerPath p root id =
      peersDir root ++ [idEncoded p id ++ '.' :: tomlExtension] := by
  rw [peerPath, isName.push_eq,
    withTomlExtension_concat _ isName.ne_rootDir isName.ne_parentDir]

theorem corresponds_of_isName
    (isName : IsName (idEncoded p id))
    (read : listedId p
      (peersDir root ++ [idEncoded p id ++ '.' :: tomlExtension]) = id) :
    Corresponds p root id := by
  rw [corresponds_iff, peerPath_of_isName isName]
  refine ⟨⟨_, isName_toml isName, rfl⟩, ?_, read⟩
  rw [extension, fileName_toml, Option.bind_some, splitAtDot_toml isName.ne_nil]

theorem noSeparator_of_not_forbidden (plain : id.any isForbidden = false) : '/' ∉ id := by
  intro member
  have forbidden : id.any isForbidden = true := List.any_eq_true.mpr ⟨'/', member, rfl⟩
  rw [plain] at forbidden
  cases forbidden

theorem ne_nil_of_forbidden (forbidden : id.any isForbidden = true) : id ≠ [] := by
  rintro rfl
  cases forbidden

theorem Primitives.StandardBase64.encode_ne_nil
    (base64 : p.StandardBase64)
    {data : Bytes}
    (given : data ≠ []) :
    p.encode data ≠ [] := by
  intro empty
  have decoded := Base64.decode_encode data
  rw [← base64.encode_eq, empty] at decoded
  exact given (Option.some.inj decoded).symm

/-- The bytes of an encoded identifier behind its prefix. -/
theorem length_encodedName
    (base64 : p.StandardBase64)
    (forbidden : id.any isForbidden = true) :
    (utf8 (base64Prefix ++ p.encode (utf8 id))).length ≠ 7 := by
  have given := base64.encode_ne_nil (utf8_eq_nil.not.mpr (ne_nil_of_forbidden forbidden))
  have positive := List.length_pos_iff.mpr (utf8_eq_nil.not.mpr given)
  have seven : (utf8 base64Prefix).length = 7 := by decide
  rw [utf8_append, List.length_append, seven]
  omega

theorem Encodable.corresponds
    (base64 : p.StandardBase64)
    (encodable : Encodable p id) :
    Corresponds p root id := by
  cases forbidden : id.any isForbidden with
  | true =>
      rw [Encodable, if_pos forbidden] at encodable
      have name_eq : idEncoded p id = base64Prefix ++ p.encode (utf8 id) :=
        if_pos forbidden
      have isName : IsName (idEncoded p id) := by
        rw [name_eq]
        refine ⟨List.append_ne_nil_of_left_ne_nil (by decide) _, fun same => ?_, fun same => ?_, ?_⟩
        · cases same
        · cases same
        · rw [List.mem_append, not_or]
          exact ⟨by decide, encodable⟩
      refine corresponds_of_isName isName ?_
      rw [listedId_toml p root isName.ne_nil, name_eq,
        if_pos ⟨List.prefix_append _ _, length_encodedName base64 forbidden⟩]
      rw [show (base64Prefix ++ p.encode (utf8 id)).drop 7 = p.encode (utf8 id) from rfl,
        base64.decode_encode, Option.getD_some, fromUtf8Lossy_utf8]
  | false =>
      rw [Encodable, if_neg (by simp [forbidden])] at encodable
      have name_eq : idEncoded p id = id := if_neg (by simp [forbidden])
      have isName : IsName (idEncoded p id) := by
        rw [name_eq]
        simp only [List.mem_cons, List.not_mem_nil, or_false, not_or] at encodable
        exact ⟨encodable.1.1, encodable.1.2.1, encodable.1.2.2,
          noSeparator_of_not_forbidden forbidden⟩
      refine corresponds_of_isName isName ?_
      rw [listedId_toml p root isName.ne_nil, name_eq, if_neg]
      rintro ⟨isPrefix, length⟩
      rw [encodable.2 isPrefix] at length
      exact length (by decide)

/-- The names that stand for the directory, or for the one above it. -/
theorem not_corresponds_of_dots (special : id ∈ [[], ['.'], parentDir]) :
    ¬Corresponds p root id := by
  intro corresponds
  obtain ⟨⟨name, isName, path_eq⟩, -, -⟩ := (corresponds_iff p root id).mp corresponds
  simp only [List.mem_cons, List.not_mem_nil, or_false] at special
  have above : ∀ text : Text, components text = [] → text.head? ≠ some '/' →
      withTomlExtension (push (peersDir root) text) ≠ peersDir root ++ [name] := by
    intro text none relative same
    rw [push, if_neg relative, none, List.append_nil, peersDir_eq,
      withTomlExtension_concat _ (by decide) (by decide)] at same
    have length := congrArg List.length same
    simp at length
  rcases special with rfl | rfl | rfl
  · exact above [] (by decide) (by decide) path_eq
  · exact above ['.'] (by decide) (by decide) path_eq
  · have unchanged : peerPath p root parentDir = peersDir root ++ [parentDir] := by
      have noName : fileName (peersDir root ++ [parentDir]) = none := by
        simp [fileName]
      have pushed : push (peersDir root) (idEncoded p parentDir) =
          peersDir root ++ [parentDir] := rfl
      rw [peerPath, pushed, withTomlExtension, extension, noName]
      simp only [Option.bind_none, withExtension, noName]
    rw [unchanged] at path_eq
    have same := List.append_cancel_left path_eq
    exact isName.ne_parentDir (List.cons_eq_cons.mp same).1.symm

/-- No more characters are decoded than there are letters. -/
theorem Primitives.StandardBase64.length_decoded_le
    (base64 : p.StandardBase64)
    (text : Text) :
    (fromUtf8Lossy ((p.decode (utf8 text)).getD [])).length ≤ text.length := by
  cases decoded : p.decode (utf8 text) with
  | none => exact Nat.zero_le _
  | some data =>
      exact Nat.le_trans (length_fromUtf8Lossy_le data)
        (base64.length_of_decode text data decoded).2

/-- An identifier that looks like an encoded one is listed as a shorter one. -/
theorem not_corresponds_of_prefix
    (base64 : p.StandardBase64)
    (plain : id.any isForbidden = false)
    (ordinary : id ∉ [[], ['.'], parentDir])
    (isPrefix : base64Prefix <+: id)
    (longer : id ≠ base64Prefix) :
    ¬Corresponds p root id := by
  intro corresponds
  obtain ⟨rest, rfl⟩ := isPrefix
  have given : rest ≠ [] := fun none => longer (by rw [none, List.append_nil])
  have name_eq : idEncoded p (base64Prefix ++ rest) = base64Prefix ++ rest :=
    if_neg (by simp [plain])
  have isName : IsName (idEncoded p (base64Prefix ++ rest)) := by
    rw [name_eq]
    simp only [List.mem_cons, List.not_mem_nil, or_false, not_or] at ordinary
    exact ⟨ordinary.1, ordinary.2.1, ordinary.2.2, noSeparator_of_not_forbidden plain⟩
  have length : (utf8 (base64Prefix ++ rest)).length ≠ 7 := by
    have positive := List.length_pos_iff.mpr (utf8_eq_nil.not.mpr given)
    have seven : (utf8 base64Prefix).length = 7 := by decide
    rw [utf8_append, List.length_append, seven]
    omega
  have read := ((corresponds_iff p root _).mp corresponds).2.2
  rw [peerPath_of_isName isName, listedId_toml p root isName.ne_nil, name_eq,
    if_pos ⟨List.prefix_append _ _, length⟩] at read
  have bounded := base64.length_decoded_le ((base64Prefix ++ rest).drop 7)
  rw [read, List.length_drop, List.length_append] at bounded
  have seven : base64Prefix.length = 7 := rfl
  omega

/-- Whether a path has an extension does not change how many components it has. -/
theorem length_withTomlExtension (path : PathBuf) :
    (withTomlExtension path).length = path.length := by
  have kept : ∀ extension : Component, (withExtension path extension).length = path.length := by
    intro extension
    rw [withExtension]
    split
    case h_1 => rfl
    case h_2 name named =>
      have given : path ≠ [] := by
        rintro rfl
        cases named
      have positive := List.length_pos_iff.mpr given
      rw [List.length_append, List.length_dropLast, List.length_singleton]
      omega
  rw [withTomlExtension]
  split
  · exact kept _
  · exact kept _

/-- A slash in the encoded identifier ends the first component of its path. -/
theorem push_of_slash
    {first rest : Text}
    (forbidden : id.any isForbidden = true)
    (encoded : p.encode (utf8 id) = first ++ '/' :: rest)
    (noSlash : '/' ∉ first) :
    push (peersDir root) (idEncoded p id) =
      peersDir root ++ (base64Prefix ++ first) ::
        (rest.splitOn '/').filter fun part => part ≠ [] ∧ part ≠ ['.'] := by
  have name_eq : idEncoded p id = (base64Prefix ++ first) ++ '/' :: rest := by
    rw [idEncoded, if_pos forbidden, encoded, List.append_assoc]
  have noSeparator : '/' ∉ base64Prefix ++ first := by
    rw [List.mem_append, not_or]
    exact ⟨by decide, noSlash⟩
  have parts : components (idEncoded p id) =
      (base64Prefix ++ first) ::
        (rest.splitOn '/').filter fun part => part ≠ [] ∧ part ≠ ['.'] := by
    rw [name_eq, components, splitOn_append_cons _ noSeparator]
    rfl
  rw [← parts, push, if_neg]
  rw [name_eq]
  intro absolute
  have first : ('b' : Char) = '/' := Option.some.inj absolute
  exact absurd first (by decide)

/-- A text without dots that has no component consists of slashes. -/
theorem eq_slashes_of_no_component
    {rest : Text}
    (noDot : '.' ∉ rest)
    (none : (rest.splitOn '/').filter (fun part => part ≠ [] ∧ part ≠ ['.']) = []) :
    rest = List.replicate rest.length '/' := by
  refine eq_replicate_of_splitOn fun piece member => ?_
  by_contra given
  have isDot : piece = ['.'] := by
    have dropped := List.filter_eq_nil_iff.mp none piece member
    simpa [given] using dropped
  exact noDot (mem_of_mem_splitOn member (isDot ▸ List.mem_singleton_self _))

/-- An encoded identifier that is cut at slashes is not read back. -/
theorem not_read_of_slashes
    {first : Text}
    {count : Nat}
    (base64 : p.StandardBase64)
    (forbidden : id.any isForbidden = true)
    (encoded : p.encode (utf8 id) = first ++ List.replicate count '/')
    (positive : 0 < count) :
    (if base64Prefix <+: base64Prefix ++ first ∧ (utf8 (base64Prefix ++ first)).length ≠ 7 then
      fromUtf8Lossy ((p.decode (utf8 ((base64Prefix ++ first).drop 7))).getD [])
    else base64Prefix ++ first) ≠ id := by
  intro read
  split at read
  case isFalse short =>
    have seven : first = [] := by
      by_contra some
      have positive := List.length_pos_iff.mpr (utf8_eq_nil.not.mpr some)
      have prefixLength : (utf8 base64Prefix).length = 7 := by decide
      refine short ⟨List.prefix_append _ _, ?_⟩
      rw [utf8_append, List.length_append, prefixLength]
      omega
    rw [seven, List.append_nil] at read
    rw [← read] at forbidden
    exact absurd forbidden (by decide)
  case isTrue =>
    rw [show (base64Prefix ++ first).drop 7 = first from rfl] at read
    cases decoded : p.decode (utf8 first) with
    | none =>
        rw [decoded] at read
        exact ne_nil_of_forbidden forbidden read.symm
    | some data =>
        have groups := (base64.length_of_decode first data decoded).1
        rw [base64.encode_eq] at encoded
        exact not_mem_utf8 id
          (Base64.mem_of_encode_eq_append_slashes encoded groups positive)

/-- A slash in the encoded identifier makes a directory of its beginning, or is lost. -/
theorem not_corresponds_of_slash
    (base64 : p.StandardBase64)
    (forbidden : id.any isForbidden = true)
    (slash : '/' ∈ p.encode (utf8 id)) :
    ¬Corresponds p root id := by
  intro corresponds
  obtain ⟨⟨name, isName, path_eq⟩, -, read⟩ := (corresponds_iff p root id).mp corresponds
  obtain ⟨first, rest, encoded, noSlash⟩ := List.eq_append_cons_of_mem slash
  have noDot : '.' ∉ rest := by
    intro member
    refine Base64.dot_not_mem (utf8 id) ?_
    rw [← base64.encode_eq, encoded]
    simp [member]
  have pushed : push (peersDir root) (idEncoded p id) = _ :=
    push_of_slash forbidden encoded noSlash
  have single : (rest.splitOn '/').filter (fun part => part ≠ [] ∧ part ≠ ['.']) = [] := by
    have length := congrArg List.length path_eq
    rw [peerPath, length_withTomlExtension, pushed] at length
    simp only [List.length_append, List.length_cons, List.length_nil] at length
    exact List.length_eq_zero_iff.mp
      (Nat.succ_injective (Nat.add_left_cancel length))
  have notSpecial : base64Prefix ++ first ≠ rootDir ∧ base64Prefix ++ first ≠ parentDir := by
    constructor
    · intro same
      cases same
    · intro same
      cases same
  rw [peerPath, pushed, single,
    withTomlExtension_concat _ notSpecial.1 notSpecial.2,
    listedId_toml p root (List.append_ne_nil_of_left_ne_nil (by decide) first)] at read
  rw [eq_slashes_of_no_component noDot single, ← List.replicate_succ] at encoded
  exact not_read_of_slashes base64 forbidden encoded (Nat.succ_pos _) read

/-- The file of a peer corresponds exactly if its identifier can be encoded. -/
theorem corresponds_iff_encodable (base64 : p.StandardBase64) :
    Corresponds p root id ↔ Encodable p id := by
  refine ⟨fun corresponds => ?_, fun encodable => encodable.corresponds base64⟩
  rw [Encodable]
  split
  case isTrue forbidden =>
    intro slash
    exact not_corresponds_of_slash base64 forbidden slash corresponds
  case isFalse plain =>
    have ordinary : id ∉ [[], ['.'], parentDir] :=
      fun special => not_corresponds_of_dots special corresponds
    refine ⟨ordinary, fun isPrefix => ?_⟩
    by_contra longer
    exact not_corresponds_of_prefix base64 (Bool.not_eq_true _ ▸ plain) ordinary isPrefix
      longer corresponds

end Reading

/-! ## Loading what is listed -/

section Loading

variable {p : Primitives} {root : PathBuf} {disk : PeerDisk} {path : PathBuf}
variable {platform : Text}

/-- There is a file with a record of some platform. -/
def Holds (disk : PeerDisk) (path : PathBuf) (platform : Text) : Prop :=
  ∃ file, disk.lookup path = some (some file) ∧ file.platform = platform

/-- Loading a peer may encrypt its record, and keeps its platform. -/
theorem Holds.loadPeerFile
    (holds : Holds disk path platform)
    (id : Text) :
    Holds (loadPeerFile p root id disk).2 path platform := by
  obtain ⟨file, present, isPlatform⟩ := holds
  rw [Settings.loadPeerFile]
  split
  case h_1 loaded found =>
    dsimp only
    split
    · by_cases same : path = peerPath p root id
      · rw [same, found] at present
        cases present
        exact ⟨⟨(file.config.load p).record.store p, file.platform⟩,
          by rw [same, Finmap.lookup_insert], isPlatform⟩
      · exact ⟨file, by rw [Finmap.lookup_insert_of_ne _ same, present], isPlatform⟩
    · exact ⟨file, present, isPlatform⟩
  case h_2 => exact ⟨file, present, isPlatform⟩

theorem Holds.platform_loadPeerFile
    {id : Text}
    (holds : Holds disk (peerPath p root id) platform) :
    (Settings.loadPeerFile p root id disk).1.platform = platform := by
  obtain ⟨file, present, isPlatform⟩ := holds
  rw [Settings.loadPeerFile, present]
  exact isPlatform

/-- Where a file is listed as the peer it belongs to, it is not removed. -/
theorem Holds.loadListed
    {id : Text}
    {listed : Listed}
    (holds : Holds disk (peerPath p root id) platform)
    (given : platform ≠ [])
    (own : listed.path = peerPath p root id → listed.id = id) :
    Holds (loadListed p root listed disk).2 (peerPath p root id) platform := by
  have after :
      Holds (Settings.loadPeerFile p root listed.id disk).2 (peerPath p root id) platform :=
    holds.loadPeerFile listed.id
  rw [Settings.loadListed]
  dsimp only
  split
  case isTrue removed =>
    have other : peerPath p root id ≠ listed.path := by
      intro same
      have read : (Settings.loadPeerFile p root listed.id disk).1.platform = platform := by
        rw [own same.symm]
        exact holds.platform_loadPeerFile
      exact given (read.symm.trans removed)
    obtain ⟨file, present, isPlatform⟩ := after
    exact ⟨file, by rw [Finmap.lookup_erase_ne other, present], isPlatform⟩
  case isFalse => exact after

theorem Holds.loadAll
    {id : Text}
    {all : List Listed}
    (holds : Holds disk (peerPath p root id) platform)
    (given : platform ≠ [])
    (own : ∀ listed ∈ all, listed.path = peerPath p root id → listed.id = id) :
    Holds (loadAll p root all disk).2 (peerPath p root id) platform := by
  induction all generalizing disk with
  | nil => exact holds
  | cons listed rest inductionHypothesis =>
      rw [List.forall_mem_cons] at own
      exact inductionHypothesis (holds.loadListed given own.1) own.2

theorem Holds.batchPeers
    {id : Text}
    {all : List Listed}
    (holds : Holds disk (peerPath p root id) platform)
    (given : platform ≠ [])
    (own : ∀ listed ∈ all, listed.path = peerPath p root id → listed.id = id)
    (start : Nat)
    (stop : Option Nat) :
    Holds (batchPeers p root all start stop disk).2 (peerPath p root id) platform := by
  have loaded : ∀ stop : Nat,
      Holds (Settings.loadAll p root ((all.take stop).drop start) disk).2
        (peerPath p root id) platform :=
    fun stop => holds.loadAll given fun listed member =>
      own listed (List.mem_of_mem_take (List.mem_of_mem_drop member))
  unfold Settings.batchPeers
  split
  · exact holds
  · dsimp only
    split
    · split
      · exact holds
      · exact loaded _
    · split
      · exact holds
      · exact loaded _

end Loading

/-- The files of some peers are their own, and are kept. -/
structure PeersSound (p : Primitives) (root : PathBuf) (ids : Set Text) : Prop where
  corresponds : ∀ id ∈ ids, Corresponds p root id
  distinct : Set.InjOn (peerPath p root) ids
  kept : ∀ id ∈ ids, ∀ (disk : PeerDisk) (platform : Text),
    Holds disk (peerPath p root id) platform → platform ≠ [] →
    ∀ idFilters peers start stop,
      Holds
        (batchPeers p root (getVecIdModifiedTimePath p root idFilters peers) start stop
          disk).2
        (peerPath p root id) platform

/-- The files of some peers are their own exactly if their identifiers can be encoded. -/
theorem peersSound_iff_encodable
    (p : Primitives)
    (root : PathBuf)
    (base64 : p.StandardBase64)
    (ids : Set Text) :
    PeersSound p root ids ↔ ∀ id ∈ ids, Encodable p id := by
  constructor
  · intro sound id member
    exact (corresponds_iff_encodable base64).mp (sound.corresponds id member)
  · intro encodable
    have read : ∀ id ∈ ids, listedId p (peerPath p root id) = id := fun id member =>
      ((corresponds_iff p root id).mp ((encodable id member).corresponds base64)).2.2
    refine ⟨fun id member => (encodable id member).corresponds base64, ?_, ?_⟩
    · intro left leftIn right rightIn same
      rw [← read left leftIn, same, read right rightIn]
    · intro id member disk platform holds given idFilters peers start stop
      refine holds.batchPeers given (fun listed isListed path_eq => ?_) start stop
      cases peers with
      | none => cases isListed
      | some peers =>
          obtain ⟨⟨entry, _, isEntry⟩, -⟩ := (mem_getVec_iff p root).mp isListed
          rw [(eq_of_listEntry p root isEntry).2.2.2, path_eq, read id member]

/-- Primitives with the standard base64. -/
def standardPrimitives : Primitives :=
  { clearPrimitives with
    encode := Base64.encode
    decode := fun bytes => Base64.decode (fromUtf8Lossy bytes) }

theorem standardPrimitives_base64 : standardPrimitives.StandardBase64 where
  encode_eq _ := rfl
  decode_encode data := by
    simp only [standardPrimitives, fromUtf8Lossy_utf8, Base64.decode_encode]
  length_of_decode text data decoded := by
    simp only [standardPrimitives, fromUtf8Lossy_utf8] at decoded
    exact Base64.length_of_decode decoded

theorem peersSound_iff_encodable_colon :
    PeersSound standardPrimitives [] {"127.0.0.1:21118".toList} :=
  (peersSound_iff_encodable standardPrimitives [] standardPrimitives_base64 _).mpr
    fun id member => by
      rw [Set.mem_singleton_iff.mp member]
      decide +kernel

/-- The file of the peer `base64_x` is listed as one without a name, and removed. -/
theorem file_with_platform_removed :
    ¬PeersSound standardPrimitives [] {"base64_x".toList} := by
  intro sound
  have kept := sound.kept _ rfl
    (Finmap.singleton (peerPath standardPrimitives [] "base64_x".toList)
      (some ⟨.empty, "Linux".toList⟩))
    "Linux".toList ⟨_, Finmap.lookup_singleton_eq, rfl⟩ (by decide) none
    (some [⟨"base64_x.toml".toList, true, 0⟩]) 0 none
  obtain ⟨file, present, -⟩ := kept
  have removed : Finmap.lookup (peerPath standardPrimitives [] "base64_x".toList)
      (batchPeers standardPrimitives []
        (getVecIdModifiedTimePath standardPrimitives [] none
          (some [⟨"base64_x.toml".toList, true, 0⟩])) 0 none
        (Finmap.singleton (peerPath standardPrimitives [] "base64_x".toList)
          (some ⟨.empty, "Linux".toList⟩))).2 = none := by
    decide +kernel
  rw [removed] at present
  cases present

end Settings
end OneDesk
