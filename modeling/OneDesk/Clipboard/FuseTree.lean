import Mathlib.Logic.Function.Basic
import OneDesk.Clipboard.FileDescription
import OneDesk.Lib.Split

/-!
# The tree of copied files

A peer's file list becomes a read-only file system.  The descriptions of the list are numbered
in three ways: by their position, by the inode, which is two more, and by the place of the node
behind the root, which is one more.  A node is attached to the directory that was listed for its
parent path, or to the root.
-/

namespace OneDesk
namespace Clipboard

open OneDesk.Stream

/-! ## The last component of a path -/

/-- The component that is no name. -/
def dotDot : Bytes := [dot, dot]

/-- `Path::file_name`. -/
def fileName (path : Path) : Option Bytes :=
  match (components path).2.getLast? with
  | some last => if last = dotDot then none else some last
  | none => none

/-- Parts that a path may be split into, by how it begins. -/
structure Parts (start : Start) (parts : List Bytes) : Prop where
  noSlash : ∀ part ∈ parts, slash ∉ part
  root : start = .root → parts.head? = some []
  plain : start = .plain → ∀ part, parts.head? = some part → isVoid part = false ∨ parts = [[]]

theorem filter_rdropWhile (parts : List Bytes) :
    (parts.rdropWhile isVoid).filter (fun part => !isVoid part) =
      parts.filter fun part => !isVoid part := by
  induction parts using List.reverseRecOn with
  | nil => rfl
  | append_singleton parts last inductionHypothesis =>
      by_cases void : isVoid last = true
      · rw [List.rdropWhile_concat_pos _ _ _ void, inductionHypothesis]
        simp [void]
      · rw [List.rdropWhile_concat_neg _ _ _ void]

/-- Behind the empty part before the root slash, something is kept. -/
theorem ne_nil_of_rdropWhile
    {parts rest : List Bytes}
    (kept : parts.rdropWhile isVoid = [] :: rest) :
    rest ≠ [] := by
  rintro rfl
  have last := List.rdropWhile_last_not isVoid parts (by simp [kept])
  simp [kept, isVoid] at last

/-- A path whose first part is a name is not rooted. -/
theorem head?_intercalate_ne
    {first : Bytes}
    (nonvoid : isVoid first = false)
    (noSlash : slash ∉ first)
    (rest : List Bytes) :
    ([slash].intercalate (first :: rest)).head? ≠ some slash := by
  cases first with
  | nil => cases nonvoid
  | cons byte first =>
      have apart : byte ≠ slash := fun same => noSlash (by simp [same])
      cases rest <;> simpa [List.intercalate_cons_cons] using apart

/-- The components of a path that was put together from parts. -/
theorem components_asPath
    {start : Start}
    {parts : List Bytes}
    (split : Parts start parts) :
    components (asPath start parts) = (start, parts.filter fun part => !isVoid part) := by
  have isPrefix : parts.rdropWhile isVoid <+: parts := List.rdropWhile_prefix isVoid parts
  rw [← filter_rdropWhile]
  cases kept : parts.rdropWhile isVoid with
  | nil =>
      cases start with
      | root =>
          simp only [asPath, kept]
          decide
      | curDir =>
          simp only [asPath, kept]
          decide
      | plain =>
          simp only [asPath, kept]
          decide
  | cons first rest =>
      rw [kept] at isPrefix
      obtain ⟨behind, is⟩ := isPrefix
      have noSlash : ∀ part ∈ first :: rest, slash ∉ part := fun part member =>
        split.noSlash part (is ▸ List.mem_append_left behind member)
      have whole : ([slash].intercalate (first :: rest)).splitOn slash = first :: rest :=
        List.splitOn_intercalate slash noSlash (List.cons_ne_nil _ _)
      have head : parts.head? = some first := by rw [← is]; rfl
      cases start with
      | root =>
          obtain rfl := Option.some.inj ((split.root rfl).symm.trans head)
          obtain ⟨second, others, rfl⟩ :=
            List.exists_cons_of_ne_nil (ne_nil_of_rdropWhile kept)
          have rooted : ([slash].intercalate ([] :: second :: others)).head? = some slash := by
            simp [List.intercalate_cons_cons]
          simp only [asPath, kept, components, splitPath, whole, rooted, if_true]
      | curDir =>
          have apart : slash ∉ [dot] := by decide
          have dotted : (dot :: slash :: [slash].intercalate (first :: rest)).splitOn slash =
              [dot] :: first :: rest := by
            have both := Lib.splitOn_append_cons ([slash].intercalate (first :: rest)) apart
            rwa [whole] at both
          have apartHead : ¬some dot = some slash := by decide
          simp only [asPath, kept, components, splitPath, dotted, List.head?_cons, apartHead,
            if_false, if_true, List.tail_cons]
      | plain =>
          have nonvoid : isVoid first = false := by
            rcases split.plain rfl first head with nonvoid | empty
            · exact nonvoid
            · rw [empty] at kept
              cases kept
          have notDot : ¬some first = some [dot] := by
            rintro ⟨⟩
            cases nonvoid
          have notRooted : ¬([slash].intercalate (first :: rest)).head? = some slash :=
            head?_intercalate_ne nonvoid (noSlash first List.mem_cons_self) rest
          simp only [asPath, kept, components, splitPath, whole, List.head?_cons, notRooted,
            notDot, if_false]

theorem parts_splitPath (path : Path) : Parts (splitPath path).1 (splitPath path).2 := by
  have noSlash : ∀ part ∈ path.splitOn slash, slash ∉ part := fun _ =>
    Lib.not_mem_of_mem_splitOn
  unfold splitPath
  dsimp only
  by_cases rooted : path.head? = some slash
  · rw [if_pos rooted]
    refine ⟨noSlash, fun _ => ?_, fun plain => (by cases plain)⟩
    cases path with
    | nil => cases rooted
    | cons byte path =>
        cases rooted
        rw [← List.nil_append (slash :: path), Lib.splitOn_append_cons path List.not_mem_nil]
        rfl
  · rw [if_neg rooted]
    by_cases dotted : (path.splitOn slash).head? = some [dot]
    · rw [if_pos dotted]
      exact ⟨fun part member => noSlash part (List.mem_of_mem_tail member),
        fun root => (by cases root), fun plain => (by cases plain)⟩
    · rw [if_neg dotted]
      refine ⟨noSlash, fun root => (by cases root), fun _ part isHead => ?_⟩
      cases path with
      | nil => exact .inr rfl
      | cons byte path =>
          left
          rw [List.splitOn_cons_eq_if_modifyHead] at isHead dotted
          have apart : ¬(byte == slash) = true := fun same =>
            rooted (by rw [beq_iff_eq.mp same]; rfl)
          rw [if_neg apart] at isHead dotted
          obtain ⟨first, rest, is⟩ := List.exists_cons_of_ne_nil (List.splitOn_ne_nil slash path)
          rw [is, List.modifyHead_cons, List.head?_cons] at isHead dotted
          cases isHead
          simpa [isVoid] using dotted

/-- The parts of a path, without the last of those that are kept. -/
theorem parts_dropLast
    {start : Start}
    {parts : List Bytes}
    (split : Parts start parts)
    (nonempty : parts.rdropWhile isVoid ≠ []) :
    Parts start (parts.rdropWhile isVoid).dropLast := by
  obtain ⟨behind, is⟩ := List.rdropWhile_prefix isVoid parts
  have last := List.rdropWhile_last_not isVoid parts nonempty
  have isPrefix : (parts.rdropWhile isVoid).dropLast <+: parts :=
    (List.dropLast_prefix _).trans ⟨behind, is⟩
  have head : ∀ part, (parts.rdropWhile isVoid).dropLast.head? = some part →
      parts.head? = some part := by
    intro part isHead
    obtain ⟨more, whole⟩ := isPrefix
    rw [← whole, List.head?_append, isHead]
    rfl
  refine ⟨fun part member => split.noSlash part (isPrefix.subset member), ?_, ?_⟩
  · intro root
    have first := split.root root
    rw [← is] at first
    cases kept : parts.rdropWhile isVoid with
    | nil => exact absurd kept nonempty
    | cons part rest =>
        simp only [kept] at first last ⊢
        cases first
        cases rest with
        | nil => exact absurd rfl last
        | cons second rest => rfl
  · intro plain part isHead
    rcases split.plain plain part (head part isHead) with nonvoid | empty
    · exact .inl nonvoid
    · rw [empty] at nonempty
      exact absurd rfl nonempty

/-- A path with a last component is that of its parent and this component. -/
theorem components_parent
    {path : Path}
    {name : Bytes}
    (isName : fileName path = some name) :
    ∃ up, parent path = some up ∧
      components path = ((components up).1, (components up).2 ++ [name]) := by
  have isLast : ((splitPath path).2.filter fun part => !isVoid part).getLast? = some name := by
    unfold fileName at isName
    split at isName
    · next last is =>
        split at isName
        · cases isName
        · cases isName
          exact is
    · cases isName
  have nonempty : (splitPath path).2.rdropWhile isVoid ≠ [] := by
    intro none
    rw [← filter_rdropWhile, none] at isLast
    cases isLast
  have nonvoid := List.rdropWhile_last_not isVoid _ nonempty
  have kept := List.dropLast_append_getLast nonempty
  have filtered : ((splitPath path).2.filter fun part => !isVoid part) =
      (((splitPath path).2.rdropWhile isVoid).dropLast.filter fun part => !isVoid part) ++
        [((splitPath path).2.rdropWhile isVoid).getLast nonempty] := by
    rw [← filter_rdropWhile]
    refine (congrArg (List.filter fun part => !isVoid part) kept.symm).trans ?_
    rw [List.filter_append]
    simp [nonvoid]
  rw [filtered, List.getLast?_append, List.getLast?_singleton, Option.some_or,
    Option.some.injEq] at isLast
  refine ⟨asPath (splitPath path).1 ((splitPath path).2.rdropWhile isVoid).dropLast, ?_, ?_⟩
  · unfold parent
    cases split : splitPath path with
    | mk start parts =>
        rw [split] at nonempty
        dsimp only at nonempty ⊢
        obtain ⟨first, rest, is⟩ := List.exists_cons_of_ne_nil nonempty
        simp only [is]
  · rw [components_asPath (parts_dropLast (parts_splitPath path) nonempty)]
    unfold components
    rw [filtered, isLast]

/-! ## Nodes -/

namespace Fuse

inductive FileType
  | file
  | directory
  | symlink
  deriving DecidableEq

/-- `FileDescription`; the time of the last access is not read. -/
structure FileDescription where
  connId : Int
  name : Path
  kind : FileType
  lastModified : Int
  lastMetadataChanged : Int
  creationTime : Int
  size : Nat
  perm : Nat
  deriving DecidableEq

/-- `InodeAttributes`, without the time of the last access. -/
structure InodeAttributes where
  inode : Nat
  size : Nat
  lastModified : Int
  lastMetadataChanged : Int
  creationTime : Int
  kind : FileType
  perm : Nat
  deriving DecidableEq

/-- `FuseNode`, without the stream, which is random. -/
structure FuseNode where
  connId : Int
  /-- The position in the list of the peer. -/
  index : Nat
  parent : Option Nat
  name : List Char
  attributes : InodeAttributes
  children : List Nat
  /-- The handles with which the node is open. -/
  fileHandlers : List Nat
  deriving DecidableEq

/-- `FUSE_ROOT_ID`. -/
def fuseRootId : Nat := 1

/-- `MAX_NAME_LEN`. -/
def maxNameLen : Nat := 255

/-- The text of a name, which is empty where the name is none. -/
def nameText (name : Bytes) : List Char := (Lib.fromUtf8 name).getD []

/-- `InodeAttributes::from_description`. -/
def InodeAttributes.fromDescription (inode : Nat) (desc : FileDescription) :
    InodeAttributes where
  inode := inode
  size := desc.size
  lastModified := desc.lastModified
  lastMetadataChanged := desc.lastMetadataChanged
  creationTime := desc.creationTime
  kind := desc.kind
  perm := desc.perm

namespace FuseNode

/-- `FuseNode::from_description`. -/
def fromDescription (inode : Nat) (desc : FileDescription) : FuseNode where
  connId := desc.connId
  index := inode - 2
  parent := none
  name := nameText desc.name
  attributes := .fromDescription inode desc
  children := []
  fileHandlers := []

/-- `FuseNode::new_root`, at some time. -/
def newRoot (now : Int) : FuseNode where
  connId := 0
  index := 0
  parent := none
  name := ['/']
  attributes := ⟨fuseRootId, 0, now, now, now, .directory, permRwx⟩
  children := []
  fileHandlers := []

/-- `FuseNode::add_child`. -/
def addChild (node : FuseNode) (inode : Nat) : FuseNode :=
  { node with children := node.children ++ [inode] }

/-- The inodes of directories, by the components of their paths. -/
abbrev SubRoots := Start × List Bytes → Option Nat

/-- The root, under both of its paths. -/
def rootMap : SubRoots := fun key =>
  if key = components [slash] ∨ key = components [] then some fuseRootId else none

/-- The inode of the directory that a path is in; what is in no directory is in the root. -/
def parentInode (subRoots : SubRoots) (name : Path) : Nat :=
  match Clipboard.parent name with
  | some up => (subRoots (components up)).getD fuseRootId
  | none => fuseRootId

/-- One description is added to the tree.  The parent is in the tree. -/
def addFile (state : List FuseNode × SubRoots) (file : FileDescription) :
    Except CliprdrError (List FuseNode × SubRoots) :=
  let inode := state.1.length + fuseRootId
  let parent := parentInode state.2 file.name
  let tree := state.1.modify (parent - 1) fun node => node.addChild inode
  match fileName file.name with
  | none =>
      .error (.fileError file.name
        ("invalid file name " ++ String.ofList (Lib.fromUtf8Lossy file.name)))
  | some baseName =>
      let subRoots :=
        if file.kind = .directory then
          Function.update state.2 (components file.name) (some inode)
        else state.2
      let node := fromDescription inode { file with name := baseName }
      .ok (tree ++ [{ node with parent := some parent }], subRoots)

/-- `FuseNode::build_tree`. -/
def buildTree (now : Int) (files : List FileDescription) : Except CliprdrError (List FuseNode) :=
  (files.foldlM addFile (([newRoot now], rootMap) : List FuseNode × SubRoots)).map Prod.fst

end FuseNode

/-! ## The server -/

inductive Errno
  | nameTooLong
  | noEntry
  | notDirectory
  | badHandle
  deriving DecidableEq

/-- `FuseServer`, as far as the tree is concerned. -/
structure FuseServer where
  generation : UInt64
  files : List FuseNode
  deriving DecidableEq

namespace FuseServer

variable (server : FuseServer)

/-- `FuseServer::load_file_list`. -/
def loadFileList (now : Int) (files : List FileDescription) :
    Except CliprdrError Unit × FuseServer :=
  match FuseNode.buildTree now files with
  | .error error => (.error error, server)
  | .ok tree => (.ok (), { files := tree, generation := server.generation + 1 })

/-- The node of an inode, where there may be none. -/
def get (inode : Nat) : Option FuseNode :=
  if inode = 0 then none else server.files[inode - 1]?

/-- The children of a node; nothing when an inode is outside the list. -/
def nodes (inodes : List Nat) : Option (List FuseNode) :=
  inodes.mapM server.get

/-- The search of `lookup`; nothing when an inode is outside the list. -/
def search (name : Bytes) : List Nat → Option (Except Errno (InodeAttributes × UInt64))
  | [] => some (.error .noEntry)
  | inode :: inodes =>
      match server.get inode with
      | none => none
      | some child =>
          if Lib.utf8 child.name = name then some (.ok (child.attributes, server.generation))
          else search name inodes

/-- `lookup`; nothing when the list is indexed outside. -/
def lookup (parent : Nat) (name : Bytes) : Option (Except Errno (InodeAttributes × UInt64)) :=
  if maxNameLen < name.length then some (.error .nameTooLong)
  else
    match server.get parent with
    | none => some (.error .noEntry)
    | some entry =>
        if entry.attributes.kind ≠ .directory then some (.error .notDirectory)
        else server.search name entry.children

/-- What `readdir` offers from an offset on: inodes, offsets, kinds and names.  The reply takes
as many as fit.  Nothing when the list is indexed outside. -/
def readdir (ino fh offset : Nat) :
    Option (Except Errno (List (Nat × Nat × FileType × List Char))) :=
  match server.get ino with
  | none => some (.error .noEntry)
  | some entry =>
      if fh ∉ entry.fileHandlers then some (.error .badHandle)
      else if entry.attributes.kind ≠ .directory then some (.error .notDirectory)
      else
        (server.nodes entry.children).map fun children =>
          let inner := (entry.children.zip children).map fun child =>
            (child.1, child.2.attributes.kind, child.2.name)
          let entries := (ino, .directory, ['.']) ::
            (entry.parent.toList.map fun parent => (parent, .directory, ['.', '.'])) ++ inner
          .ok ((entries.zipIdx.map fun entry =>
            (entry.1.1, entry.2 + 1, entry.1.2.1, entry.1.2.2)).drop offset)

/-- `FuseServer::list_root`; nothing when the list is indexed outside. -/
def listRoot : Option (List (List Char)) :=
  match server.files[0]? with
  | none => none
  | some root => (server.nodes root.children).map fun children => children.map (·.name)

end FuseServer

/-! ## The tree in closed form -/

namespace FuseNode

/-- The inodes of the directories of a list. -/
def subRootsOf (files : List FileDescription) : SubRoots :=
  files.zipIdx.foldl
    (fun subRoots file =>
      if file.1.kind = .directory then
        Function.update subRoots (components file.1.name) (some (file.2 + 2))
      else subRoots)
    rootMap

/-- The inode of the parent of a description. -/
def parentAt (files : List FileDescription) (index : Nat) : Nat :=
  match files[index]? with
  | some file => parentInode (subRootsOf (files.take index)) file.name
  | none => 0

/-- The inodes of the descriptions with some parent. -/
def childrenOf (files : List FileDescription) (inode : Nat) : List Nat :=
  ((List.range files.length).filter fun index => parentAt files index = inode).map (· + 2)

/-- The node of a description. -/
def nodeAt (files : List FileDescription) (index : Nat) (file : FileDescription) : FuseNode :=
  { fromDescription (index + 2) { file with name := (fileName file.name).getD [] } with
    parent := some (parentAt files index)
    children := childrenOf files (index + 2) }

/-- The tree of a list. -/
def treeOf (now : Int) (files : List FileDescription) : List FuseNode :=
  { newRoot now with children := childrenOf files fuseRootId } ::
    files.zipIdx.map fun file => nodeAt files file.2 file.1

variable {files : List FileDescription}

theorem subRootsOf_concat (files : List FileDescription) (file : FileDescription) :
    subRootsOf (files ++ [file]) =
      if file.kind = .directory then
        Function.update (subRootsOf files) (components file.name) (some (files.length + 2))
      else subRootsOf files := by
  simp [subRootsOf, List.zipIdx_append]

/-- An inode is that of the root or of a listed directory. -/
theorem subRootsOf_eq_some
    {key : Start × List Bytes}
    {inode : Nat}
    (found : subRootsOf files key = some inode) :
    inode = fuseRootId ∧ (key = components [slash] ∨ key = components []) ∨
      ∃ index file, inode = index + 2 ∧ files[index]? = some file ∧
        file.kind = .directory ∧ components file.name = key := by
  induction files using List.reverseRecOn with
  | nil =>
      simp only [subRootsOf, rootMap, List.zipIdx_nil, List.foldl_nil] at found
      split at found
      · next isRoot =>
          cases found
          exact .inl ⟨rfl, isRoot⟩
      · cases found
  | append_singleton files last inductionHypothesis =>
      have earlier : subRootsOf files key = some inode →
          inode = fuseRootId ∧ (key = components [slash] ∨ key = components []) ∨
            ∃ index file, inode = index + 2 ∧ (files ++ [last])[index]? = some file ∧
              file.kind = .directory ∧ components file.name = key := by
        intro before
        rcases inductionHypothesis before with root | ⟨index, file, rfl, isFile, rest⟩
        · exact .inl root
        · have inside := (List.getElem?_eq_some_iff.mp isFile).1
          exact .inr ⟨index, file, rfl, by rwa [List.getElem?_append_left inside], rest⟩
      rw [subRootsOf_concat] at found
      split at found
      · next isDir =>
          by_cases same : key = components last.name
          · rw [same, Function.update_self, Option.some.injEq] at found
            exact .inr ⟨files.length, last, found.symm, by simp, isDir, same.symm⟩
          · rw [Function.update_of_ne same] at found
            exact earlier found
      · exact earlier found

theorem parentAt_of_lt
    {index : Nat}
    (inside : index < files.length)
    (last : FileDescription) :
    parentAt (files ++ [last]) index = parentAt files index := by
  simp only [parentAt, List.getElem?_append_left inside,
    List.take_append_of_le_length inside.le]

@[simp] theorem parentAt_length (files : List FileDescription) (last : FileDescription) :
    parentAt (files ++ [last]) files.length = parentInode (subRootsOf files) last.name := by
  simp [parentAt]

/-- A parent comes before its children. -/
theorem parentAt_bounds
    {index : Nat}
    (inside : index < files.length) :
    fuseRootId ≤ parentAt files index ∧ parentAt files index < index + 2 := by
  have root : fuseRootId ≤ fuseRootId ∧ fuseRootId < index + 2 :=
    ⟨Nat.le_refl _, by rw [fuseRootId]; omega⟩
  rw [parentAt, List.getElem?_eq_getElem inside]
  dsimp only [parentInode]
  split
  · next up _ =>
      cases found : subRootsOf (files.take index) (components up) with
      | none => exact root
      | some inode =>
          rcases subRootsOf_eq_some found with ⟨rfl, _⟩ | ⟨earlier, file, rfl, isFile, _⟩
          · exact root
          · have before := (List.getElem?_eq_some_iff.mp isFile).1
            rw [List.length_take] at before
            rw [Option.getD_some, fuseRootId]
            omega
  · exact root

theorem childrenOf_concat
    (files : List FileDescription)
    (last : FileDescription)
    (inode : Nat) :
    childrenOf (files ++ [last]) inode =
      childrenOf files inode ++
        if parentInode (subRootsOf files) last.name = inode then [files.length + 2] else [] := by
  have same : ((List.range files.length).filter fun index =>
        parentAt (files ++ [last]) index = inode) =
      (List.range files.length).filter fun index => parentAt files index = inode :=
    List.filter_congr fun index member => by
      rw [parentAt_of_lt (List.mem_range.mp member)]
  rw [childrenOf, childrenOf, List.length_append, List.length_singleton, List.range_succ,
    List.filter_append, List.map_append, same]
  congr 1
  simp only [List.filter_singleton, parentAt_length]
  split <;> simp_all

theorem mem_childrenOf {inode child : Nat} :
    child ∈ childrenOf files inode ↔
      ∃ index < files.length, parentAt files index = inode ∧ child = index + 2 := by
  simp only [childrenOf, List.mem_map, List.mem_filter, List.mem_range, decide_eq_true_eq]
  constructor
  · rintro ⟨index, ⟨inside, isParent⟩, rfl⟩
    exact ⟨index, inside, isParent, rfl⟩
  · rintro ⟨index, inside, isParent, rfl⟩
    exact ⟨index, ⟨inside, isParent⟩, rfl⟩

theorem childrenOf_eq_nil
    {inode : Nat}
    (beyond : files.length + 1 < inode) :
    childrenOf files inode = [] := by
  rw [List.eq_nil_iff_forall_not_mem]
  intro child member
  obtain ⟨index, inside, rfl, _⟩ := mem_childrenOf.mp member
  have bounds := parentAt_bounds inside
  omega

theorem getElem?_treeOf_succ (now : Int) (files : List FileDescription) (index : Nat) :
    (treeOf now files)[index + 1]? = files[index]?.map (nodeAt files index) := by
  rw [treeOf, List.getElem?_cons_succ, List.getElem?_map, List.getElem?_zipIdx]
  cases files[index]? <;> simp

@[simp] theorem length_treeOf (now : Int) (files : List FileDescription) :
    (treeOf now files).length = files.length + 1 := by
  simp [treeOf]

/-- A node gets a child where it is the parent of the last description. -/
theorem nodeAt_concat
    {index : Nat}
    (inside : index < files.length)
    (last file : FileDescription) :
    nodeAt (files ++ [last]) index file =
      if parentInode (subRootsOf files) last.name = index + 2 then
        (nodeAt files index file).addChild (files.length + 2)
      else nodeAt files index file := by
  rw [nodeAt, nodeAt, parentAt_of_lt inside, childrenOf_concat]
  split
  · rfl
  · rw [List.append_nil]

/-- The tree of one more description. -/
theorem treeOf_concat
    (now : Int)
    (files : List FileDescription)
    (last : FileDescription) :
    treeOf now (files ++ [last]) =
      (treeOf now files).modify (parentInode (subRootsOf files) last.name - 1)
          (fun node => node.addChild (files.length + 2)) ++
        [nodeAt (files ++ [last]) files.length last] := by
  have positive : fuseRootId ≤ parentInode (subRootsOf files) last.name := by
    have bounds : fuseRootId ≤ parentAt (files ++ [last]) files.length ∧ _ :=
      parentAt_bounds (by simp)
    rw [parentAt_length] at bounds
    exact bounds.1
  rw [fuseRootId] at positive
  apply List.ext_getElem?
  intro place
  cases place with
  | zero =>
      rw [List.getElem?_append_left (by simp), List.getElem?_modify]
      simp only [treeOf, List.getElem?_cons_zero, Option.map_eq_map, Option.map_some,
        Option.some.injEq, childrenOf_concat]
      by_cases root : parentInode (subRootsOf files) last.name = fuseRootId
      · rw [if_pos root, if_pos (by rw [root]; rfl)]
        rfl
      · have apart : ¬parentInode (subRootsOf files) last.name - 1 = 0 := by
          rw [fuseRootId] at root
          omega
        rw [if_neg root, if_neg apart, List.append_nil]
  | succ index =>
      rw [getElem?_treeOf_succ]
      rcases Nat.lt_trichotomy index files.length with inside | rfl | outside
      · rw [List.getElem?_append_left inside,
          List.getElem?_append_left (by rw [List.length_modify, length_treeOf]; omega),
          List.getElem?_modify, getElem?_treeOf_succ, List.getElem?_eq_getElem inside]
        simp only [Option.map_some, Option.map_eq_map, nodeAt_concat inside]
        by_cases same : parentInode (subRootsOf files) last.name = index + 2
        · rw [if_pos same, if_pos (by omega)]
        · rw [if_neg same, if_neg (by omega)]
      · rw [List.getElem?_append_right (by simp)]
        simp
      · rw [List.getElem?_eq_none (by simp; omega), List.getElem?_eq_none (by simp; omega)]
        rfl

/-- One description after others completes the tree. -/
theorem addFile_treeOf (now : Int) (files : List FileDescription) (file : FileDescription) :
    addFile (treeOf now files, subRootsOf files) file =
      if fileName file.name = none then
        .error (.fileError file.name
          ("invalid file name " ++ String.ofList (Lib.fromUtf8Lossy file.name)))
      else .ok (treeOf now (files ++ [file]), subRootsOf (files ++ [file])) := by
  unfold addFile
  cases base : fileName file.name with
  | none => rfl
  | some baseName =>
      have inode : (treeOf now files).length + fuseRootId = files.length + 2 := by
        rw [length_treeOf, fuseRootId]
      have childless : childrenOf (files ++ [file]) (files.length + 2) = [] := by
        rw [childrenOf_concat, childrenOf_eq_nil (by omega), if_neg, List.append_nil]
        have bounds : _ ∧ parentAt (files ++ [file]) files.length < files.length + 2 :=
          parentAt_bounds (by simp)
        rw [parentAt_length] at bounds
        omega
      simp only [inode, reduceCtorEq, if_false, treeOf_concat, subRootsOf_concat, nodeAt,
        parentAt_length, base, childless, Option.getD_some]
      rfl

/-- A tree is built exactly if every path has a last component. -/
theorem buildTree_eq_ok_iff (now : Int) (files : List FileDescription) (tree : List FuseNode) :
    buildTree now files = .ok tree ↔
      (∀ file ∈ files, fileName file.name ≠ none) ∧ tree = treeOf now files := by
  have runs : ∀ state, files.foldlM addFile (([newRoot now], rootMap) :
        List FuseNode × SubRoots) = .ok state ↔
      (∀ file ∈ files, fileName file.name ≠ none) ∧
        state = (treeOf now files, subRootsOf files) := by
    induction files using List.reverseRecOn with
    | nil =>
        intro state
        simp [treeOf, childrenOf, subRootsOf, newRoot, pure, Except.pure, eq_comm]
    | append_singleton files last inductionHypothesis =>
        intro state
        rw [List.foldlM_append, List.forall_mem_append, List.forall_mem_singleton]
        cases before : files.foldlM addFile (([newRoot now], rootMap) :
            List FuseNode × SubRoots) with
        | error error =>
            have nameless : ¬∀ file ∈ files, fileName file.name ≠ none := fun named => by
              rw [(inductionHypothesis _).mpr ⟨named, rfl⟩] at before
              cases before
            simp [bind, Except.bind, nameless]
        | ok middle =>
            obtain ⟨named, rfl⟩ := (inductionHypothesis middle).mp before
            simp only [bind, Except.bind, List.foldlM_cons, List.foldlM_nil, addFile_treeOf]
            by_cases nameless : fileName last.name = none
            · simp [nameless]
            · simp only [if_neg nameless, pure, Except.pure, Except.ok.injEq]
              exact ⟨fun same => ⟨⟨named, nameless⟩, same.symm⟩, fun same => same.2.symm⟩
  unfold buildTree
  cases result : files.foldlM addFile (([newRoot now], rootMap) :
      List FuseNode × SubRoots) with
  | error error =>
      have nameless : ¬∀ file ∈ files, fileName file.name ≠ none := fun named => by
        rw [(runs _).mpr ⟨named, rfl⟩] at result
        cases result
      simp [Except.map, nameless]
  | ok state =>
      obtain ⟨named, rfl⟩ := (runs state).mp result
      simp only [Except.map, Except.ok.injEq]
      exact ⟨fun same => ⟨named, same.symm⟩, fun same => same.2.symm⟩

/-! ## Well-formed trees -/

/-- A tree with a root and a node for each description, in their order; every node but the root
has a parent before it, and the children of a node are the nodes that it is the parent of. -/
structure WellFormed (files : List FileDescription) (tree : List FuseNode) : Prop where
  length : tree.length = files.length + 1
  root : ∃ root, tree[0]? = some root ∧ root.parent = none ∧ root.name = ['/'] ∧
    root.attributes.inode = fuseRootId ∧ root.attributes.kind = .directory
  node : ∀ index file, files[index]? = some file → ∃ base node parent,
    fileName file.name = some base ∧ tree[index + 1]? = some node ∧ node.index = index ∧
      node.name = nameText base ∧ node.connId = file.connId ∧
      node.attributes = .fromDescription (index + 2) file ∧
      node.parent = some parent ∧ fuseRootId ≤ parent ∧ parent < index + 2
  children : ∀ place node, tree[place]? = some node → node.children.Nodup ∧
    ∀ child, child ∈ node.children ↔
      ∃ index other, child = index + 2 ∧ tree[index + 1]? = some other ∧
        other.parent = some (place + 1)

/-- The names on the way from the root to an inode, for a number of steps. -/
def names (tree : List FuseNode) : Nat → Nat → List (List Char)
  | 0, _ => []
  | steps + 1, inode =>
      match tree[inode - 1]? with
      | none => []
      | some node =>
          match node.parent with
          | none => []
          | some parent => names tree steps parent ++ [node.name]

/-- The names on the way from the root to an inode. -/
def namesTo (tree : List FuseNode) (inode : Nat) : List (List Char) :=
  names tree tree.length inode

/-- A directory with these components is listed. -/
def Listed (files : List FileDescription) (key : Start × List Bytes) : Prop :=
  ∃ dir ∈ files, dir.kind = .directory ∧ components dir.name = key

/-- Each listed directory precedes its contents. -/
def Preordered (files : List FileDescription) : Prop :=
  ∀ (index place : Nat) (dir file : FileDescription) (up : Path),
    files[index]? = some dir → dir.kind = .directory →
    files[place]? = some file → Clipboard.parent file.name = some up →
    components up = components dir.name → index < place

/-- Some names are those of the last components of a path, from the topmost directory on to
which a chain of listed directories leads up. -/
def Trails (files : List FileDescription) (path : Path) (names : List (List Char)) : Prop :=
  ∃ top < (components path).2.length,
    names = ((components path).2.drop top).map nameText ∧
    (∀ size, top < size → size < (components path).2.length →
      Listed files ((components path).1, (components path).2.take size)) ∧
    ¬Listed files ((components path).1, (components path).2.take top)

theorem nodup_childrenOf (files : List FileDescription) (inode : Nat) :
    (childrenOf files inode).Nodup :=
  (List.nodup_range.filter _).map fun _ _ same => Nat.add_right_cancel same

theorem wellFormed_treeOf
    (now : Int)
    (named : ∀ file ∈ files, fileName file.name ≠ none) :
    WellFormed files (treeOf now files) where
  length := length_treeOf now files
  root := ⟨_, rfl, rfl, rfl, rfl, rfl⟩
  node := by
    intro index file isFile
    obtain ⟨base, isBase⟩ := Option.ne_none_iff_exists'.mp
      (named file (List.mem_of_getElem? isFile))
    have inside := (List.getElem?_eq_some_iff.mp isFile).1
    have bounds := parentAt_bounds inside
    refine ⟨base, nodeAt files index file, parentAt files index, isBase, ?_, rfl, ?_, rfl, rfl,
      rfl, bounds.1, bounds.2⟩
    · rw [getElem?_treeOf_succ, isFile]
      rfl
    · rw [nodeAt, isBase]
      rfl
  children := by
    intro place node isNode
    have isChildren : node.children = childrenOf files (place + 1) := by
      cases place with
      | zero =>
          cases isNode
          rfl
      | succ index =>
          rw [getElem?_treeOf_succ] at isNode
          obtain ⟨file, _, rfl⟩ := Option.map_eq_some_iff.mp isNode
          rfl
    rw [isChildren]
    refine ⟨nodup_childrenOf files (place + 1), fun child => ?_⟩
    rw [mem_childrenOf]
    constructor
    · rintro ⟨index, inside, isParent, rfl⟩
      refine ⟨index, nodeAt files index files[index], rfl, ?_, ?_⟩
      · rw [getElem?_treeOf_succ, List.getElem?_eq_getElem inside]
        rfl
      · rw [← isParent]
        rfl
    · rintro ⟨index, other, rfl, isOther, isParent⟩
      rw [getElem?_treeOf_succ] at isOther
      obtain ⟨file, isFile, rfl⟩ := Option.map_eq_some_iff.mp isOther
      exact ⟨index, (List.getElem?_eq_some_iff.mp isFile).1, Option.some.inj isParent, rfl⟩

theorem names_root (now : Int) (files : List FileDescription) (steps : Nat) :
    names (treeOf now files) steps fuseRootId = [] := by
  cases steps with
  | zero => rfl
  | succ steps => rfl

theorem names_node
    (now : Int)
    {index : Nat}
    {file : FileDescription}
    (isFile : files[index]? = some file)
    {base : Bytes}
    (isBase : fileName file.name = some base)
    (steps : Nat) :
    names (treeOf now files) (steps + 1) (index + 2) =
      names (treeOf now files) steps (parentAt files index) ++ [nameText base] := by
  have isNode : (treeOf now files)[index + 2 - 1]? = some (nodeAt files index file) := by
    rw [Nat.add_sub_assoc (by omega), getElem?_treeOf_succ, isFile]
    rfl
  rw [names, isNode]
  simp only [nodeAt, isBase, Option.getD_some]
  rfl

/-- No listed directory has an empty path, since it has a name. -/
theorem not_listed_nil
    (named : ∀ file ∈ files, fileName file.name ≠ none)
    (start : Start) :
    ¬Listed files (start, []) := by
  rintro ⟨dir, member, _, empty⟩
  apply named dir member
  rw [fileName, empty]
  rfl

/-- A listed directory has an inode. -/
theorem subRootsOf_ne_none
    {key : Start × List Bytes}
    (isListed : Listed files key) :
    subRootsOf files key ≠ none := by
  induction files using List.reverseRecOn with
  | nil =>
      obtain ⟨dir, member, _⟩ := isListed
      cases member
  | append_singleton files last inductionHypothesis =>
      obtain ⟨dir, member, isDir, isKey⟩ := isListed
      rw [subRootsOf_concat]
      rcases List.mem_append.mp member with before | isLast
      · have earlier := inductionHypothesis ⟨dir, before, isDir, isKey⟩
        split
        · by_cases same : key = components last.name
          · rw [same, Function.update_self]
            exact Option.some_ne_none _
          · rwa [Function.update_of_ne same]
        · exact earlier
      · rw [List.mem_singleton.mp isLast] at isDir isKey
        rw [if_pos isDir, ← isKey, Function.update_self]
        exact Option.some_ne_none _

/-- A node in the root trails its path where its directory is not listed. -/
theorem trails_singleton
    {path up : Path}
    {base : Bytes}
    (split : components path = ((components up).1, (components up).2 ++ [base]))
    (unlisted : ¬Listed files (components up)) :
    Trails files path [nameText base] := by
  refine ⟨(components up).2.length, ?_, ?_, ?_, ?_⟩
  · rw [split, List.length_append, List.length_singleton]
    omega
  · rw [split, List.drop_left]
    rfl
  · intro size above below
    rw [split, List.length_append, List.length_singleton] at below
    omega
  · rw [split, List.take_left]
    exact unlisted

/-- A node trails its path where its directory does. -/
theorem Trails.concat
    {path up dir : Path}
    {base : Bytes}
    {names : List (List Char)}
    (trails : Trails files dir names)
    (split : components path = ((components up).1, (components up).2 ++ [base]))
    (same : components dir = components up)
    (isListed : Listed files (components up)) :
    Trails files path (names ++ [nameText base]) := by
  obtain ⟨top, within, isNames, chain, ends⟩ := trails
  rw [same] at within isNames chain ends
  refine ⟨top, ?_, ?_, ?_, ?_⟩
  · rw [split, List.length_append]
    omega
  · rw [split, List.drop_append_of_le_length within.le, List.map_append, isNames]
    rfl
  · intro size above below
    rw [split] at below ⊢
    rw [List.length_append, List.length_singleton] at below
    rcases Nat.lt_or_ge size (components up).2.length with inner | last
    · rw [List.take_append_of_le_length inner.le]
      exact chain size above inner
    · have whole : size = (components up).2.length := by omega
      rw [whole, List.take_left]
      exact isListed
  · rw [split, List.take_append_of_le_length within.le]
    exact ends

/-- The names of a node trail its path. -/
theorem trails_treeOf
    (now : Int)
    (named : ∀ file ∈ files, fileName file.name ≠ none)
    (preordered : Preordered files)
    {index : Nat}
    {file : FileDescription}
    (isFile : files[index]? = some file) :
    ∀ steps, index + 2 ≤ steps →
      Trails files file.name (names (treeOf now files) steps (index + 2)) := by
  induction index using Nat.strongRecOn generalizing file with
  | ind index inductionHypothesis =>
      intro steps enough
      obtain ⟨steps, rfl⟩ := Nat.exists_eq_add_of_lt (Nat.lt_of_lt_of_le (Nat.succ_pos _) enough)
      obtain ⟨base, isBase⟩ := Option.ne_none_iff_exists'.mp
        (named file (List.mem_of_getElem? isFile))
      obtain ⟨up, isUp, split⟩ := components_parent isBase
      rw [Nat.zero_add, names_node now isFile isBase]
      have isParent : parentAt files index =
          (subRootsOf (files.take index) (components up)).getD fuseRootId := by
        rw [parentAt, isFile]
        simp only [parentInode, isUp]
      cases found : subRootsOf (files.take index) (components up) with
      | none =>
          rw [isParent, found, Option.getD_none, names_root]
          refine trails_singleton split ?_
          rintro ⟨dir, member, isDir, same⟩
          obtain ⟨place, isPlace⟩ := List.mem_iff_getElem?.mp member
          have before := preordered place index dir file up isPlace isDir isFile isUp same.symm
          have early : dir ∈ files.take index :=
            List.mem_of_getElem? ((List.getElem?_take_of_lt before).trans isPlace)
          exact subRootsOf_ne_none ⟨dir, early, isDir, same⟩ found
      | some inode =>
          rw [isParent, found, Option.getD_some]
          rcases subRootsOf_eq_some found with
            ⟨rfl, isRoot⟩ | ⟨place, dir, rfl, isPlace, isDir, same⟩
          · rw [names_root]
            refine trails_singleton split ?_
            have empty : (components up).2 = [] := by
              rcases isRoot with is | is
              · rw [is]
                decide
              · rw [is]
                decide
            have unlisted := not_listed_nil named (components up).1
            rwa [← empty] at unlisted
          · have before := (List.getElem?_eq_some_iff.mp isPlace).1
            rw [List.length_take] at before
            have earlier : place < index := by omega
            rw [List.getElem?_take_of_lt earlier] at isPlace
            exact (inductionHypothesis place earlier isPlace steps (by omega)).concat split same
              ⟨dir, List.mem_of_getElem? isPlace, isDir, same⟩

end FuseNode

/-! ## Loaded trees -/

namespace FuseServer

variable {server : FuseServer}

/-- The inodes in the list of children of each node are in the list of nodes. -/
def InRange (server : FuseServer) : Prop :=
  ∀ node ∈ server.files, ∀ child ∈ node.children, server.get child ≠ none

theorem get_mem {inode : Nat} {node : FuseNode} (found : server.get inode = some node) :
    node ∈ server.files := by
  unfold get at found
  split at found
  · cases found
  · exact List.mem_of_getElem? found

theorem nodes_ne_none
    {inodes : List Nat}
    (inRange : ∀ inode ∈ inodes, server.get inode ≠ none) :
    server.nodes inodes ≠ none := by
  induction inodes with
  | nil => exact Option.some_ne_none _
  | cons inode inodes inductionHypothesis =>
      obtain ⟨first, others⟩ := List.forall_mem_cons.mp inRange
      obtain ⟨node, found⟩ := Option.ne_none_iff_exists'.mp first
      obtain ⟨rest, isRest⟩ := Option.ne_none_iff_exists'.mp (inductionHypothesis others)
      rw [nodes] at isRest ⊢
      rw [List.mapM_cons, found, isRest]
      exact Option.some_ne_none _

theorem search_ne_none
    {inodes : List Nat}
    (inRange : ∀ inode ∈ inodes, server.get inode ≠ none)
    (name : Bytes) :
    server.search name inodes ≠ none := by
  induction inodes with
  | nil => exact Option.some_ne_none _
  | cons inode inodes inductionHypothesis =>
      obtain ⟨first, others⟩ := List.forall_mem_cons.mp inRange
      obtain ⟨node, found⟩ := Option.ne_none_iff_exists'.mp first
      rw [search, found]
      dsimp only
      split
      · exact Option.some_ne_none _
      · exact inductionHypothesis others

theorem InRange.lookup
    (inRange : server.InRange)
    (parent : Nat)
    (name : Bytes) :
    server.lookup parent name ≠ none := by
  unfold FuseServer.lookup
  split
  · exact Option.some_ne_none _
  · split
    · exact Option.some_ne_none _
    · next entry found =>
        split
        · exact Option.some_ne_none _
        · exact search_ne_none (inRange entry (get_mem found)) name

theorem InRange.readdir
    (inRange : server.InRange)
    (ino fh offset : Nat) :
    server.readdir ino fh offset ≠ none := by
  unfold FuseServer.readdir
  split
  · exact Option.some_ne_none _
  · next entry found =>
      split
      · exact Option.some_ne_none _
      · split
        · exact Option.some_ne_none _
        · have all := nodes_ne_none (inRange entry (get_mem found))
          rwa [ne_eq, Option.map_eq_none_iff]

theorem InRange.listRoot
    (inRange : server.InRange)
    (nonempty : server.files ≠ []) :
    server.listRoot ≠ none := by
  unfold FuseServer.listRoot
  obtain ⟨root, rest, is⟩ := List.exists_cons_of_ne_nil nonempty
  have member : root ∈ server.files := by
    rw [is]
    exact List.mem_cons_self
  have all := nodes_ne_none (inRange root member)
  rw [is, List.getElem?_cons_zero]
  dsimp only
  rwa [ne_eq, Option.map_eq_none_iff]

/-- A list with the children of a well-formed tree has all of them. -/
theorem inRange_of_wellFormed
    {files : List FileDescription}
    {tree : List FuseNode}
    (wellFormed : FuseNode.WellFormed files tree)
    (same : server.files.map (·.children) = tree.map (·.children)) :
    server.InRange := by
  have length : server.files.length = tree.length := by
    have lengths := congrArg List.length same
    rwa [List.length_map, List.length_map] at lengths
  intro node member child isChild
  obtain ⟨place, isNode⟩ := List.mem_iff_getElem?.mp member
  have sameHere := congrArg (·[place]?) same
  simp only [List.getElem?_map, isNode, Option.map_some] at sameHere
  obtain ⟨other, isOther, sameChildren⟩ := Option.map_eq_some_iff.mp sameHere.symm
  rw [← sameChildren] at isChild
  obtain ⟨index, found, rfl, isFound, _⟩ := ((wellFormed.children place other isOther).2 child).mp
    isChild
  have inside := (List.getElem?_eq_some_iff.mp isFound).1
  rw [get, if_neg (by omega), ne_eq, List.getElem?_eq_none_iff]
  omega

end FuseServer

/-- A tree that is built is well formed, is never indexed outside while it is loaded, and its
names trail the paths of the list if each directory precedes its contents; a list from which no
tree is built leaves the server as it is. -/
theorem buildTree_spec (now : Int) (files : List FileDescription) (server : FuseServer) :
    (∀ tree, FuseNode.buildTree now files = .ok tree →
      FuseNode.WellFormed files tree ∧
      (∀ loaded : FuseServer, loaded.files.map (·.children) = tree.map (·.children) →
        (∀ parent name, loaded.lookup parent name ≠ none) ∧
        (∀ ino fh offset, loaded.readdir ino fh offset ≠ none) ∧ loaded.listRoot ≠ none) ∧
      (FuseNode.Preordered files → ∀ index file, files[index]? = some file →
        FuseNode.Trails files file.name (FuseNode.namesTo tree (index + 2)))) ∧
    (∀ error, FuseNode.buildTree now files = .error error →
      server.loadFileList now files = (.error error, server)) := by
  constructor
  · intro tree built
    obtain ⟨named, rfl⟩ := (FuseNode.buildTree_eq_ok_iff now files tree).mp built
    have wellFormed := FuseNode.wellFormed_treeOf now named
    refine ⟨wellFormed, ?_, ?_⟩
    · intro loaded same
      have inRange := FuseServer.inRange_of_wellFormed wellFormed same
      have nonempty : loaded.files ≠ [] := by
        intro empty
        rw [empty] at same
        cases same
      exact ⟨inRange.lookup, inRange.readdir, inRange.listRoot nonempty⟩
    · intro preordered index file isFile
      have inside := (List.getElem?_eq_some_iff.mp isFile).1
      exact FuseNode.trails_treeOf now named preordered isFile _
        (by rw [FuseNode.length_treeOf]; omega)
  · intro error fails
    rw [FuseServer.loadFileList, fails]

/-- A description of a path, with nothing else known. -/
def described (name : Path) (kind : FileType) : FileDescription := ⟨0, name, kind, 0, 0, 0, 0, 0⟩

/-- A directory, and a file in a directory of it that is not listed. -/
def gap : List FileDescription :=
  [described [0x61] .directory, described [0x61, slash, 0x62, slash, 0x63] .file]

/-- The directory is listed and is above the file, but the file is in the root. -/
theorem gap_ends_trail :
    FuseNode.Preordered gap ∧ FuseNode.Listed gap (.plain, [[0x61]]) ∧
      components [0x61, slash, 0x62, slash, 0x63] = (.plain, [[0x61], [0x62], [0x63]]) ∧
      ∃ tree, FuseNode.buildTree 0 gap = .ok tree ∧ FuseNode.namesTo tree 3 = [['c']] := by
  have base : fileName [0x61, slash, 0x62, slash, 0x63] = some (Lib.utf8 ['c']) := by decide
  have named : ∀ file ∈ gap, fileName file.name ≠ none := by decide
  have up : FuseNode.parentAt gap 1 = fuseRootId := by decide
  refine ⟨?_, ⟨_, List.mem_cons_self, rfl, by decide⟩, by decide, FuseNode.treeOf 0 gap,
    (FuseNode.buildTree_eq_ok_iff 0 gap _).mpr ⟨named, rfl⟩, ?_⟩
  · intro index place dir file up isDir directory isFile isUp same
    have isPath : components dir.name = (.plain, [[0x61]]) := by
      rcases List.mem_pair.mp (List.mem_of_getElem? isDir) with rfl | rfl
      · decide
      · cases directory
    rw [isPath] at same
    -- Nothing is listed in the directory itself.
    rcases List.mem_pair.mp (List.mem_of_getElem? isFile) with rfl | rfl
    · have none : up = [] := Option.some.inj (isUp.symm.trans (by decide))
      rw [none] at same
      exact absurd same (by decide)
    · have inner : up = [0x61, slash, 0x62] := Option.some.inj (isUp.symm.trans (by decide))
      rw [inner] at same
      exact absurd same (by decide)
  · have isFile : gap[1]? = some (described [0x61, slash, 0x62, slash, 0x63] .file) := rfl
    have trail := FuseNode.names_node 0 isFile base 2
    rw [up, FuseNode.names_root, nameText, Lib.fromUtf8_utf8] at trail
    exact trail

end Fuse

end Clipboard
end OneDesk
