import OneDesk.Clipboard.LocalFile
import OneDesk.Lib.Explore
import OneDesk.Lib.Split

/-!
# The list of a selection

The paths of a selection are listed with what they contain, and links are followed.  What has
been visited is remembered by its path, so that a file or directory that is reached by two paths
is listed twice, and a directory that contains a link to itself is entered under ever longer
paths, until the system refuses one.  What paths lead to is described beside the disk.
-/

namespace OneDesk
namespace Clipboard

open OneDesk.Stream

/-! ## Entries of a directory -/

/-- A name of an entry. -/
structure IsName (name : Bytes) : Prop where
  nonempty : name ≠ []
  noSlash : slash ∉ name
  noDot : name ≠ [dot]

/-- `Path::join`, for the name of an entry. -/
def join (path : Path) (name : Bytes) : Path :=
  if path = [] ∨ path.getLast? = some slash then path ++ name else path ++ slash :: name

theorem length_lt_join {path : Path} {name : Bytes} (isName : IsName name) :
    path.length < (join path name).length := by
  have positive := List.length_pos_iff.mpr isName.nonempty
  unfold join
  split
  · rw [List.length_append]
    omega
  · rw [List.length_append, List.length_cons]
    omega

/-- What stands behind a separator comes behind the parts. -/
theorem splitPath_append
    {path : Path}
    (nonempty : path ≠ [])
    (rest : Path) :
    splitPath (path ++ slash :: rest) =
      ((splitPath path).1, (splitPath path).2 ++ rest.splitOn slash) := by
  have first : (path ++ slash :: rest).head? = path.head? := by
    cases path with
    | nil => exact absurd rfl nonempty
    | cons byte path => rfl
  obtain ⟨part, parts, split⟩ := List.exists_cons_of_ne_nil (List.splitOn_ne_nil slash path)
  unfold splitPath
  rw [first, List.splitOn_append_cons_self, split]
  by_cases rooted : path.head? = some slash
  · simp [rooted]
  · by_cases dotted : part = [dot]
    · simp [rooted, dotted]
    · simp [rooted, dotted]

theorem filter_isName {name : Bytes} (isName : IsName name) :
    ([name].filter fun part => !isVoid part) = [name] := by
  simp [isVoid, isName.nonempty, isName.noDot]

theorem splitOn_isName {name : Bytes} (isName : IsName name) : name.splitOn slash = [name] :=
  Lib.splitOn_of_not_mem isName.noSlash

theorem components_append
    {path : Path}
    (nonempty : path ≠ [])
    {name : Bytes}
    (isName : IsName name) :
    components (path ++ slash :: name) =
      ((components path).1, (components path).2 ++ [name]) := by
  unfold components
  rw [splitPath_append nonempty, splitOn_isName isName, List.filter_append,
    filter_isName isName]

/-- An entry has the components of its directory and its name. -/
theorem components_join {path : Path} {name : Bytes} (isName : IsName name) :
    components (join path name) = ((components path).1, (components path).2 ++ [name]) := by
  unfold join
  split
  · next ends =>
      rcases ends with rfl | ends
      · have start : name.head? ≠ some slash := fun head =>
          isName.noSlash (List.mem_of_head? head)
        simp only [List.nil_append, components, splitPath, splitOn_isName isName, if_neg start]
        simp [isName.noDot, isVoid, isName.nonempty]
      · obtain ⟨front, rfl⟩ := List.getLast?_eq_some_iff.mp ends
        rw [List.append_assoc, List.singleton_append]
        cases front with
        | nil =>
            have parts : (slash :: name).splitOn slash = [[], name] := by
              rw [← List.nil_append (slash :: name), List.splitOn_append_cons_self,
                splitOn_isName isName]
              rfl
            have root : components [slash] = (.root, []) := by decide
            rw [List.nil_append, List.nil_append, root]
            simp [components, splitPath, parts, isVoid, isName.nonempty, isName.noDot]
        | cons byte front =>
            rw [components_append (List.cons_ne_nil _ _) isName]
            unfold components
            rw [splitPath_append (List.cons_ne_nil _ _) []]
            simp [isVoid]
  · next apart =>
      exact components_append (fun empty => apart (.inl empty)) isName

/-- An entry of a directory has its components from one directory and one name. -/
theorem eq_of_components_join
    {path other : Path}
    {name otherName : Bytes}
    (isName : IsName name)
    (isOtherName : IsName otherName)
    (equal : components (join path name) = components (join other otherName)) :
    components path = components other ∧ name = otherName := by
  rw [components_join isName, components_join isOtherName, Prod.mk.injEq] at equal
  obtain ⟨sameParts, sameName⟩ := List.append_inj' equal.2 rfl
  exact ⟨Prod.ext equal.1 sameParts, List.singleton_inj.mp sameName⟩

/-- The entries of a directory, and those of a file, which has none. -/
def entriesOf (disk : Disk) (path : Path) :
    Except CliprdrError (List (Except CliprdrError Path)) :=
  match disk.metadata path with
  | .error err => .error (.fileError path err)
  | .ok mt =>
      if mt.isDir then
        match disk.readDir path with
        | .error err => .error (.fileError path err)
        | .ok dir => .ok (dir.map fun entry => entry.mapError (.fileError path))
      else .ok []

/-- Why a path is not entered any deeper. -/
def tooLong (path : Path) : CliprdrError := .fileError path "File name too long"

/-- The paths that are listed when a path is listed behind others. -/
abbrev visit (disk : Disk) (depth : Nat) (path : Path) (visited : List Path) :
    Except CliprdrError (List Path) :=
  Lib.explore components (entriesOf disk) tooLong depth path visited

theorem path_tryOpen
    {disk : Disk}
    {relativeRoot path : Path}
    {file : LocalFile}
    (opened : LocalFile.tryOpen disk relativeRoot path = .ok file) :
    file.path = path := by
  unfold LocalFile.tryOpen at opened
  split at opened
  · cases opened
  · cases opened
    rfl

/-- A listing fails as the listing of its paths does, or it has the record of each path. -/
def Records (disk : Disk) (relativeRoot : Path)
    (constructed : Except CliprdrError (List LocalFile × List Path))
    (fileList : List LocalFile) (visited : List Path)
    (listed : Except CliprdrError (List Path)) : Prop :=
  (∃ error, constructed = .error error ∧ listed = .error error) ∨
    ∃ files fresh, constructed = .ok (fileList ++ files, visited ++ fresh) ∧
      listed = .ok (visited ++ fresh) ∧
      fresh.map (LocalFile.tryOpen disk relativeRoot) = files.map .ok

theorem Records.cons
    {disk : Disk}
    {relativeRoot : Path}
    {constructed : Except CliprdrError (List LocalFile × List Path)}
    {fileList : List LocalFile}
    {visited : List Path}
    {listed : Except CliprdrError (List Path)}
    {file : LocalFile}
    {path : Path}
    (opened : LocalFile.tryOpen disk relativeRoot path = .ok file)
    (records : Records disk relativeRoot constructed (fileList ++ [file]) (visited ++ [path])
      listed) :
    Records disk relativeRoot constructed fileList visited listed := by
  rcases records with failed | ⟨files, fresh, constructs, lists, opens⟩
  · exact .inl failed
  · refine .inr ⟨file :: files, path :: fresh, ?_, ?_, ?_⟩
    · rw [constructs, List.append_assoc, List.append_assoc]
      rfl
    · rw [lists, List.append_assoc]
      rfl
    · rw [List.map_cons, opened, opens, List.map_cons]

theorem records_foldlM
    {disk : Disk}
    {relativeRoot : Path}
    {list : Path → List LocalFile × List Path →
      Except CliprdrError (List LocalFile × List Path)}
    {plain : Path → List Path → Except CliprdrError (List Path)}
    (each : ∀ path fileList visited,
      Records disk relativeRoot (list path (fileList, visited)) fileList visited
        (plain path visited))
    (directory : Path)
    (dir : List (Except String Path))
    (fileList : List LocalFile)
    (visited : List Path) :
    Records disk relativeRoot
      (dir.foldlM
        (fun collected entry =>
          match entry with
          | .error err => .error (.fileError directory err)
          | .ok path => list path collected)
        (fileList, visited))
      fileList visited
      (Lib.listAll plain (dir.map fun entry => entry.mapError (.fileError directory))
        visited) := by
  induction dir generalizing fileList visited with
  | nil => exact .inr ⟨[], [], by simp [pure, Except.pure], by simp [Lib.listAll], rfl⟩
  | cons entry dir inductionHypothesis =>
      cases entry with
      | error err => exact .inl ⟨.fileError directory err, rfl, rfl⟩
      | ok path =>
          rw [List.foldlM_cons, List.map_cons]
          rcases each path fileList visited with ⟨error, failed, plainFailed⟩ |
            ⟨files, fresh, listed, plainListed, opens⟩
          · refine .inl ⟨error, ?_, ?_⟩
            · dsimp only
              rw [failed]
              rfl
            · simp only [Except.mapError, Lib.listAll, plainFailed]
          · simp only [Except.mapError, Lib.listAll, plainListed, listed]
            rcases inductionHypothesis (fileList ++ files) (visited ++ fresh) with
              ⟨error, failed, plainFailed⟩ | ⟨others, more, rest, plainRest, otherOpens⟩
            · exact .inl ⟨error, failed, plainFailed⟩
            · refine .inr ⟨files ++ others, fresh ++ more, ?_, ?_, ?_⟩
              · rw [← List.append_assoc, ← List.append_assoc]
                exact rest
              · rw [← List.append_assoc]
                exact plainRest
              · rw [List.map_append, opens, otherOpens, List.map_append]

/-- The records are those of the paths that are listed. -/
theorem records_constrFileList
    (disk : Disk)
    (relativeRoot : Path)
    (depth : Nat)
    (path : Path)
    (fileList : List LocalFile)
    (visited : List Path) :
    Records disk relativeRoot (constrFileList disk relativeRoot depth path (fileList, visited))
      fileList visited (visit disk depth path visited) := by
  unfold visit
  induction depth generalizing path fileList visited with
  | zero => exact .inl ⟨tooLong path, rfl, rfl⟩
  | succ depth inductionHypothesis =>
      rw [constrFileList, Lib.explore]
      have seen : (visited.any fun other => components other == components path) = true ↔
          components path ∈ visited.map components := by
        simp [List.any_eq_true]
      by_cases member : components path ∈ visited.map components
      · rw [if_pos (seen.mpr member), if_pos member]
        exact .inr ⟨[], [], by simp, by simp, rfl⟩
      · rw [if_neg (mt seen.mp member), if_neg member]
        cases found : disk.metadata path with
        | error err =>
            refine .inl ⟨.fileError path err, ?_, ?_⟩
            · simp only [LocalFile.tryOpen, found]
              rfl
            · simp only [entriesOf, found]
        | ok mt =>
            obtain ⟨file, opened⟩ : ∃ file,
                LocalFile.tryOpen disk relativeRoot path = .ok file := by
              simp only [LocalFile.tryOpen, found]
              exact ⟨_, rfl⟩
            rw [opened]
            refine Records.cons opened ?_
            simp only [entriesOf, found]
            cases isDir : mt.isDir with
            | false =>
                refine .inr ⟨[], [], ?_, ?_, rfl⟩
                · simp [bind, Except.bind]
                · simp [Lib.listAll]
            | true =>
                cases read : disk.readDir path with
                | error err =>
                    refine .inl ⟨.fileError path err, ?_, ?_⟩
                    · simp [bind, Except.bind]
                    · simp
                | ok dir =>
                    have inner := records_foldlM inductionHypothesis path dir
                      (fileList ++ [file]) (visited ++ [path])
                    simp only [bind, Except.bind, if_true]
                    exact inner

/-- `construct_file_list`, with a bound on how deep directories are entered. -/
def constructToDepth (depth : Nat) (disk : Disk) (paths : List Path) :
    Except CliprdrError (List LocalFile) :=
  match paths.head? with
  | none => .error (.invalidRequest "empty file list")
  | some first =>
      match parent first with
      | none => .error (.invalidRequest "empty parent")
      | some relativeRoot =>
          (paths.foldlM
            (fun collected path => constrFileList disk relativeRoot depth path collected)
            (([], []) : List LocalFile × List Path)).map Prod.fst

theorem constructFileList_eq (disk : Disk) (paths : List Path) :
    constructFileList disk paths = constructToDepth pathMax disk paths := rfl

/-- The first path of a selection is in some directory. -/
def Rooted (paths : List Path) : Prop :=
  ∃ first relativeRoot, paths.head? = some first ∧ parent first = some relativeRoot

theorem Records.congr
    {disk : Disk}
    {relativeRoot : Path}
    {constructed other : Except CliprdrError (List LocalFile × List Path)}
    {fileList : List LocalFile}
    {visited : List Path}
    {listed : Except CliprdrError (List Path)}
    (records : Records disk relativeRoot constructed fileList visited listed)
    (same : Records disk relativeRoot other fileList visited listed) :
    constructed = other := by
  rcases records with ⟨error, rfl, failed⟩ | ⟨files, fresh, rfl, lists, opens⟩
  · rcases same with ⟨error, rfl, again⟩ | ⟨files, fresh, rfl, again, _⟩
    · rw [failed, Except.error.injEq] at again
      rw [again]
    · rw [failed] at again
      cases again
  · rcases same with ⟨error, rfl, again⟩ | ⟨others, fresh', rfl, again, otherOpens⟩
    · rw [lists] at again
      cases again
    · rw [lists, Except.ok.injEq, List.append_cancel_left_eq] at again
      subst again
      rw [opens] at otherOpens
      rw [List.map_injective_iff.mpr (fun _ _ => Except.ok.inj) otherOpens]

/-- The records of a selection are those of the paths that are listed. -/
theorem records_selection
    (disk : Disk)
    (relativeRoot : Path)
    (depth : Nat)
    (paths : List Path) :
    Records disk relativeRoot
      (paths.foldlM
        (fun collected path => constrFileList disk relativeRoot depth path collected)
        (([], []) : List LocalFile × List Path))
      [] [] (Lib.listAll (visit disk depth) (paths.map .ok) []) := by
  have records := records_foldlM (records_constrFileList disk relativeRoot depth)
    [] (paths.map .ok) [] []
  rw [List.foldlM_map, List.map_map] at records
  exact records

theorem paths_of_opens
    {disk : Disk}
    {relativeRoot : Path}
    {fresh : List Path}
    {files : List LocalFile}
    (opens : fresh.map (LocalFile.tryOpen disk relativeRoot) = files.map .ok) :
    files.map (·.path) = fresh := by
  induction fresh generalizing files with
  | nil =>
      rw [List.map_nil, eq_comm, List.map_eq_nil_iff] at opens
      rw [opens]
      rfl
  | cons path fresh inductionHypothesis =>
      cases files with
      | nil => cases opens
      | cons file files =>
          obtain ⟨opened, others⟩ := List.cons.inj opens
          rw [List.map_cons, path_tryOpen opened, inductionHypothesis others]

/-- A list that is constructed has a record for each path that is listed. -/
theorem constructToDepth_ok_iff
    (disk : Disk)
    (depth : Nat)
    (paths : List Path)
    (listed : List Path) :
    (∃ fileList, constructToDepth depth disk paths = .ok fileList ∧
        fileList.map (·.path) = listed) ↔
      Rooted paths ∧ Lib.listAll (visit disk depth) (paths.map .ok) [] = .ok listed := by
  cases head : paths.head? with
  | none => simp [constructToDepth, Rooted, head]
  | some first =>
      cases up : parent first with
      | none => simp [constructToDepth, Rooted, head, up]
      | some relativeRoot =>
          have rooted : Rooted paths := ⟨first, relativeRoot, head, up⟩
          have constructs : constructToDepth depth disk paths =
              (paths.foldlM
                (fun collected path => constrFileList disk relativeRoot depth path collected)
                (([], []) : List LocalFile × List Path)).map Prod.fst := by
            simp only [constructToDepth, head, up]
          rw [constructs]
          rcases records_selection disk relativeRoot depth paths with
            ⟨error, failed, plainFailed⟩ | ⟨files, fresh, collected, plain, opens⟩
          · rw [failed, plainFailed]
            simp [Except.map]
          · rw [collected, plain]
            simp [Except.map, rooted, paths_of_opens opens]

/-! ## Where paths lead -/

/-- What the paths of a disk lead to, when links are followed: every file or directory is one
node, however it is reached. -/
structure Places (disk : Disk) (Node : Type*) where
  node : Path → Node
  /-- The names in a directory. -/
  names : Node → List Bytes
  /-- What a name in a directory leads to. -/
  leads : Node → Bytes → Node
  isName : ∀ node, ∀ name ∈ names node, IsName name
  /-- No path is empty, and none is longer than the system allows. -/
  empty : ∃ err, disk.metadata [] = .error err
  long : ∀ path, pathMax ≤ path.length → ∃ err, disk.metadata path = .error err
  same : ∀ path other mt others, components path = components other →
    disk.metadata path = .ok mt → disk.metadata other = .ok others → node path = node other
  follows : ∀ dir path name mt others, components path = components (join dir name) →
    disk.metadata dir = .ok mt → name ∈ names (node dir) → disk.metadata path = .ok others →
    node path = leads (node dir) name
  file : ∀ path mt, disk.metadata path = .ok mt → mt.isDir = false → names (node path) = []
  listed : ∀ path mt dir, disk.metadata path = .ok mt → mt.isDir = true →
    disk.readDir path = .ok dir →
    ∀ entry, .ok entry ∈ dir → ∃ name ∈ names (node path), entry = join path name
  complete : ∀ path mt dir, disk.metadata path = .ok mt → mt.isDir = true →
    disk.readDir path = .ok dir → (∀ entry ∈ dir, ∃ inner, entry = .ok inner) →
    ∀ name ∈ names (node path), .ok (join path name) ∈ dir

variable {disk : Disk} {Node : Type*}

/-- The paths that a selection adds to the list: those that nothing before them reaches. -/
def Taken (disk : Disk) (paths : List Path) (path : Path) : Prop :=
  ∃ earlier later, paths = earlier ++ path :: later ∧
    ∀ other ∈ earlier, ∀ inner, Lib.Reaches (entriesOf disk) other inner →
      components inner ≠ components path

namespace Places

variable (places : Places disk Node)

/-- What can be reached under a selection. -/
inductive Reachable (paths : List Path) : Node → Prop
  | selected {path : Path} {mt : Metadata} :
      path ∈ paths → disk.metadata path = .ok mt → Reachable paths (places.node path)
  | entry {node : Node} {name : Bytes} :
      Reachable paths node → name ∈ places.names node → Reachable paths (places.leads node name)

/-- Everything under a selection is listed, once, and each directory before its contents. -/
structure ListsOnce (paths listed : List Path) : Prop where
  once : (listed.map places.node).Nodup
  complete : ∀ node, node ∈ listed.map places.node ↔ places.Reachable paths node
  ordered : ∀ before path after, listed = before ++ path :: after →
    ∀ dir ∈ listed, ∀ name ∈ places.names (places.node dir),
      places.leads (places.node dir) name = places.node path → dir ∈ before

/-- A selection with a tree of readable paths: none of the paths that it adds is inside
another selected one, and no two paths under it lead to one file or directory. -/
structure Tidy (paths : List Path) : Prop where
  rooted : Rooted paths
  readable : ∀ path, Taken disk paths path →
    ∀ inner, Lib.Reaches (entriesOf disk) path inner →
      ∃ children, Lib.Opens (entriesOf disk) inner children
  single : ∀ path other, Taken disk paths path → Taken disk paths other →
    ∀ inner outer, Lib.Reaches (entriesOf disk) path inner →
      Lib.Reaches (entriesOf disk) other outer →
      places.node inner = places.node outer → components inner = components outer
  topmost : ∀ path, Taken disk paths path → ∀ other ∈ paths,
    ∀ dir entry, Lib.Reaches (entriesOf disk) other dir →
      Lib.Contains (entriesOf disk) dir entry → components entry ≠ components path

/-! ## Opening paths -/

variable {places : Places disk Node} {paths listed : List Path}

theorem opens_metadata
    {path : Path}
    {opened : List (Except CliprdrError Path)}
    (opens : entriesOf disk path = .ok opened) :
    ∃ mt, disk.metadata path = .ok mt := by
  unfold entriesOf at opens
  split at opens
  · cases opens
  · next mt found => exact ⟨mt, found⟩

/-- What a path contains has a name in the directory that the path leads to. -/
theorem name_of_contains
    (places : Places disk Node)
    {path entry : Path}
    (contains : Lib.Contains (entriesOf disk) path entry) :
    ∃ name ∈ places.names (places.node path), entry = join path name := by
  obtain ⟨opened, opens, member⟩ := contains
  unfold entriesOf at opens
  split at opens
  · cases opens
  · next mt found =>
      split at opens
      · next isDir =>
          split at opens
          · cases opens
          · next dir read =>
              cases opens
              obtain ⟨inner, isEntry, is⟩ := List.mem_map.mp member
              cases inner with
              | error err => cases is
              | ok inner =>
                  cases is
                  exact places.listed path mt dir found isDir read _ isEntry
      · cases opens
        cases member

theorem eq_of_mapError
    {toError : String → CliprdrError}
    {dir : List (Except String Path)}
    {children : List Path}
    (same : (dir.map fun entry => entry.mapError toError) = children.map .ok) :
    dir = children.map .ok := by
  induction children generalizing dir with
  | nil => exact List.map_eq_nil_iff.mp same
  | cons child children inductionHypothesis =>
      obtain ⟨entry, others, rfl, first, rest⟩ := List.map_eq_cons_iff.mp same
      cases entry with
      | error err => cases first
      | ok inner =>
          cases first
          rw [inductionHypothesis rest, List.map_cons]

/-- A path that is opened contains all names of the directory that it leads to. -/
theorem mem_of_opens
    {path : Path}
    {children : List Path}
    (opens : Lib.Opens (entriesOf disk) path children)
    {name : Bytes}
    (isName : name ∈ places.names (places.node path)) :
    join path name ∈ children := by
  unfold Lib.Opens entriesOf at opens
  split at opens
  · cases opens
  · next mt found =>
      split at opens
      · next isDir =>
          split at opens
          · cases opens
          · next dir read =>
              have all : dir = children.map .ok :=
                eq_of_mapError (Except.ok.inj opens)
              have member := places.complete path mt dir found isDir read
                (by rw [all]; simp) name isName
              rw [all] at member
              simpa using member
      · next isFile =>
          rw [places.file path mt found (Bool.not_eq_true _ ▸ isFile)] at isName
          cases isName

/-- Paths grow with every entry, and those that are too long are refused. -/
def pathSize (path : Path) : Nat := if path = [] then pathMax else path.length

theorem pathMax_le (path : Path) : pathMax ≤ pathSize path + 4095 := by
  unfold pathSize
  split
  · omega
  · next nonempty =>
      have positive := List.length_pos_iff.mpr nonempty
      unfold pathMax
      omega

theorem bounded (places : Places disk Node) :
    Lib.Bounded (entriesOf disk) pathSize pathMax where
  grows := by
    intro path entry contains
    obtain ⟨opened, opens, _⟩ := id contains
    obtain ⟨mt, found⟩ := opens_metadata opens
    obtain ⟨name, isName, rfl⟩ := name_of_contains places contains
    have longer : path.length < (join path name).length :=
      length_lt_join (places.isName _ name isName)
    have nonempty : path ≠ [] := by
      rintro rfl
      obtain ⟨err, refused⟩ := places.empty
      rw [refused] at found
      cases found
    have entered : join path name ≠ [] := List.ne_nil_of_length_pos (by omega)
    rw [pathSize, pathSize, if_neg nonempty, if_neg entered]
    exact longer
  ends := by
    intro path long
    have refused : ∃ err, disk.metadata path = .error err := by
      by_cases empty : path = []
      · rw [empty]
        exact places.empty
      · rw [pathSize, if_neg empty] at long
        exact places.long path long
    obtain ⟨err, refused⟩ := refused
    refine ⟨.fileError path err, ?_⟩
    simp only [entriesOf, refused]

/-- Paths that are listed, each with what it contains. -/
def Closed (disk : Disk) (listed : List Path) : Prop :=
  ∀ path ∈ listed, ∃ children, Lib.Opens (entriesOf disk) path children ∧
    ∀ child ∈ children, components child ∈ listed.map components

theorem closed_of_explored
    (explored : Lib.Explored components (entriesOf disk) [] paths listed) :
    Closed disk listed := explored.closed

/-- What a listed path contains is listed. -/
theorem Closed.contains
    (places : Places disk Node)
    (closed : Closed disk listed)
    {dir entry : Path}
    (contains : Lib.Contains (entriesOf disk) dir entry)
    (isListed : components dir ∈ listed.map components) :
    ∃ other ∈ listed, ∃ name ∈ places.names (places.node other),
      places.node other = places.node dir ∧ components other = components dir ∧
      entry = join dir name ∧ components (join other name) ∈ listed.map components := by
  obtain ⟨opened, opens, _⟩ := id contains
  obtain ⟨mt, found⟩ := opens_metadata opens
  obtain ⟨name, isName, is⟩ := name_of_contains places contains
  obtain ⟨other, member, equal⟩ := List.mem_map.mp isListed
  obtain ⟨children, opensOther, within⟩ := closed other member
  obtain ⟨others, foundOther⟩ := opens_metadata opensOther
  have sameNode := places.same other dir others mt equal foundOther found
  rw [← sameNode] at isName
  exact ⟨other, member, name, isName, sameNode, equal, is,
    within _ (mem_of_opens opensOther isName)⟩

/-- What a listed path reaches is listed. -/
theorem Closed.reaches
    (places : Places disk Node)
    (closed : Closed disk listed)
    {path inner : Path}
    (isListed : components path ∈ listed.map components)
    (reaches : Lib.Reaches (entriesOf disk) path inner) :
    components inner ∈ listed.map components := by
  induction reaches with
  | refl => exact isListed
  | entry _ contains inductionHypothesis =>
      obtain ⟨other, _, name, isName, sameNode, equal, rfl, within⟩ :=
        closed.contains places contains inductionHypothesis
      have valid := places.isName _ name isName
      rw [components_join valid, equal, ← components_join valid] at within
      exact within

/-! ## Selections -/

/-- A selected path that is not listed yet is one that the selection adds. -/
theorem taken_of_not_listed
    (places : Places disk Node)
    {earlier later : List Path}
    {path : Path}
    (explored : Lib.Explored components (entriesOf disk) [] earlier listed)
    (unlisted : components path ∉ listed.map components) :
    Taken disk (earlier ++ path :: later) path := by
  refine ⟨earlier, later, rfl, ?_⟩
  intro other member inner reaches equal
  have isListed : components other ∈ listed.map components := explored.listed other member
  rw [← equal] at unlisted
  exact unlisted ((closed_of_explored explored).reaches places isListed reaches)

/-- Where all that a selection adds can be opened, the selection is listed. -/
theorem exists_listing
    (places : Places disk Node)
    {earlier later : List Path}
    (readable : ∀ path, Taken disk (earlier ++ later) path →
      ∀ inner, Lib.Reaches (entriesOf disk) path inner →
        ∃ children, Lib.Opens (entriesOf disk) inner children)
    (explored : Lib.Explored components (entriesOf disk) [] earlier listed) :
    ∃ after, Lib.listAll (visit disk pathMax) (later.map .ok) listed = .ok after := by
  induction later generalizing earlier listed with
  | nil => exact ⟨listed, rfl⟩
  | cons path later inductionHypothesis =>
      have one : ∃ middle, visit disk pathMax path listed = .ok middle := by
        by_cases isListed : components path ∈ listed.map components
        · exact ⟨listed, by rw [visit, pathMax, Lib.explore, if_pos isListed]⟩
        · have taken : Taken disk (earlier ++ path :: later) path :=
            taken_of_not_listed places explored isListed
          exact Lib.exists_explore (bounded places) (pathMax_le path) (readable path taken) listed
      obtain ⟨middle, visited⟩ := one
      obtain ⟨fresh, rfl, more⟩ := Lib.explored_of_explore visited
      have both : Lib.Explored components (entriesOf disk) [] (earlier ++ [path])
          (listed ++ fresh) := explored.append more
      obtain ⟨after, rest⟩ := inductionHypothesis
        (by rwa [List.append_assoc, List.singleton_append]) both
      refine ⟨after, ?_⟩
      rw [List.map_cons, Lib.listAll, visited]
      exact rest

/-- A selection that is listed is explored. -/
theorem explored_of_listing
    {depth : Nat}
    (lists : Lib.listAll (visit disk depth) (paths.map .ok) [] = .ok listed) :
    Lib.Explored components (entriesOf disk) [] paths listed := by
  obtain ⟨children, fresh, same, rfl, explored⟩ :=
    Lib.explored_of_listAll (fun _ _ _ => Lib.explored_of_explore) lists
  rw [List.map_injective_iff.mpr (fun _ _ => Except.ok.inj) same]
  exact explored

theorem nodup_of_explored
    (explored : Lib.Explored components (entriesOf disk) [] paths listed) :
    (listed.map components).Nodup := explored.distinct List.nodup_nil

/-- A path that is listed comes after other components only. -/
theorem not_before
    (explored : Lib.Explored components (entriesOf disk) [] paths listed)
    {before after : List Path}
    {path : Path}
    (split : listed = before ++ path :: after) :
    components path ∉ before.map components := by
  have nodup := nodup_of_explored explored
  rw [split, List.map_append, List.map_cons] at nodup
  intro early
  exact (List.disjoint_of_nodup_append nodup) early List.mem_cons_self

/-- Two listed paths with the same components are one. -/
theorem eq_of_components
    (explored : Lib.Explored components (entriesOf disk) [] paths listed)
    {path other : Path}
    (member : path ∈ listed)
    (otherMember : other ∈ listed)
    (equal : components path = components other) :
    path = other :=
  List.inj_on_of_nodup_map (nodup_of_explored explored) member otherMember equal

/-- What is listed is in a path that the selection adds, or is such a path. -/
theorem reaches_of_explored
    (places : Places disk Node)
    (explored : Lib.Explored components (entriesOf disk) [] paths listed)
    {path : Path}
    (member : path ∈ listed) :
    ∃ selected, Taken disk paths selected ∧ Lib.Reaches (entriesOf disk) selected path := by
  obtain ⟨before, after, split⟩ := List.append_of_mem member
  induction length : before.length using Nat.strongRecOn generalizing path before after with
  | ind count inductionHypothesis =>
      rcases explored.origin split with ⟨earlier, later, rfl, early⟩ |
        ⟨container, isBefore, contains⟩
      · exact ⟨path, taken_of_not_listed places early (not_before explored split), .refl⟩
      · obtain ⟨front, back, rfl⟩ := List.append_of_mem isBefore
        have shorter : front.length < count := by
          rw [← length, List.length_append, List.length_cons]
          omega
        have splitEarlier : listed = front ++ container :: (back ++ path :: after) := by
          rw [split, List.append_assoc, List.cons_append]
        obtain ⟨selected, taken, reaches⟩ := inductionHypothesis front.length shorter
          (by rw [splitEarlier]; simp) front _ splitEarlier rfl
        exact ⟨selected, taken, reaches.entry contains⟩

theorem reachable_of_reaches
    {path inner : Path}
    (selected : path ∈ paths)
    (reaches : Lib.Reaches (entriesOf disk) path inner)
    {mt : Metadata}
    (found : disk.metadata inner = .ok mt) :
    places.Reachable paths (places.node inner) := by
  induction reaches generalizing mt with
  | refl => exact .selected selected found
  | @entry dir child _ contains inductionHypothesis =>
      obtain ⟨opened, opens, _⟩ := id contains
      obtain ⟨dirMt, foundDir⟩ := opens_metadata opens
      obtain ⟨name, isName, rfl⟩ := name_of_contains places contains
      rw [places.follows dir _ name dirMt mt rfl foundDir isName found]
      exact (inductionHypothesis foundDir).entry isName

theorem metadata_of_listed
    (closed : Closed disk listed)
    {path : Path}
    (member : path ∈ listed) :
    ∃ mt, disk.metadata path = .ok mt := by
  obtain ⟨children, opens, _⟩ := closed path member
  exact opens_metadata opens

/-- A name in a listed directory leads to a listed path. -/
theorem Closed.leads
    (closed : Closed disk listed)
    {dir : Path}
    (member : dir ∈ listed)
    {name : Bytes}
    (isName : name ∈ places.names (places.node dir)) :
    ∃ path ∈ listed, components path = components (join dir name) ∧
      places.node path = places.leads (places.node dir) name := by
  obtain ⟨children, opens, within⟩ := closed dir member
  obtain ⟨path, isListed, equal⟩ := List.mem_map.mp (within _ (mem_of_opens opens isName))
  obtain ⟨mt, found⟩ := opens_metadata opens
  obtain ⟨others, foundPath⟩ := metadata_of_listed closed isListed
  exact ⟨path, isListed, equal, places.follows dir path name mt others equal found isName foundPath⟩

/-- A list that is complete has what can be reached under its selection. -/
theorem mem_nodes_iff
    (explored : Lib.Explored components (entriesOf disk) [] paths listed)
    (node : Node) :
    node ∈ listed.map places.node ↔ places.Reachable paths node := by
  have closed := closed_of_explored explored
  constructor
  · intro member
    obtain ⟨path, isListed, rfl⟩ := List.mem_map.mp member
    obtain ⟨mt, found⟩ := metadata_of_listed closed isListed
    obtain ⟨selected, ⟨earlier, later, rfl, _⟩, reaches⟩ :=
      reaches_of_explored places explored isListed
    exact reachable_of_reaches (by simp) reaches found
  · intro reachable
    induction reachable with
    | @selected path mt isSelected found =>
        obtain ⟨other, isListed, equal⟩ := List.mem_map.mp (explored.listed path isSelected)
        obtain ⟨others, foundOther⟩ := metadata_of_listed closed isListed
        rw [places.same path other mt others equal.symm found foundOther]
        exact List.mem_map_of_mem isListed
    | @entry node name _ isName inductionHypothesis =>
        obtain ⟨dir, isListed, rfl⟩ := List.mem_map.mp inductionHypothesis
        obtain ⟨path, member, _, leads⟩ := closed.leads isListed isName
        rw [← leads]
        exact List.mem_map_of_mem member

/-! ## Tidy selections -/

/-- Two listed paths of a tidy selection that lead to one node are one. -/
theorem Tidy.eq_of_node
    (tidy : places.Tidy paths)
    (explored : Lib.Explored components (entriesOf disk) [] paths listed)
    {path other : Path}
    (member : path ∈ listed)
    (otherMember : other ∈ listed)
    (equal : places.node path = places.node other) :
    path = other := by
  obtain ⟨selected, taken, reaches⟩ := reaches_of_explored places explored member
  obtain ⟨otherSelected, otherTaken, otherReaches⟩ :=
    reaches_of_explored places explored otherMember
  exact eq_of_components explored member otherMember
    (tidy.single selected otherSelected taken otherTaken path other reaches otherReaches equal)

/-- A tidy selection is listed once, and each directory before its contents. -/
theorem Tidy.listsOnce
    (tidy : places.Tidy paths)
    (explored : Lib.Explored components (entriesOf disk) [] paths listed) :
    places.ListsOnce paths listed where
  once := by
    have nodup : listed.Nodup := (nodup_of_explored explored).of_map components
    exact nodup.map_on fun path member other otherMember =>
      tidy.eq_of_node explored member otherMember
  complete := mem_nodes_iff explored
  ordered := by
    intro before path after split dir isDir name isName leads
    have closed := closed_of_explored explored
    have member : path ∈ listed := by
      rw [split]
      simp
    obtain ⟨other, isListed, equal, leadsOther⟩ := closed.leads isDir isName
    obtain rfl := tidy.eq_of_node explored isListed member (leadsOther.trans leads)
    obtain ⟨children, opens, _⟩ := closed dir isDir
    have contains := opens.contains (mem_of_opens opens isName)
    rcases explored.origin split with ⟨earlier, later, is, early⟩ |
      ⟨container, isBefore, containsOther⟩
    · -- A path that the selection adds is in no other selected path.
      have taken : Taken disk paths other := by
        rw [is]
        exact taken_of_not_listed places early (not_before explored split)
      obtain ⟨selected, ⟨front, back, isSelected, _⟩, reaches⟩ :=
        reaches_of_explored places explored isDir
      exact absurd equal.symm (tidy.topmost other taken selected (by simp [isSelected]) dir
        (join dir name) reaches contains)
    · obtain ⟨otherName, isOther, rfl⟩ := name_of_contains places containsOther
      have parents := eq_of_components_join (places.isName _ _ isOther)
        (places.isName _ name isName) equal
      have listedContainer : container ∈ listed := by
        rw [split]
        exact List.mem_append_left _ isBefore
      rwa [← eq_of_components explored listedContainer isDir parents.1]

/-- A path that the selection adds is listed after what the paths before it contain. -/
theorem split_of_taken
    (explored : Lib.Explored components (entriesOf disk) [] paths listed)
    {path : Path}
    (taken : Taken disk paths path) :
    ∃ earlier before after, listed = before ++ path :: after ∧
      Lib.Explored components (entriesOf disk) [] earlier before := by
  obtain ⟨earlier, later, rfl, free⟩ := taken
  obtain ⟨before, late, rfl, first, second⟩ := explored.split
  refine ⟨earlier, before, ?_⟩
  cases second with
  | seen listed _ =>
      obtain ⟨other, member, equal⟩ := List.mem_map.mp listed
      obtain ⟨selected, isEarlier, reaches⟩ := first.reaches member
      exact absurd equal (free selected isEarlier other reaches)
  | @new _ _ behind children inner _ _ _ _ _ =>
      exact ⟨inner ++ behind, by simp, first⟩

/-- Where each directory is before its contents, no path that the selection adds is in another
selected one. -/
theorem ListsOnce.topmost
    (explored : Lib.Explored components (entriesOf disk) [] paths listed)
    (lists : places.ListsOnce paths listed)
    {path other dir entry : Path}
    (taken : Taken disk paths path)
    (selected : other ∈ paths)
    (reaches : Lib.Reaches (entriesOf disk) other dir)
    (contains : Lib.Contains (entriesOf disk) dir entry) :
    components entry ≠ components path := by
  intro equal
  have closed := closed_of_explored explored
  obtain ⟨earlier, before, after, split, early⟩ := split_of_taken explored taken
  have isListed := closed.reaches places (explored.listed other selected) reaches
  obtain ⟨container, member, name, isName, _, sameDir, rfl, _⟩ :=
    closed.contains places contains isListed
  have valid := places.isName _ name isName
  have equalThere : components path = components (join container name) := by
    rw [← equal, components_join valid, components_join valid, sameDir]
  have pathListed : path ∈ listed := by
    rw [split]
    simp
  obtain ⟨mt, found⟩ := metadata_of_listed closed member
  obtain ⟨others, foundPath⟩ := metadata_of_listed closed pathListed
  have leads := places.follows container path name mt others equalThere found isName foundPath
  have isBefore := lists.ordered before path after split container member name isName leads.symm
  -- The directory was listed with its contents, before the path was.
  obtain ⟨first, isFirst, equalFirst, _⟩ :=
    (closed_of_explored early).leads isBefore isName
  apply not_before explored split
  rw [equalThere, ← equalFirst]
  exact List.mem_map_of_mem isFirst

/-- What a path that the selection adds reaches is listed as it is. -/
theorem ListsOnce.mem
    (explored : Lib.Explored components (entriesOf disk) [] paths listed)
    (lists : places.ListsOnce paths listed)
    {path inner : Path}
    (taken : Taken disk paths path)
    (reaches : Lib.Reaches (entriesOf disk) path inner) :
    inner ∈ listed := by
  have closed := closed_of_explored explored
  induction reaches with
  | refl =>
      obtain ⟨_, before, after, split, _⟩ := split_of_taken explored taken
      rw [split]
      simp
  | @entry dir child reaches contains inductionHypothesis =>
      obtain ⟨children, opens, within⟩ := closed dir inductionHypothesis
      obtain ⟨other, member, equal⟩ := List.mem_map.mp (within child (contains.mem opens))
      obtain ⟨before, after, split⟩ := List.append_of_mem member
      rcases explored.origin split with ⟨earlier, later, is, early⟩ |
        ⟨container, isBefore, containsOther⟩
      · have otherTaken : Taken disk paths other := by
          rw [is]
          exact taken_of_not_listed places early (not_before explored split)
        obtain ⟨front, back, isSelected, _⟩ := taken
        exact absurd equal.symm (lists.topmost explored otherTaken (by simp [isSelected])
          reaches contains)
      · obtain ⟨otherName, isOther, rfl⟩ := name_of_contains places containsOther
        obtain ⟨name, isName, rfl⟩ := name_of_contains places contains
        have parts := eq_of_components_join (places.isName _ _ isOther)
          (places.isName _ name isName) equal
        have listedContainer : container ∈ listed := by
          rw [split]
          exact List.mem_append_left _ isBefore
        rwa [eq_of_components explored listedContainer inductionHypothesis parts.1, parts.2]
          at member

/-- A selection that is listed once, each directory before its contents, is tidy. -/
theorem ListsOnce.tidy
    (rooted : Rooted paths)
    (explored : Lib.Explored components (entriesOf disk) [] paths listed)
    (lists : places.ListsOnce paths listed) :
    places.Tidy paths where
  rooted := rooted
  readable := by
    intro path taken inner reaches
    obtain ⟨children, opens, _⟩ :=
      closed_of_explored explored inner (lists.mem explored taken reaches)
    exact ⟨children, opens⟩
  single := by
    intro path other taken otherTaken inner outer reaches otherReaches equal
    rw [List.inj_on_of_nodup_map lists.once (lists.mem explored taken reaches)
      (lists.mem explored otherTaken otherReaches) equal]
  topmost := fun path taken other selected dir entry reaches contains =>
    lists.topmost explored taken selected reaches contains

/-- Whatever the bound, if it is no smaller than the longest path, the list is the same. -/
theorem constructToDepth_eq
    (places : Places disk Node)
    (paths : List Path)
    {depth : Nat}
    (deep : pathMax ≤ depth) :
    constructToDepth depth disk paths = constructFileList disk paths := by
  obtain ⟨more, rfl⟩ := Nat.exists_eq_add_of_le deep
  have visits : ∀ path visited,
      visit disk (pathMax + more) path visited = visit disk pathMax path visited := by
    intro path visited
    have same : visit disk (4095 + more + 1) path visited = visit disk pathMax path visited :=
      Lib.explore_depth (bounded places) (pathMax_le path) more visited
    rw [show 4095 + more + 1 = pathMax + more from by unfold pathMax; omega] at same
    exact same
  rw [constructFileList_eq]
  unfold constructToDepth
  split
  · rfl
  · split
    · rfl
    · next relativeRoot _ =>
        have deeper := records_selection disk relativeRoot (pathMax + more) paths
        have plain := records_selection disk relativeRoot pathMax paths
        rw [Lib.listAll_congr (fun path _ visited => visits path visited)] at deeper
        rw [deeper.congr plain]

/-- What `construct_file_list` gives has everything under a selection, once, and each directory
before its contents. -/
def Lists (places : Places disk Node) (paths : List Path) : Prop :=
  ∃ fileList, constructFileList disk paths = .ok fileList ∧
    places.ListsOnce paths (fileList.map (·.path))

theorem Lists.tidy (lists : places.Lists paths) : places.Tidy paths := by
  obtain ⟨fileList, constructed, once⟩ := lists
  obtain ⟨rooted, listing⟩ := (constructToDepth_ok_iff disk pathMax paths
    (fileList.map (·.path))).mp ⟨fileList, constructed, rfl⟩
  exact once.tidy rooted (explored_of_listing listing)

theorem Tidy.lists (tidy : places.Tidy paths) : places.Lists paths := by
  have readable : ∀ path, Taken disk ([] ++ paths) path →
      ∀ inner, Lib.Reaches (entriesOf disk) path inner →
        ∃ children, Lib.Opens (entriesOf disk) inner children := tidy.readable
  obtain ⟨listed, listing⟩ := exists_listing places readable (.nil [])
  obtain ⟨fileList, constructed, rfl⟩ := (constructToDepth_ok_iff disk pathMax paths
    listed).mpr ⟨tidy.rooted, listing⟩
  exact ⟨fileList, constructed, tidy.listsOnce (explored_of_listing listing)⟩

/-- Entering directories ends, and everything under a selection is listed once, with each
directory before its contents, exactly if the selection is tidy. -/
theorem lists_iff_tidy (places : Places disk Node) (paths : List Path) :
    (∀ depth, pathMax ≤ depth →
      constructToDepth depth disk paths = constructFileList disk paths) ∧
    (places.Lists paths ↔ places.Tidy paths) :=
  ⟨fun _ deep => constructToDepth_eq places paths deep, Lists.tidy, Tidy.lists⟩

end Places

/-! ## A link to its own directory -/

/-- The name of a link. -/
def loopName : Bytes := [0x6C, 0x6F, 0x6F, 0x70]

/-- The paths of a directory that contains nothing but a link to itself. -/
def inLoop (path : Path) : Bool :=
  decide (path.length < pathMax) && (components path).1 == .root &&
    (components path).2.head? == some [0x61] &&
    (components path).2.tail.all fun part => part == loopName

/-- A directory that contains a link to itself. -/
def loopDisk : Disk where
  metadata path :=
    if inLoop path then .ok ⟨4096, true, false, false, some 0, 0o40755⟩
    else .error "No such file or directory"
  readDir path :=
    if inLoop path then .ok [.ok (join path loopName)] else .error "No such file or directory"
  contents _ := .error "Is a directory"
  length_contents := by
    intro path mt bytes found read
    cases read

theorem inLoop_of_metadata
    {path : Path}
    {mt : Metadata}
    (found : loopDisk.metadata path = .ok mt) :
    inLoop path = true ∧ mt.isDir = true := by
  unfold loopDisk at found
  dsimp only at found
  split at found
  · next inside =>
      cases found
      exact ⟨inside, rfl⟩
  · cases found

theorem readDir_loop {path : Path} (inside : inLoop path = true) :
    loopDisk.readDir path = .ok [.ok (join path loopName)] :=
  if_pos inside

/-- All paths of the directory lead to it. -/
def loopPlaces : Places loopDisk Unit where
  node _ := ()
  names _ := [loopName]
  leads _ _ := ()
  isName := by
    intro node name member
    rw [List.mem_singleton.mp member]
    exact ⟨by decide, by decide, by decide⟩
  empty := ⟨"No such file or directory", rfl⟩
  long := by
    intro path long
    refine ⟨"No such file or directory", if_neg ?_⟩
    simp [inLoop, Nat.not_lt.mpr long]
  same := fun _ _ _ _ _ _ _ => rfl
  follows := fun _ _ _ _ _ _ _ _ _ => rfl
  file := by
    intro path mt found isFile
    rw [(inLoop_of_metadata found).2] at isFile
    cases isFile
  listed := by
    intro path mt dir found isDir read entry member
    rw [readDir_loop (inLoop_of_metadata found).1] at read
    cases read
    rw [List.mem_singleton, Except.ok.injEq] at member
    exact ⟨loopName, List.mem_singleton_self _, member⟩
  complete := by
    intro path mt dir found isDir read all name member
    rw [readDir_loop (inLoop_of_metadata found).1] at read
    cases read
    rw [List.mem_singleton.mp member]
    exact List.mem_singleton_self _

/-- The path of the directory, with the name of the link behind it. -/
def loopPath : Nat → Path
  | 0 => [slash, 0x61]
  | count + 1 => join (loopPath count) loopName

theorem le_length_loopPath (count : Nat) : count ≤ (loopPath count).length := by
  induction count with
  | zero => exact Nat.zero_le _
  | succ count inductionHypothesis =>
      have longer : (loopPath count).length < (join (loopPath count) loopName).length :=
        length_lt_join (loopPlaces.isName () loopName (List.mem_singleton_self _))
      exact Nat.lt_of_le_of_lt inductionHypothesis longer

/-- The directory with a link to itself is entered until its path is too long, and is not
listed. -/
theorem loop_not_listed :
    Rooted [[slash, 0x61]] ∧ ¬loopPlaces.Lists [[slash, 0x61]] := by
  refine ⟨⟨[slash, 0x61], [slash], rfl, by decide⟩, ?_⟩
  intro lists
  have tidy := lists.tidy
  have taken : Taken loopDisk [[slash, 0x61]] [slash, 0x61] :=
    ⟨[], [], rfl, fun other member => absurd member List.not_mem_nil⟩
  have found : ∀ inner, Lib.Reaches (entriesOf loopDisk) [slash, 0x61] inner →
      ∃ mt, loopDisk.metadata inner = .ok mt := by
    intro inner reaches
    obtain ⟨children, opens⟩ := tidy.readable _ taken inner reaches
    exact Places.opens_metadata opens
  have reached : ∀ count, Lib.Reaches (entriesOf loopDisk) [slash, 0x61] (loopPath count) := by
    intro count
    induction count with
    | zero => exact .refl
    | succ count inductionHypothesis =>
        obtain ⟨mt, isFound⟩ := found _ inductionHypothesis
        obtain ⟨inside, isDir⟩ := inLoop_of_metadata isFound
        refine inductionHypothesis.entry ⟨[.ok (loopPath (count + 1))], ?_, ?_⟩
        · simp only [entriesOf, isFound, isDir, readDir_loop inside]
          rfl
        · exact List.mem_singleton_self _
  obtain ⟨mt, isFound⟩ := found _ (reached pathMax)
  obtain ⟨err, refused⟩ := loopPlaces.long _ (le_length_loopPath pathMax)
  rw [refused] at isFound
  cases isFound

end Clipboard
end OneDesk
