import OneDesk.Lib.Path
import OneDesk.Lib.Split

/-!
# Below a directory on Unix

A path lies below a directory if it leads further down than the directory itself.  What is put
after the text of such a path, without a separator, leads to another path below the directory.
-/

namespace OneDesk
namespace Lib
namespace Path

/-- A path leads down from another one, and further than that. -/
def Resolved.Below (base path : Resolved) : Prop :=
  base.Under path ∧ base.parts.length < path.parts.length

instance (base path : Resolved) : Decidable (base.Below path) :=
  inferInstanceAs (Decidable (_ ∧ _))

/-- The parts of a path text, empty ones included. -/
def unixParts (text : List Char) : List Part :=
  text.splitOn '/'

theorem unixParts_ne_nil (text : List Char) : unixParts text ≠ [] :=
  List.splitOn_ne_nil '/' text

@[simp] theorem unixParts_slash (text : List Char) :
    unixParts ('/' :: text) = [] :: unixParts text := by
  simp [unixParts, List.splitOn_cons_eq_if_modifyHead]

theorem unixParts_plain
    {first : Char}
    (plain : first ≠ '/')
    (text : List Char) :
    unixParts (first :: text) = (unixParts text).modifyHead (first :: ·) := by
  simp [unixParts, List.splitOn_cons_eq_if_modifyHead, plain]

@[simp] theorem startsRooted_cons (first : Char) (text : List Char) :
    startsRooted .unix (first :: text) = (first == '/') := rfl

/-- The root of a path is an empty part before others. -/
theorem startsRooted_unix (text : List Char) :
    startsRooted .unix text = true ↔ ∃ others, unixParts text = [] :: others ∧ others ≠ [] := by
  cases text with
  | nil => simp [startsRooted, unixParts]
  | cons first text =>
      by_cases separator : first = '/'
      · simp [separator, unixParts_ne_nil]
      · obtain ⟨part, parts, split⟩ := List.exists_cons_of_ne_nil (unixParts_ne_nil text)
        simp [separator, unixParts_plain separator, split]

/-- A path on Unix is its root and the parts of its whole text. -/
theorem resolve_unix (path : String) :
    resolve .unix path =
      ⟨none, startsRooted .unix path.toList,
        walk (startsRooted .unix path.toList) [] (unixParts path.toList)⟩ := by
  have plain : resolve .unix path =
      ⟨none, startsRooted .unix path.toList,
        walk (startsRooted .unix path.toList) [] (unixParts (body .unix path.toList))⟩ := by
    simp only [resolve, splitDrive, rawParts, separates, unixParts]
    simp
    rfl
  rw [plain]
  cases path.toList with
  | nil => rfl
  | cons first text =>
      by_cases separator : first = '/'
      · rw [separator, unixParts_slash]
        rfl
      · simp [body, separator]

/-- The directory of a path below another directory lies under that. -/
theorem Resolved.Below.directory
    {base : Resolved}
    {drive : Option Drive}
    {rooted : Bool}
    {parts : List Part}
    {last : Part}
    (below : base.Below ⟨drive, rooted, parts ++ [last]⟩) :
    base.Under ⟨drive, rooted, parts⟩ := by
  obtain ⟨⟨sameDrive, sameRoot, rest, same, descends⟩, further⟩ := below
  dsimp only at same further
  rcases List.eq_nil_or_concat rest with rfl | ⟨others, final, rfl⟩
  · rw [same, List.append_nil] at further
    exact absurd further (Nat.lt_irrefl _)
  · rw [List.concat_eq_append, ← List.append_assoc] at same
    obtain ⟨before, -⟩ := List.append_inj' same rfl
    exact ⟨sameDrive, sameRoot, others, before, fun climbs => descends (by simp [climbs])⟩

/-- Where going up still leads below some parts, it came from further below them. -/
theorem further_of_enter_parentDir
    {rooted : Bool}
    {directory base rest : List Part}
    (parts : enter rooted directory parentDir = base ++ rest)
    (nonempty : rest ≠ [])
    (descends : parentDir ∉ rest) :
    ∃ further, directory = base ++ further ∧ parentDir ∉ further := by
  rw [enter, if_neg (by decide), if_pos rfl] at parts
  rcases List.eq_nil_or_concat directory with rfl | ⟨others, top, rfl⟩
  · cases rooted with
    | true => exact absurd (List.append_eq_nil_iff.mp parts.symm).2 nonempty
    | false =>
        have climbs : parentDir ∈ rest := by
          rcases List.append_eq_singleton_iff.mp parts.symm with ⟨-, is⟩ | ⟨-, is⟩
          · rw [is]
            exact List.mem_singleton_self _
          · exact absurd is nonempty
        exact absurd climbs descends
  · rw [List.concat_eq_append] at parts ⊢
    simp only [List.getLast?_append, List.getLast?_singleton, Option.some_or] at parts
    split at parts
    · next isParent =>
        obtain ⟨before, final, rfl⟩ := (List.eq_nil_or_concat rest).resolve_left nonempty
        rw [List.concat_eq_append, ← List.append_assoc] at parts
        obtain ⟨-, same⟩ := List.append_inj' parts rfl
        exact absurd (by simp [List.singleton_inj.mp same]) descends
    · next notParent =>
        rw [List.dropLast_concat] at parts
        refine ⟨rest ++ [top], by rw [parts, List.append_assoc], ?_⟩
        intro climbs
        rcases List.mem_append.mp climbs with inside | isTop
        · exact descends inside
        · exact notParent (List.mem_singleton.mp isTop).symm

/-- Where a path lies below a directory, all of it but the last part lies under the directory. -/
theorem under_of_below_concat
    {base : Resolved}
    {rooted : Bool}
    {before : List Part}
    {last : Part}
    (below : base.Below ⟨none, rooted, walk rooted [] (before ++ [last])⟩) :
    base.Under ⟨none, rooted, walk rooted [] before⟩ := by
  obtain ⟨⟨drive, root, rest, parts, descends⟩, further⟩ := below
  refine ⟨drive, root, ?_⟩
  dsimp only at parts further
  have nonempty : rest ≠ [] := by
    rintro rfl
    rw [parts, List.append_nil] at further
    exact Nat.lt_irrefl _ further
  rw [walk_append] at parts
  generalize walk rooted [] before = directory at parts
  replace parts : enter rooted directory last = base.parts ++ rest := parts
  by_cases climbs : last = parentDir
  · exact further_of_enter_parentDir (climbs ▸ parts) nonempty descends
  · rw [enter, if_neg climbs] at parts
    split at parts
    · exact ⟨rest, parts, descends⟩
    · have below : base.Below ⟨none, rooted, directory ++ [last]⟩ :=
        ⟨⟨drive, root, rest, parts, descends⟩, by
          simp only [parts, List.length_append]
          exact Nat.lt_add_of_pos_right (List.length_pos_iff.mpr nonempty)⟩
      exact below.directory.2.2

/-- A name in a directory under another one lies below that. -/
theorem Resolved.Under.concat
    {base directory : Resolved}
    {name : Part}
    (under : base.Under directory)
    (normal : isNormal name = true) :
    base.Below ⟨directory.drive, directory.rooted, directory.parts ++ [name]⟩ := by
  obtain ⟨drive, root, rest, parts, descends⟩ := under
  refine ⟨⟨drive, root, rest ++ [name], by rw [parts, List.append_assoc], ?_⟩, ?_⟩
  · intro climbs
    rcases List.mem_append.mp climbs with inside | isName
    · exact descends inside
    · rw [← List.mem_singleton.mp isName] at normal
      cases normal
  · simp only [parts, List.length_append, List.length_singleton]
    omega

/-- A part with a character other than a dot is a name. -/
theorem isNormal_of_mem
    {part : Part}
    {character : Char}
    (member : character ∈ part)
    (notDot : character ≠ '.') :
    isNormal part = true := by
  have differs : ∀ other : Part, character ∉ other → part ≠ other := by
    rintro _ without rfl
    exact without member
  simp only [isNormal, Bool.and_eq_true, bne_iff_ne]
  exact ⟨⟨differs [] (by simp), differs ['.'] (by simp [notDot])⟩,
    differs parentDir (by simp [parentDir, notDot])⟩

/-- A part that is longer than `..` is a name. -/
theorem isNormal_of_long
    {part : Part}
    (long : 2 < part.length) :
    isNormal part = true := by
  have differs : ∀ other : Part, other.length ≤ 2 → part ≠ other := by
    rintro _ short rfl
    omega
  simp only [isNormal, Bool.and_eq_true, bne_iff_ne]
  exact ⟨⟨differs [] (by decide), differs ['.'] (by decide)⟩, differs parentDir (by decide)⟩

/-- A text put after a path below a directory leads to another path below it. -/
theorem Resolved.Below.append
    {base : Resolved}
    {path added : String}
    (below : base.Below (resolve .unix path))
    (long : 2 < added.toList.length)
    (plain : '/' ∉ added.toList) :
    base.Below (resolve .unix (path ++ added)) := by
  have apart : ∀ character ∈ added.toList, (character == '/') = false := fun _ member =>
    beq_false_of_ne fun same => plain (same ▸ member)
  obtain ⟨before, last, parts, grows⟩ := splitOnP_append_plain (· == '/') path.toList
  replace parts : unixParts path.toList = before ++ [last] := parts
  have grown : unixParts (path.toList ++ added.toList) = before ++ [last ++ added.toList] :=
    grows added.toList apart
  have rooted : startsRooted .unix (path.toList ++ added.toList) =
      startsRooted .unix path.toList := by
    cases path.toList with
    | nil =>
        cases adds : added.toList with
        | nil => rfl
        | cons first others => exact apart first (by simp [adds])
    | cons first others => rfl
  have normal : isNormal (last ++ added.toList) = true := by
    refine isNormal_of_long ?_
    rw [List.length_append]
    omega
  rw [resolve_unix, parts] at below
  rw [resolve_unix, String.toList_append, rooted, grown, walk_concat _ _ _ normal]
  exact (under_of_below_concat below).concat normal

/-- Parts that are put together with separators are the parts of the whole text. -/
theorem unixParts_intercalate
    {parts : List Part}
    (plain : ∀ part ∈ parts, '/' ∉ part)
    (nonempty : parts ≠ []) :
    unixParts (['/'].intercalate parts) = parts :=
  List.splitOn_intercalate '/' plain nonempty

end Path
end Lib
end OneDesk
