import Mathlib.Data.List.DropRight
import OneDesk.Lib.Split

/-!
# Paths as components

A path on Unix as the list of its components, which is what two paths are
compared by: separators that stand together or at the end count as one or none,
and so does `.`.  The file name is the last component, and its stem and its
extension are divided by its last dot.
-/

namespace OneDesk
namespace Lib
namespace Components

/-- One component of a path. -/
abbrev Component := List Char

/-- `PathBuf` -/
abbrev PathBuf := List Component

/-- `Component::RootDir` -/
def rootDir : Component := ['/']

/-- `Component::ParentDir` -/
def parentDir : Component := ['.', '.']

/-- The components of a text. -/
def components (text : List Char) : PathBuf :=
  (if text.head? = some '/' then [rootDir] else []) ++
    (text.splitOn '/').filter fun part => part ≠ [] ∧ part ≠ ['.']

/-- `PathBuf::push` -/
def push (path : PathBuf) (text : List Char) : PathBuf :=
  if text.head? = some '/' then components text else path ++ components text

/-- `Path::file_name` -/
def fileName (path : PathBuf) : Option Component :=
  path.getLast?.filter fun name => name ≠ rootDir ∧ name ≠ parentDir

/-- The last dot of a file name divides stem and extension, unless it comes first. -/
def splitAtDot (name : Component) : Component × Option Component :=
  let before := (name.rdropWhile (· ≠ '.')).dropLast
  if '.' ∈ name ∧ before ≠ [] then (before, some (name.rtakeWhile (· ≠ '.')))
  else (name, none)

/-- `Path::file_stem` -/
def fileStem (path : PathBuf) : Option Component :=
  (fileName path).map fun name => (splitAtDot name).1

/-- `Path::extension` -/
def extension (path : PathBuf) : Option Component :=
  (fileName path).bind fun name => (splitAtDot name).2

/-- `Path::with_extension` -/
def withExtension (path : PathBuf) (extension : Component) : PathBuf :=
  match fileName path with
  | none => path
  | some name =>
      path.dropLast ++
        [(splitAtDot name).1 ++ if extension = [] then [] else '.' :: extension]

/-- A name is not special in a path. -/
structure IsName (name : Component) : Prop where
  ne_nil : name ≠ []
  ne_dot : name ≠ ['.']
  ne_parentDir : name ≠ parentDir
  noSeparator : '/' ∉ name

theorem IsName.ne_rootDir {name : Component} (isName : IsName name) : name ≠ rootDir := by
  rintro rfl
  exact isName.noSeparator List.mem_cons_self

theorem IsName.head?_ne {name : Component} (isName : IsName name) :
    name.head? ≠ some '/' :=
  fun first => isName.noSeparator (List.mem_of_head? first)

/-- A name is one component. -/
theorem IsName.push_eq
    {name : Component}
    (isName : IsName name)
    (path : PathBuf) :
    push path name = path ++ [name] := by
  rw [push, if_neg isName.head?_ne, components, if_neg isName.head?_ne,
    splitOn_of_not_mem isName.noSeparator]
  simp [isName.ne_nil, isName.ne_dot]

@[simp] theorem fileName_concat
    (path : PathBuf)
    {name : Component}
    (notRoot : name ≠ rootDir)
    (notParent : name ≠ parentDir) :
    fileName (path ++ [name]) = some name := by
  simp [fileName, notRoot, notParent]

theorem rdropWhile_append_cons
    (stem : Component)
    {extension : Component}
    (noDot : '.' ∉ extension) :
    (stem ++ '.' :: extension).rdropWhile (· ≠ '.') = stem ++ ['.'] := by
  induction extension using List.reverseRecOn with
  | nil => exact List.rdropWhile_concat_neg _ _ _ (by simp)
  | append_singleton others last inductionHypothesis =>
      rw [List.mem_append, not_or, List.mem_singleton] at noDot
      rw [← List.cons_append, ← List.append_assoc,
        List.rdropWhile_concat_pos _ _ _ (by simpa using Ne.symm noDot.2),
        inductionHypothesis noDot.1]

/-- The last dot of a name with an extension. -/
theorem splitAtDot_append
    {stem extension : Component}
    (given : stem ≠ [])
    (noDot : '.' ∉ extension) :
    splitAtDot (stem ++ '.' :: extension) = (stem, some extension) := by
  have before := rdropWhile_append_cons stem noDot
  have after : (stem ++ '.' :: extension).rtakeWhile (· ≠ '.') = extension := by
    have whole : (stem ++ '.' :: extension).rdropWhile (· ≠ '.') ++
        (stem ++ '.' :: extension).rtakeWhile (· ≠ '.') = stem ++ '.' :: extension :=
      List.rdropWhile_append_rtakeWhile
    rw [before, List.append_assoc] at whole
    exact List.cons_injective (List.append_cancel_left whole)
  rw [splitAtDot, before, after, List.dropLast_concat]
  exact if_pos ⟨by simp, given⟩

/-- A name is its stem, or its stem, a dot and its extension. -/
theorem splitAtDot_cases (name : Component) :
    splitAtDot name = (name, none) ∨
      ∃ stem extension, splitAtDot name = (stem, some extension) ∧
        stem ++ '.' :: extension = name := by
  by_cases dotted : '.' ∈ name ∧ (name.rdropWhile (· ≠ '.')).dropLast ≠ []
  · right
    have given : name.rdropWhile (· ≠ '.') ≠ [] := fun none => dotted.2 (by rw [none]; rfl)
    have last : (name.rdropWhile (· ≠ '.')).getLast given = '.' := by
      have stopped := List.rdropWhile_last_not (· ≠ '.') name given
      simpa using stopped
    have restored :
        (name.rdropWhile (· ≠ '.')).dropLast ++ ['.'] = name.rdropWhile (· ≠ '.') :=
      (congrArg (fun char => (name.rdropWhile (· ≠ '.')).dropLast ++ [char]) last).symm.trans
        (List.dropLast_append_getLast given)
    refine ⟨_, _, if_pos dotted, ?_⟩
    calc
      (name.rdropWhile (· ≠ '.')).dropLast ++ '.' :: name.rtakeWhile (· ≠ '.')
      _ = (name.rdropWhile (· ≠ '.')).dropLast ++ ['.'] ++ name.rtakeWhile (· ≠ '.') := by
          simp
      _ = name.rdropWhile (· ≠ '.') ++ name.rtakeWhile (· ≠ '.') := by
          rw [restored]
      _ = name := List.rdropWhile_append_rtakeWhile
  · exact .inl (if_neg dotted)

end Components
end Lib
end OneDesk
