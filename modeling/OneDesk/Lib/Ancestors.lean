import Mathlib.Logic.Relation
import OneDesk.Lib.Path

/-!
# Parents of paths

A path as the list of its components, which is what two paths are compared by: separators that stand
together or at the end count as one or none, and so does `.` unless the path begins with it.  Going
from parent to parent drops one component at a time and stops at the root or the drive.
-/

namespace OneDesk
namespace Lib
namespace Path

/-- `Component` of the standard library. -/
inductive Component
  | drive (drive : Drive)
  | rootDir
  | curDir
  | parentDir
  | normal (name : Part)
  deriving DecidableEq

/-- Drives and roots have nothing above them. -/
def Component.isAnchor : Component → Bool
  | .drive _ | .rootDir => true
  | .curDir | .parentDir | .normal _ => false

/-- The component of a part, where `.` counts in verbatim paths only. -/
def component (verbatim : Bool) (part : Part) : Option Component :=
  if part = [] then none
  else if part = ['.'] then if verbatim then some .curDir else none
  else if part = Path.parentDir then some .parentDir
  else some (.normal part)

/-- `Path::components` -/
def components (style : Style) (path : String) : List Component :=
  let split := splitDrive style path.toList
  let rooted := startsRooted style split.2 || split.1.any Drive.impliesRoot
  let parts := rawParts style split.1 split.2
  split.1.toList.map .drive ++
    (if rooted then [.rootDir]
      else if parts.head? = some ['.'] then [.curDir] else []) ++
    parts.filterMap (component (split.1.any Drive.isVerbatim))

/-- `Path::parent` -/
def parent (path : List Component) : Option (List Component) :=
  if path.getLast?.any fun last => !last.isAnchor then some path.dropLast else none

/-- A path lies inside a directory if it goes on below it. -/
def Inside (path directory : List Component) : Prop :=
  ∃ rest, rest ≠ [] ∧ path = directory ++ rest ∧ ∀ below ∈ rest, below.isAnchor = false

/-- A path is a directory or lies inside it. -/
def Within (path directory : List Component) : Prop :=
  path = directory ∨ Inside path directory

variable {path directory above : List Component}

theorem parent_eq_some_iff :
    parent path = some directory ↔
      ∃ last, path = directory ++ [last] ∧ last.isAnchor = false := by
  unfold parent
  constructor
  · intro isParent
    split at isParent
    case isTrue below =>
      obtain ⟨last, isLast, isBelow⟩ := (Option.any_eq_true _ _).mp below
      obtain ⟨before, rfl⟩ := List.getLast?_eq_some_iff.mp isLast
      rw [List.dropLast_concat] at isParent
      obtain rfl := Option.some_inj.mp isParent
      exact ⟨last, rfl, by simpa using isBelow⟩
    case isFalse => cases isParent
  · rintro ⟨last, rfl, isBelow⟩
    simp [isBelow]

theorem Inside.of_parent
    (isParent : parent path = some directory) :
    Inside path directory := by
  obtain ⟨last, rfl, isBelow⟩ := parent_eq_some_iff.mp isParent
  refine ⟨[last], List.cons_ne_nil _ _, rfl, ?_⟩
  intro below member
  rwa [List.mem_singleton.mp member]

theorem Inside.trans
    (inside : Inside path directory)
    (further : Inside directory above) :
    Inside path above := by
  obtain ⟨rest, nonempty, rfl, isBelow⟩ := inside
  obtain ⟨first, -, rfl, isAlsoBelow⟩ := further
  refine ⟨first ++ rest, by simp [nonempty], List.append_assoc .., ?_⟩
  intro below member
  rcases List.mem_append.mp member with early | late
  · exact isAlsoBelow below early
  · exact isBelow below late

theorem Within.trans
    (within : Within path directory)
    (further : Within directory above) :
    Within path above := by
  rcases within with rfl | inside
  · exact further
  · rcases further with rfl | beyond
    · exact .inr inside
    · exact .inr (inside.trans beyond)

/-- A path lies inside what is reached from it by going to parents. -/
theorem inside_iff_transGen :
    Inside path directory ↔
      Relation.TransGen (fun below above => parent below = some above) path directory := by
  constructor
  · rintro ⟨rest, nonempty, rfl, isBelow⟩
    induction rest using List.reverseRecOn with
    | nil => exact absurd rfl nonempty
    | append_singleton rest last inductionHypothesis =>
        have step : parent (directory ++ (rest ++ [last])) = some (directory ++ rest) :=
          parent_eq_some_iff.mpr ⟨last, (List.append_assoc ..).symm, isBelow last (by simp)⟩
        by_cases done : rest = []
        · subst done
          rw [List.append_nil] at step
          exact .single step
        · exact .head step
            (inductionHypothesis done fun below member => isBelow below (by simp [member]))
  · intro reached
    induction reached with
    | single isParent => exact .of_parent isParent
    | tail _ isParent inductionHypothesis => exact inductionHypothesis.trans (.of_parent isParent)

end Path
end Lib
end OneDesk
