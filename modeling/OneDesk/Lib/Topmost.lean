import Mathlib.Data.List.Basic
import Mathlib.Tactic.TypeStar

/-!
# Lists of the topmost items

Items of a hierarchy come one after another, and only the topmost ones are to be kept.  An item that
comes replaces those directly below it, and is dropped itself if it is directly below a kept one.
Whatever came is then still below what is kept.
-/

namespace OneDesk
namespace Lib

variable {Item : Type*}

/-- An item comes to a list of topmost items. -/
def putTopmost (isAbove : Item → Item → Bool) (item : Item) (items : List Item) : List Item :=
  let others := items.filter fun other => !isAbove item other
  if others.any fun other => isAbove other item then others else others ++ [item]

/-- An item is at or below one of the list. -/
def Covered (within : Item → Item → Prop) (item : Item) (items : List Item) : Prop :=
  ∃ above ∈ items, within item above

variable {isAbove : Item → Item → Bool} {item other : Item} {items : List Item}

/-- What is kept was there or comes. -/
theorem mem_putTopmost
    (member : other ∈ putTopmost isAbove item items) :
    other = item ∨ other ∈ items ∧ isAbove item other = false := by
  have ofOthers (isOther : other ∈ items.filter fun other => !isAbove item other) :
      other ∈ items ∧ isAbove item other = false := by
    simpa using List.mem_filter.mp isOther
  unfold putTopmost at member
  dsimp only at member
  split at member
  · exact .inr (ofOthers member)
  · rcases List.mem_append.mp member with old | new
    · exact .inr (ofOthers old)
    · exact .inl (List.mem_singleton.mp new)

variable {within : Item → Item → Prop}

/-- What comes is covered. -/
theorem covered_putTopmost_self
    (refl : ∀ item, within item item)
    (of_isAbove : ∀ above below, isAbove above below = true → within below above)
    (item : Item)
    (items : List Item) :
    Covered within item (putTopmost isAbove item items) := by
  unfold putTopmost
  dsimp only
  split
  case isTrue below =>
    obtain ⟨above, member, isAbove_eq⟩ := List.any_eq_true.mp below
    exact ⟨above, member, of_isAbove above item isAbove_eq⟩
  case isFalse => exact ⟨item, by simp, refl item⟩

/-- What was covered stays so. -/
theorem Covered.putTopmost
    (refl : ∀ item, within item item)
    (trans : ∀ low middle high, within low middle → within middle high → within low high)
    (of_isAbove : ∀ above below, isAbove above below = true → within below above)
    (covered : Covered within other items)
    (item : Item) :
    Covered within other (putTopmost isAbove item items) := by
  obtain ⟨above, member, isWithin⟩ := covered
  by_cases replaced : isAbove item above = true
  · obtain ⟨top, topMember, topAbove⟩ :=
      covered_putTopmost_self refl of_isAbove item items
    exact ⟨top, topMember, trans other above top isWithin
      (trans above item top (of_isAbove item above replaced) topAbove)⟩
  · refine ⟨above, ?_, isWithin⟩
    have stays : above ∈ items.filter fun each => !isAbove item each :=
      List.mem_filter.mpr ⟨member, by simpa using replaced⟩
    unfold Lib.putTopmost
    dsimp only
    split
    · exact stays
    · exact List.mem_append_left _ stays

end Lib
end OneDesk
