import Mathlib.Data.List.Basic

/-!
# Snapshots of a changing value

One party holds a value that changes now and then and hands out descriptions of
it; others keep and pass on what they got.  A description carries the number of
changes made before it.  As long as that number is the current one, it
describes the current value, however long it was on its way.
-/

namespace OneDesk
namespace Lib

variable {Item Value : Type*}

/-- An item with the number of changes made before it was handed out. -/
structure Snapshot (Item : Type*) where
  item : Item
  version : Nat

/-- No snapshot is from the future, and those of the current version describe the
current value. -/
def Describes (describe : Item → Value) (version : Nat) (value : Value)
    (snapshots : List (Snapshot Item)) : Prop :=
  ∀ snapshot ∈ snapshots, snapshot.version ≤ version ∧
    (snapshot.version = version → describe snapshot.item = value)

namespace Describes

variable {describe : Item → Value} {version : Nat} {value : Value}
  {snapshots : List (Snapshot Item)}

theorem nil : Describes describe version value ([] : List (Snapshot Item)) :=
  fun _ none => absurd none List.not_mem_nil

/-- Snapshots may be lost, copied and moved. -/
theorem subset
    {others : List (Snapshot Item)}
    (holds : Describes describe version value snapshots)
    (included : others ⊆ snapshots) :
    Describes describe version value others :=
  fun snapshot member => holds snapshot (included member)

/-- The value changes. -/
theorem change
    (holds : Describes describe version value snapshots)
    (changed : Value) :
    Describes describe (version + 1) changed snapshots := by
  intro snapshot member
  have early := (holds snapshot member).1
  refine ⟨by omega, fun same => ?_⟩
  omega

/-- New descriptions of the current value are handed out. -/
theorem append
    {items : List Item}
    (holds : Describes describe version value snapshots)
    (fresh : ∀ item ∈ items, describe item = value) :
    Describes describe version value
      (snapshots ++ items.map fun item => ⟨item, version⟩) := by
  intro snapshot member
  rcases List.mem_append.mp member with earlier | new
  · exact holds snapshot earlier
  · obtain ⟨item, listed, rfl⟩ := List.mem_map.mp new
    exact ⟨Nat.le_refl version, fun _ => fresh item listed⟩

end Describes

end Lib
end OneDesk
