import Mathlib.Data.List.Induction
import Mathlib.Data.Finset.Basic

/-!
# Announcements

A receiver gets items in order.  Some announce a format, others are in one, and a receiver can
read an item only in the format that was announced to it last.  A sender gives an item to all
receivers of a group at once.
-/

namespace OneDesk
namespace Lib

variable {Item Format : Type*}

/-- The format that was announced last. -/
def announced (announces : Item → Option Format) (items : List Item) : Option Format :=
  items.reverse.findSome? announces

/-- Each item is in the format that was announced last before it. -/
def Readable (announces written : Item → Option Format) (items : List Item) : Prop :=
  ∀ before item after, items = before ++ item :: after →
    ∀ format, written item = some format → announced announces before = some format

section

variable {announces written : Item → Option Format}

@[simp] theorem announced_nil : announced announces ([] : List Item) = none := rfl

@[simp] theorem announced_concat
    (items : List Item)
    (item : Item) :
    announced announces (items ++ [item]) = (announces item).or (announced announces items) := by
  cases found : announces item with
  | none => simp [announced, found]
  | some format => simp [announced, found]

@[simp] theorem readable_nil : Readable announces written ([] : List Item) := by
  intro before item after split
  exact absurd split.symm (List.append_ne_nil_of_right_ne_nil before (List.cons_ne_nil item after))

/-- One more item is in the format that was announced last. -/
theorem readable_concat
    (items : List Item)
    (item : Item) :
    Readable announces written (items ++ [item]) ↔
      Readable announces written items ∧
        ∀ format, written item = some format → announced announces items = some format := by
  constructor
  · intro readable
    refine ⟨fun before other after split => ?_, readable items item [] rfl⟩
    exact readable before other (after ++ [item]) (by simp [split])
  · rintro ⟨readable, last⟩ before other after split
    rcases List.eq_nil_or_concat after with rfl | ⟨others, final, rfl⟩
    · obtain ⟨rfl, same⟩ := List.append_inj' split rfl
      cases same
      exact last
    · rw [List.concat_eq_append, ← List.cons_append, ← List.append_assoc] at split
      obtain ⟨rfl, _⟩ := List.append_inj' split rfl
      exact readable before other others rfl

end

variable {Receiver : Type*} [DecidableEq Receiver]

/-- Give an item to all receivers of a group. -/
def deliver
    (group : Finset Receiver)
    (item : Item)
    (inbox : Receiver → List Item) : Receiver → List Item :=
  fun receiver => if receiver ∈ group then inbox receiver ++ [item] else inbox receiver

section

variable {group : Finset Receiver} {item : Item} {inbox : Receiver → List Item}
variable {announces written : Item → Option Format}

/-- An announcement reaches the group, and nobody else hears of it. -/
theorem announced_deliver (receiver : Receiver) :
    announced announces (deliver group item inbox receiver) =
      if receiver ∈ group then (announces item).or (announced announces (inbox receiver))
      else announced announces (inbox receiver) := by
  unfold deliver
  split
  case isTrue => rw [announced_concat]
  case isFalse => rfl

/-- All inboxes stay readable if the item is in the format that was announced to the group. -/
theorem readable_deliver_iff :
    (∀ receiver, Readable announces written (deliver group item inbox receiver)) ↔
      (∀ receiver, Readable announces written (inbox receiver)) ∧
        ∀ receiver ∈ group, ∀ format, written item = some format →
          announced announces (inbox receiver) = some format := by
  constructor
  · intro readable
    constructor
    · intro receiver
      have after := readable receiver
      unfold deliver at after
      split at after
      case isTrue => exact ((readable_concat _ item).mp after).1
      case isFalse => exact after
    · intro receiver member
      have after := readable receiver
      rw [deliver, if_pos member] at after
      exact ((readable_concat _ item).mp after).2
  · rintro ⟨readable, inFormat⟩ receiver
    unfold deliver
    split
    case isTrue member =>
      exact (readable_concat _ item).mpr ⟨readable receiver, inFormat receiver member⟩
    case isFalse => exact readable receiver

end

end Lib
end OneDesk
