import Mathlib.Computability.Language

/-!
# Regular expressions

Expressions over classes of items, matched against whole texts by derivatives.
`isMatch_iff` says that an expression matches the texts of its language; the
other lemmas describe the languages of repeated classes, so that a property of
a pattern is one of the texts it is made of.
-/

namespace OneDesk
namespace Lib

open Computability

/-- A regular expression, whose letters are classes of items. -/
inductive Regex (α : Type)
  | nothing
  | empty
  | one (accepts : α → Bool)
  | seq (first second : Regex α)
  | either (left right : Regex α)
  | many (body : Regex α)

namespace Regex

variable {α : Type}

/-- The texts an expression stands for. -/
def language : Regex α → Language α
  | nothing => 0
  | empty => 1
  | one accepts => {text | ∃ item, accepts item = true ∧ text = [item]}
  | seq first second => first.language * second.language
  | either left right => left.language + right.language
  | many body => body.language∗

/-- Whether the empty text matches. -/
def nullable : Regex α → Bool
  | nothing => false
  | empty => true
  | one _ => false
  | seq first second => first.nullable && second.nullable
  | either left right => left.nullable || right.nullable
  | many _ => true

/-- What remains to be matched after an item. -/
def derivative (item : α) : Regex α → Regex α
  | nothing => nothing
  | empty => nothing
  | one accepts => if accepts item then empty else nothing
  | seq first second =>
      let rest := seq (first.derivative item) second
      if first.nullable then either rest (second.derivative item) else rest
  | either left right => either (left.derivative item) (right.derivative item)
  | many body => seq (body.derivative item) (many body)

/-- Whether a whole text matches. -/
def isMatch (regex : Regex α) (text : List α) : Bool :=
  (text.foldl (fun rest item => rest.derivative item) regex).nullable

theorem nullable_iff (regex : Regex α) :
    regex.nullable = true ↔ [] ∈ regex.language := by
  induction regex with
  | nothing => simp [nullable, language, Language.notMem_zero]
  | empty => simp [nullable, language]
  | one accepts =>
      constructor
      · intro never
        cases never
      · rintro ⟨_, _, same⟩
        cases same
  | seq first second firstIff secondIff =>
      rw [nullable, Bool.and_eq_true, firstIff, secondIff, language, Language.mem_mul]
      constructor
      · intro both
        exact ⟨[], both.1, [], both.2, rfl⟩
      · rintro ⟨left, leftIn, right, rightIn, joined⟩
        obtain ⟨rfl, rfl⟩ := List.append_eq_nil_iff.mp joined
        exact ⟨leftIn, rightIn⟩
  | either left right leftIff rightIff =>
      rw [nullable, Bool.or_eq_true, leftIff, rightIff]
      rfl
  | many body _ =>
      exact ⟨fun _ => Language.nil_mem_kstar _, fun _ => rfl⟩

/-- A text of a product that begins with an item has it in its first part, or
that part is empty. -/
theorem cons_mem_mul_iff
    {first second : Language α}
    {item : α}
    {text : List α} :
    item :: text ∈ first * second ↔
      (∃ left, item :: left ∈ first ∧ ∃ right ∈ second, left ++ right = text) ∨
        [] ∈ first ∧ item :: text ∈ second := by
  rw [Language.mem_mul]
  constructor
  · rintro ⟨left, leftIn, right, rightIn, joined⟩
    cases left with
    | nil => exact .inr ⟨leftIn, joined ▸ rightIn⟩
    | cons head left =>
        obtain ⟨rfl, rfl⟩ := List.cons_eq_cons.mp joined
        exact .inl ⟨left, leftIn, right, rightIn, rfl⟩
  · rintro (⟨left, leftIn, right, rightIn, rfl⟩ | ⟨empty, whole⟩)
    · exact ⟨item :: left, leftIn, right, rightIn, rfl⟩
    · exact ⟨[], empty, item :: text, whole, rfl⟩

/-- A repetition that begins with an item begins with a repeated text. -/
theorem cons_mem_kstar_iff
    {body : Language α}
    {item : α}
    {text : List α} :
    item :: text ∈ body∗ ↔
      ∃ left, item :: left ∈ body ∧ ∃ right ∈ body∗, left ++ right = text := by
  constructor
  · intro repeated
    obtain ⟨pieces, joined, each⟩ := Language.mem_kstar_iff_exists_nonempty.mp repeated
    cases pieces with
    | nil => cases joined
    | cons piece pieces =>
        obtain ⟨pieceIn, given⟩ := each piece List.mem_cons_self
        cases piece with
        | nil => exact absurd rfl given
        | cons head left =>
            obtain ⟨rfl, rfl⟩ := List.cons_eq_cons.mp joined
            refine ⟨left, pieceIn, pieces.flatten, ?_, rfl⟩
            exact Language.join_mem_kstar fun other member =>
              (each other (List.mem_cons_of_mem _ member)).1
  · rintro ⟨left, leftIn, right, rightIn, rfl⟩
    rw [← Language.one_add_self_mul_kstar_eq_kstar]
    exact .inr (Language.append_mem_mul leftIn rightIn)

/-- The derivative has the texts that follow the item. -/
theorem mem_derivative_iff
    (regex : Regex α)
    (item : α)
    (text : List α) :
    text ∈ (regex.derivative item).language ↔ item :: text ∈ regex.language := by
  induction regex generalizing text with
  | nothing => simp [derivative, language, Language.notMem_zero]
  | empty => simp [derivative, language, Language.notMem_zero]
  | one accepts =>
      rw [derivative]
      split
      case isTrue accepted =>
        constructor
        · rintro rfl
          exact ⟨item, accepted, rfl⟩
        · rintro ⟨_, _, same⟩
          exact (List.cons_eq_cons.mp same).2
      case isFalse other =>
        constructor
        · exact fun none => absurd none (Language.notMem_zero text)
        · rintro ⟨_, accepted, same⟩
          obtain ⟨rfl, -⟩ := List.cons_eq_cons.mp same
          exact absurd accepted other
  | seq first second firstIff secondIff =>
      have inFirst :
          text ∈ (seq (first.derivative item) second).language ↔
            ∃ left, item :: left ∈ first.language ∧
              ∃ right ∈ second.language, left ++ right = text := by
        rw [language, Language.mem_mul]
        exact exists_congr fun left => and_congr_left' (firstIff left)
      rw [language, cons_mem_mul_iff, ← inFirst, ← nullable_iff, derivative]
      split
      case isTrue empty =>
        change text ∈ (seq _ _).language + (second.derivative item).language ↔ _
        rw [Language.mem_add, secondIff]
        simp [empty]
      case isFalse given => simp [given]
  | either left right leftIff rightIff =>
      rw [derivative, language, language, Language.mem_add, Language.mem_add,
        leftIff, rightIff]
  | many body bodyIff =>
      rw [derivative, language, language, Language.mem_mul, cons_mem_kstar_iff]
      exact exists_congr fun left => and_congr_left' (bodyIff left)

/-- An expression matches the texts of its language. -/
theorem isMatch_iff (regex : Regex α) (text : List α) :
    regex.isMatch text = true ↔ text ∈ regex.language := by
  induction text generalizing regex with
  | nil => exact nullable_iff regex
  | cons item text inductionHypothesis =>
      rw [← mem_derivative_iff, ← inductionHypothesis]
      rfl

/-! ## Repeated classes -/

/-- One or more: `r+` -/
def oneOrMore (body : Regex α) : Regex α :=
  seq body (many body)

/-- At most so many: `r{0,n}` -/
def upTo (body : Regex α) : Nat → Regex α
  | 0 => empty
  | count + 1 => either empty (seq body (upTo body count))

/-- From one to so many: `r{1,n}` -/
def oneTo (body : Regex α) (count : Nat) : Regex α :=
  seq body (upTo body (count - 1))

variable (accepts : α → Bool)

theorem mem_one_mul_iff
    {second : Language α}
    {text : List α} :
    text ∈ (one accepts).language * second ↔
      ∃ item rest, text = item :: rest ∧ accepts item = true ∧ rest ∈ second := by
  rw [Language.mem_mul]
  constructor
  · rintro ⟨_, ⟨item, accepted, rfl⟩, rest, restIn, rfl⟩
    exact ⟨item, rest, rfl, accepted, restIn⟩
  · rintro ⟨item, rest, rfl, accepted, restIn⟩
    exact ⟨[item], ⟨item, accepted, rfl⟩, rest, restIn, rfl⟩

/-- At most so many items of a class. -/
theorem mem_upTo_iff (count : Nat) (text : List α) :
    text ∈ (upTo (one accepts) count).language ↔
      text.length ≤ count ∧ ∀ item ∈ text, accepts item = true := by
  induction count generalizing text with
  | zero =>
      rw [upTo, language, Language.mem_one, Nat.le_zero, List.length_eq_zero_iff]
      refine ⟨fun empty => ⟨empty, ?_⟩, fun both => both.1⟩
      simp [empty]
  | succ count inductionHypothesis =>
      rw [upTo, language, Language.mem_add, language, Language.mem_one, language,
        mem_one_mul_iff]
      cases text with
      | nil => simp
      | cons item rest =>
          simp [inductionHypothesis, and_left_comm]

/-- From one to so many items of a class. -/
theorem mem_oneTo_iff
    {count : Nat}
    (positive : 0 < count)
    (text : List α) :
    text ∈ (oneTo (one accepts) count).language ↔
      text ≠ [] ∧ text.length ≤ count ∧ ∀ item ∈ text, accepts item = true := by
  rw [oneTo, language, mem_one_mul_iff]
  cases text with
  | nil => simp
  | cons item rest =>
      constructor
      · rintro ⟨_, _, same, accepted, restIn⟩
        obtain ⟨rfl, rfl⟩ := List.cons.inj same
        obtain ⟨short, others⟩ := (mem_upTo_iff accepts (count - 1) rest).mp restIn
        refine ⟨List.cons_ne_nil item rest, ?_, List.forall_mem_cons.mpr ⟨accepted, others⟩⟩
        rw [List.length_cons]
        omega
      · rintro ⟨-, short, each⟩
        obtain ⟨accepted, others⟩ := List.forall_mem_cons.mp each
        rw [List.length_cons] at short
        refine ⟨item, rest, rfl, accepted, ?_⟩
        exact (mem_upTo_iff accepts (count - 1) rest).mpr ⟨by omega, others⟩

/-- One or more items of a class. -/
theorem mem_oneOrMore_iff (text : List α) :
    text ∈ (oneOrMore (one accepts)).language ↔
      text ≠ [] ∧ ∀ item ∈ text, accepts item = true := by
  have each : ∀ text : List α, text ∈ (many (one accepts)).language ↔
      ∀ item ∈ text, accepts item = true := by
    intro text
    induction text with
    | nil =>
        refine ⟨fun _ => ?_, fun _ => Language.nil_mem_kstar _⟩
        simp
    | cons item rest inductionHypothesis =>
        rw [language, cons_mem_kstar_iff, List.forall_mem_cons, ← inductionHypothesis]
        constructor
        · rintro ⟨_, ⟨_, accepted, same⟩, _, restIn, rfl⟩
          obtain ⟨rfl, rfl⟩ := List.cons_eq_cons.mp same
          exact ⟨accepted, restIn⟩
        · rintro ⟨accepted, restIn⟩
          exact ⟨[], ⟨item, accepted, rfl⟩, rest, restIn, rfl⟩
  rw [oneOrMore, language, mem_one_mul_iff]
  cases text with
  | nil => simp
  | cons item rest => simp [each]

end Regex

end Lib
end OneDesk
