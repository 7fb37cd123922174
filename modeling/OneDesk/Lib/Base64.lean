import Mathlib.Data.List.Basic

/-!
# Base64

The standard alphabet with padding: three bytes are four letters, and a last
group of one or two bytes is filled up with `=`.  Decoding accepts what was
encoded and nothing that is not made of groups of four letters.
-/

namespace OneDesk
namespace Lib
namespace Base64

/-- The letter for six bits. -/
def letter (value : Nat) : Char :=
  if value < 26 then Char.ofNat (65 + value)
  else if value < 52 then Char.ofNat (71 + value)
  else if value < 62 then Char.ofNat (value - 4)
  else if value = 62 then '+'
  else '/'

/-- The six bits of a letter. -/
def valueOf (char : Char) : Option Nat :=
  if 'A' ≤ char ∧ char ≤ 'Z' then some (char.toNat - 65)
  else if 'a' ≤ char ∧ char ≤ 'z' then some (char.toNat - 71)
  else if '0' ≤ char ∧ char ≤ '9' then some (char.toNat + 4)
  else if char = '+' then some 62
  else if char = '/' then some 63
  else none

/-- The text of some bytes. -/
def encode : List UInt8 → List Char
  | [] => []
  | [a] => [letter (a.toNat / 4), letter (a.toNat % 4 * 16), '=', '=']
  | [a, b] =>
      [letter (a.toNat / 4), letter (a.toNat % 4 * 16 + b.toNat / 16),
        letter (b.toNat % 16 * 4), '=']
  | a :: b :: c :: rest =>
      letter (a.toNat / 4) :: letter (a.toNat % 4 * 16 + b.toNat / 16) ::
        letter (b.toNat % 16 * 4 + c.toNat / 64) :: letter (c.toNat % 64) ::
        encode rest

/-- The bytes of four letters, the last one or two of which may be padding. -/
def decodeGroup (first second third fourth : Char) (last : Bool) :
    Option (List UInt8) := do
  let a ← valueOf first
  let b ← valueOf second
  let high := UInt8.ofNat (a * 4 + b / 16)
  if third = '=' ∧ fourth = '=' ∧ last then
    if b % 16 = 0 then some [high] else none
  else
    let c ← valueOf third
    let middle := UInt8.ofNat (b % 16 * 16 + c / 4)
    if fourth = '=' ∧ last then
      if c % 4 = 0 then some [high, middle] else none
    else
      let d ← valueOf fourth
      some [high, middle, UInt8.ofNat (c % 4 * 64 + d)]

/-- The bytes of a text. -/
def decode : List Char → Option (List UInt8)
  | [] => some []
  | first :: second :: third :: fourth :: rest => do
      let group ← decodeGroup first second third fourth rest.isEmpty
      let others ← decode rest
      some (group ++ others)
  | _ => none

theorem valueOf_letter {value : Nat} (small : value < 64) :
    valueOf (letter value) = some value := by
  have all : ∀ value : Fin 64, valueOf (letter value) = some value.val := by decide
  exact all ⟨value, small⟩

theorem eq_of_letter_eq_slash
    {value : Nat}
    (small : value < 64)
    (isSlash : letter value = '/') :
    value = 63 := by
  have all : ∀ value : Fin 64, letter value = '/' → value.val = 63 := by decide
  exact all ⟨value, small⟩ isSlash

theorem letter_ne_padding {value : Nat} (small : value < 64) : letter value ≠ '=' := by
  have all : ∀ value : Fin 64, letter value ≠ '=' := by decide
  exact all ⟨value, small⟩

/-- A byte from its high bits and its low bits. -/
theorem ofNat_joined
    {byte : UInt8}
    {number : Nat}
    (joined : number = byte.toNat) :
    UInt8.ofNat number = byte := by
  rw [joined, UInt8.ofNat_toNat]

/-- A whole group. -/
theorem decodeGroup_three (a b c : UInt8) (last : Bool) :
    decodeGroup (letter (a.toNat / 4)) (letter (a.toNat % 4 * 16 + b.toNat / 16))
        (letter (b.toNat % 16 * 4 + c.toNat / 64)) (letter (c.toNat % 64)) last =
      some [a, b, c] := by
  have aBound := a.toNat_lt
  have bBound := b.toNat_lt
  have cBound := c.toNat_lt
  have fourth : letter (c.toNat % 64) ≠ '=' := letter_ne_padding (by omega)
  have high : UInt8.ofNat (a.toNat / 4 * 4 +
      (a.toNat % 4 * 16 + b.toNat / 16) / 16) = a := ofNat_joined (by omega)
  have middle : UInt8.ofNat ((a.toNat % 4 * 16 + b.toNat / 16) % 16 * 16 +
      (b.toNat % 16 * 4 + c.toNat / 64) / 4) = b := ofNat_joined (by omega)
  have low : UInt8.ofNat ((b.toNat % 16 * 4 + c.toNat / 64) % 4 * 64 +
      c.toNat % 64) = c := ofNat_joined (by omega)
  simp only [decodeGroup, valueOf_letter (show a.toNat / 4 < 64 by omega),
    valueOf_letter (show a.toNat % 4 * 16 + b.toNat / 16 < 64 by omega),
    valueOf_letter (show b.toNat % 16 * 4 + c.toNat / 64 < 64 by omega),
    valueOf_letter (show c.toNat % 64 < 64 by omega), fourth, Option.bind_eq_bind,
    Option.bind_some, false_and, and_false, if_false, high, middle, low]

/-- A group with one letter of padding. -/
theorem decodeGroup_two (a b : UInt8) :
    decodeGroup (letter (a.toNat / 4)) (letter (a.toNat % 4 * 16 + b.toNat / 16))
        (letter (b.toNat % 16 * 4)) '=' true =
      some [a, b] := by
  have aBound := a.toNat_lt
  have bBound := b.toNat_lt
  have third : letter (b.toNat % 16 * 4) ≠ '=' := letter_ne_padding (by omega)
  have high : UInt8.ofNat (a.toNat / 4 * 4 +
      (a.toNat % 4 * 16 + b.toNat / 16) / 16) = a := ofNat_joined (by omega)
  have middle : UInt8.ofNat ((a.toNat % 4 * 16 + b.toNat / 16) % 16 * 16 +
      b.toNat % 16 * 4 / 4) = b := ofNat_joined (by omega)
  have rest : b.toNat % 16 * 4 % 4 = 0 := by omega
  simp only [decodeGroup, valueOf_letter (show a.toNat / 4 < 64 by omega),
    valueOf_letter (show a.toNat % 4 * 16 + b.toNat / 16 < 64 by omega),
    valueOf_letter (show b.toNat % 16 * 4 < 64 by omega), third, Option.bind_eq_bind,
    Option.bind_some, false_and, and_self, if_false, if_true, high, middle, rest]

/-- A group with two letters of padding. -/
theorem decodeGroup_one (a : UInt8) :
    decodeGroup (letter (a.toNat / 4)) (letter (a.toNat % 4 * 16)) '=' '=' true =
      some [a] := by
  have aBound := a.toNat_lt
  have high : UInt8.ofNat (a.toNat / 4 * 4 + a.toNat % 4 * 16 / 16) = a :=
    ofNat_joined (by omega)
  have rest : a.toNat % 4 * 16 % 16 = 0 := by omega
  simp only [decodeGroup, valueOf_letter (show a.toNat / 4 < 64 by omega),
    valueOf_letter (show a.toNat % 4 * 16 < 64 by omega), Option.bind_eq_bind,
    Option.bind_some, and_self, if_true, high, rest]

theorem decode_encode (data : List UInt8) : decode (encode data) = some data := by
  induction data using encode.induct with
  | case1 => rfl
  | case2 a =>
      rw [encode, decode, List.isEmpty_nil, decodeGroup_one]
      rfl
  | case3 a b =>
      rw [encode, decode, List.isEmpty_nil, decodeGroup_two]
      rfl
  | case4 a b c rest inductionHypothesis =>
      rw [encode, decode, decodeGroup_three, inductionHypothesis]
      rfl

theorem length_of_decodeGroup
    {first second third fourth : Char}
    {last : Bool}
    {group : List UInt8}
    (decoded : decodeGroup first second third fourth last = some group) :
    group.length ≤ 3 := by
  obtain ⟨a, -, decoded⟩ := Option.bind_eq_some_iff.mp decoded
  obtain ⟨b, -, decoded⟩ := Option.bind_eq_some_iff.mp decoded
  by_cases two : third = '=' ∧ fourth = '=' ∧ last
  · simp only [if_pos two, Option.ite_none_right_eq_some, Option.some.injEq] at decoded
    simp [← decoded.2]
  · simp only [if_neg two] at decoded
    obtain ⟨c, -, decoded⟩ := Option.bind_eq_some_iff.mp decoded
    by_cases one : fourth = '=' ∧ last
    · simp only [if_pos one, Option.ite_none_right_eq_some, Option.some.injEq] at decoded
      simp [← decoded.2]
    · simp only [if_neg one] at decoded
      obtain ⟨d, -, decoded⟩ := Option.bind_eq_some_iff.mp decoded
      cases decoded
      simp

/-- Text is decoded by groups of four letters, each for at most three bytes. -/
theorem length_of_decode
    {text : List Char}
    {data : List UInt8}
    (decoded : decode text = some data) :
    4 ∣ text.length ∧ data.length ≤ text.length := by
  induction text using decode.induct generalizing data with
  | case1 =>
      cases decoded
      exact ⟨⟨0, rfl⟩, Nat.le_refl 0⟩
  | case2 first second third fourth rest inductionHypothesis =>
      rw [decode] at decoded
      obtain ⟨group, isGroup, decoded⟩ := Option.bind_eq_some_iff.mp decoded
      obtain ⟨others, areOthers, decoded⟩ := Option.bind_eq_some_iff.mp decoded
      cases decoded
      have short := length_of_decodeGroup isGroup
      obtain ⟨groups, bounded⟩ := inductionHypothesis areOthers
      simp only [List.length_cons, List.length_append]
      omega
  | case3 text notNil notGroup =>
      rw [decode] at decoded
      · cases decoded
      · exact notNil
      · exact notGroup

/-- No letter is a dot. -/
theorem dot_not_mem (data : List UInt8) : '.' ∉ encode data := by
  have noDot : ∀ {value : Nat}, value < 64 → letter value ≠ '.' := by
    intro value small
    have all : ∀ value : Fin 64, letter value ≠ '.' := by decide
    exact all ⟨value, small⟩
  induction data using encode.induct with
  | case1 => simp [encode]
  | case2 a =>
      have aBound := a.toNat_lt
      simp only [encode, List.mem_cons, List.not_mem_nil, or_false, not_or]
      exact ⟨(noDot (by omega)).symm, (noDot (by omega)).symm, by decide, by decide⟩
  | case3 a b =>
      have aBound := a.toNat_lt
      have bBound := b.toNat_lt
      simp only [encode, List.mem_cons, List.not_mem_nil, or_false, not_or]
      exact ⟨(noDot (by omega)).symm, (noDot (by omega)).symm, (noDot (by omega)).symm,
        by decide⟩
  | case4 a b c rest inductionHypothesis =>
      have aBound := a.toNat_lt
      have bBound := b.toNat_lt
      have cBound := c.toNat_lt
      simp only [encode, List.mem_cons, not_or]
      exact ⟨(noDot (by omega)).symm, (noDot (by omega)).symm, (noDot (by omega)).symm,
        (noDot (by omega)).symm, inductionHypothesis⟩

/-- A group with padding does not end in a slash. -/
theorem padded_ne_append_slashes
    (first second third : Char)
    (before : List Char)
    {count : Nat}
    (positive : 0 < count) :
    [first, second, third, '='] ≠ before ++ List.replicate count '/' := by
  intro same
  have last := congrArg List.getLast? same
  rw [List.getLast?_append, List.getLast?_replicate, if_neg (by omega)] at last
  simp at last

/-- Two slashes stand for the byte 255 and the beginning of another one. -/
theorem eq_of_letters_eq_slash
    {a b : UInt8}
    (high : letter (a.toNat / 4) = '/')
    (low : letter (a.toNat % 4 * 16 + b.toNat / 16) = '/') :
    a = 255 := by
  have aBound := a.toNat_lt
  have bBound := b.toNat_lt
  have highest := eq_of_letter_eq_slash (by omega : a.toNat / 4 < 64) high
  have lowest := eq_of_letter_eq_slash (by omega : a.toNat % 4 * 16 + b.toNat / 16 < 64) low
  have whole : a.toNat = 255 := by omega
  exact UInt8.toNat_inj.mp whole

/-- Only the byte 255 begins a group of slashes. -/
theorem mem_of_encode_eq_append_slashes
    {data : List UInt8}
    {start : List Char}
    {count : Nat}
    (encoded : encode data = start ++ List.replicate count '/')
    (groups : 4 ∣ start.length)
    (positive : 0 < count) :
    255 ∈ data := by
  induction data using encode.induct generalizing start with
  | case1 =>
      have length := congrArg List.length encoded
      rw [List.length_append, List.length_replicate, encode, List.length_nil] at length
      omega
  | case2 a => exact (padded_ne_append_slashes _ _ _ start positive encoded).elim
  | case3 a b => exact (padded_ne_append_slashes _ _ _ start positive encoded).elim
  | case4 a b c rest inductionHypothesis =>
      rw [encode] at encoded
      cases start with
      | nil =>
          have slashes : ∀ char, char ∈ letter (a.toNat / 4) ::
              letter (a.toNat % 4 * 16 + b.toNat / 16) ::
              letter (b.toNat % 16 * 4 + c.toNat / 64) :: letter (c.toNat % 64) ::
              encode rest → char = '/' := by
            intro char member
            rw [encoded] at member
            exact List.eq_of_mem_replicate member
          have low : letter (a.toNat % 4 * 16 + b.toNat / 16) = '/' := slashes _ (by simp)
          have full : a = 255 := eq_of_letters_eq_slash (slashes _ (by simp)) low
          rw [full]
          exact List.mem_cons_self
      | cons first start =>
          obtain ⟨second, third, fourth, start, rfl⟩ : ∃ second third fourth others,
              start = second :: third :: fourth :: others := by
            rcases start with _ | ⟨second, _ | ⟨third, _ | ⟨fourth, others⟩⟩⟩
            all_goals simp only [List.length_cons, List.length_nil] at groups
            · omega
            · omega
            · omega
            · exact ⟨second, third, fourth, others, rfl⟩
          simp only [List.cons_append, List.cons.injEq] at encoded
          have member := inductionHypothesis encoded.2.2.2.2 (by
            simp only [List.length_cons] at groups
            omega)
          simp [member]

end Base64
end Lib
end OneDesk
