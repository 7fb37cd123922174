import Mathlib.Data.List.Nodup
import Mathlib.Tactic.TypeStar

/-!
# Lists of the most recent first

A list of entries that are told apart by a key.  A renewed entry leaves its place and comes back at
the front, so that every key still has one entry and the others keep their order.
-/

namespace OneDesk
namespace Lib

variable {Entry Key : Type*} [DecidableEq Key] (key : Entry → Key)

/-- Take the first entry that passes a test out of a list. -/
def takeOut (test : Entry → Bool) (entries : List Entry) : Option (Entry × List Entry) :=
  (entries.findIdx? test).bind fun place =>
    entries[place]?.map fun entry => (entry, entries.eraseIdx place)

/-- The first entry of a key. -/
def entryOf (entries : List Entry) (wanted : Key) : Option Entry :=
  entries.find? fun entry => key entry = wanted

/-- An entry comes to the front in place of the entry of its key. -/
def renew (entry : Entry) (entries : List Entry) : List Entry :=
  entry :: entries.eraseP fun other => key other = key entry

/-- No key has two entries. -/
def Distinct (entries : List Entry) : Prop :=
  (entries.map key).Nodup

theorem takeOut_eq
    (test : Entry → Bool)
    (entries : List Entry) :
    takeOut test entries =
      (entries.find? test).map fun entry => (entry, entries.eraseP test) := by
  unfold takeOut
  rw [List.find?_eq_bind_findIdx?_getElem?, List.eraseP_eq_eraseIdx]
  cases entries.findIdx? test <;> rfl

variable {key} {entries : List Entry}

/-- Only the key of the renewed entry is looked up in another way. -/
theorem entryOf_renew
    (entry : Entry)
    (entries : List Entry)
    (wanted : Key) :
    entryOf key (renew key entry entries) wanted =
      if key entry = wanted then some entry else entryOf key entries wanted := by
  unfold entryOf renew
  rw [List.find?_cons]
  by_cases same : key entry = wanted
  · simp [same]
  · simp only [same, decide_false, if_false]
    induction entries with
    | nil => rfl
    | cons first entries inductionHypothesis =>
        by_cases renewed : key first = key entry
        · have other : key first ≠ wanted := fun wants => same (renewed.symm.trans wants)
          rw [List.eraseP_cons_of_pos (by simpa using renewed), List.find?_cons]
          simp only [other, decide_false]
        · rw [List.eraseP_cons_of_neg (by simpa using renewed), List.find?_cons,
            List.find?_cons, inductionHypothesis]

theorem Distinct.renew
    (distinct : Distinct key entries)
    (entry : Entry) :
    Distinct key (renew key entry entries) := by
  unfold Distinct Lib.renew at *
  rw [List.map_cons, List.nodup_cons]
  refine ⟨?_, distinct.sublist (List.eraseP_sublist.map key)⟩
  intro member
  obtain ⟨other, otherMember, same⟩ := List.mem_map.mp member
  induction entries with
  | nil => cases otherMember
  | cons first entries inductionHypothesis =>
      rw [List.map_cons, List.nodup_cons] at distinct
      by_cases renewed : key first = key entry
      · rw [List.eraseP_cons_of_pos (by simpa using renewed)] at otherMember
        exact distinct.1 (List.mem_map.mpr ⟨other, otherMember, same.trans renewed.symm⟩)
      · rw [List.eraseP_cons_of_neg (by simpa using renewed)] at member otherMember
        rcases List.mem_cons.mp otherMember with rfl | later
        · exact renewed same
        · exact inductionHypothesis distinct.2
            (List.mem_map.mpr ⟨other, later, same⟩) later

/-- An entry is found by its key. -/
theorem Distinct.mem_iff
    (distinct : Distinct key entries)
    (entry : Entry) :
    entry ∈ entries ↔ entryOf key entries (key entry) = some entry := by
  constructor
  · intro member
    obtain ⟨found, isFound⟩ : ∃ found, entryOf key entries (key entry) = some found :=
      Option.isSome_iff_exists.mp (List.find?_isSome.mpr ⟨entry, member, by simp⟩)
    have same : key found = key entry := by simpa using List.find?_some isFound
    rw [isFound, List.inj_on_of_nodup_map distinct (List.mem_of_find?_eq_some isFound) member same]
  · exact List.mem_of_find?_eq_some

/-- A key that has an entry has one. -/
theorem Distinct.countP_eq_one
    (distinct : Distinct key entries)
    {wanted : Key}
    (present : (entryOf key entries wanted).isSome) :
    entries.countP (fun entry => key entry = wanted) = 1 := by
  obtain ⟨entry, member, same⟩ := List.find?_isSome.mp present
  have once := List.count_eq_one_of_mem distinct (List.mem_map_of_mem (f := key) member)
  rw [List.count, List.countP_map] at once
  rw [← once]
  refine List.countP_congr fun other _ => ?_
  have sameKey : key entry = wanted := by simpa using same
  simp [sameKey]

end Lib
end OneDesk
