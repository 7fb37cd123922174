import Mathlib.Data.List.Basic
import Mathlib.Data.List.Induction
import Mathlib.Data.List.Nodup
import Mathlib.Order.MinMax

/-!
# The most frequent element of a list

Elements are counted in the order in which they first occur, and the first one with
the largest count is chosen.  What is chosen is described by the list alone: no
element is more frequent, and those that occur earlier are less frequent.
-/

namespace OneDesk
namespace Lib

variable {α : Type*} [DecidableEq α]

/-- Count one more occurrence. -/
def bump (element : α) : List (α × Nat) → List (α × Nat)
  | [] => [(element, 1)]
  | (other, count) :: counts =>
      if other = element then (other, count + 1) :: counts
      else (other, count) :: bump element counts

/-- The elements of a list with their counts, in the order of first occurrence. -/
def tally (elements : List α) : List (α × Nat) :=
  elements.foldl (fun counts element => bump element counts) []

/-- The largest count of a tally. -/
def maxCount (elements : List α) : Nat :=
  ((tally elements).map Prod.snd).foldr max 0

/-- The first element with the largest count. -/
def mostFrequent (elements : List α) : Option α :=
  ((tally elements).find? fun counted => counted.2 == maxCount elements).map Prod.fst

/-- No element is more frequent, and those that occur earlier are less frequent. -/
def Leads (elements : List α) (leader : α) : Prop :=
  ∃ before after, elements = before ++ leader :: after ∧
    (∀ other, elements.count other ≤ elements.count leader) ∧
    ∀ other ∈ before, elements.count other < elements.count leader

theorem bump_of_mem
    {element : α}
    {elements : List α}
    (count : α → Nat)
    (nodup : elements.Nodup)
    (member : element ∈ elements) :
    bump element (elements.map fun other => (other, count other)) =
      elements.map fun other =>
        (other, count other + if other = element then 1 else 0) := by
  induction elements with
  | nil => cases member
  | cons head elements inductionHypothesis =>
      rw [List.nodup_cons] at nodup
      by_cases same : head = element
      · subst same
        have rest : elements.map (fun other => (other, count other)) =
            elements.map fun other =>
              (other, count other + if other = head then 1 else 0) := by
          apply List.map_congr_left
          intro other occurs
          have different : other ≠ head := fun equal => nodup.1 (equal ▸ occurs)
          simp [different]
        simp only [List.map_cons, bump, if_true]
        rw [rest]
      · have occurs : element ∈ elements := by
          rcases List.mem_cons.mp member with equal | occurs
          · exact absurd equal.symm same
          · exact occurs
        simp only [List.map_cons, bump, same, if_false, Nat.add_zero,
          inductionHypothesis nodup.2 occurs]

theorem bump_of_not_mem
    {element : α}
    {elements : List α}
    (count : α → Nat)
    (absent : element ∉ elements) :
    bump element (elements.map fun other => (other, count other)) =
      (elements.map fun other => (other, count other)) ++ [(element, 1)] := by
  induction elements with
  | nil => rfl
  | cons head elements inductionHypothesis =>
      rw [List.mem_cons, not_or] at absent
      simp only [List.map_cons, bump, Ne.symm absent.1, if_false,
        inductionHypothesis absent.2, List.cons_append]

theorem eraseDups_concat (elements : List α) (element : α) :
    (elements ++ [element]).eraseDups =
      if element ∈ elements then elements.eraseDups
      else elements.eraseDups ++ [element] := by
  rw [List.eraseDups_append, List.cons_removeAll]
  by_cases member : element ∈ elements
  · simp [member, List.removeAll]
  · simp [member, List.removeAll, List.eraseDups_cons]

theorem nodup_eraseDups (elements : List α) : elements.eraseDups.Nodup := by
  induction elements using List.reverseRecOn with
  | nil => exact List.nodup_nil
  | append_singleton elements element inductionHypothesis =>
      rw [eraseDups_concat]
      split
      · exact inductionHypothesis
      · next absent =>
          rw [List.nodup_append]
          refine ⟨inductionHypothesis, List.nodup_singleton element, ?_⟩
          intro other occurs last isLast equal
          rw [List.mem_singleton.mp isLast] at equal
          exact absent (List.mem_eraseDups.mp (equal ▸ occurs))

/-- A tally lists every element once, with its count. -/
theorem tally_eq (elements : List α) :
    tally elements = elements.eraseDups.map fun element => (element, elements.count element) := by
  induction elements using List.reverseRecOn with
  | nil => rfl
  | append_singleton elements element inductionHypothesis =>
      have one : tally (elements ++ [element]) = bump element (tally elements) := by
        simp [tally]
      rw [one, inductionHypothesis, eraseDups_concat]
      split
      · next member =>
          rw [bump_of_mem _ (nodup_eraseDups elements) (List.mem_eraseDups.mpr member)]
          apply List.map_congr_left
          intro other _
          by_cases same : other = element
          · simp [same]
          · simp [same, Ne.symm same]
      · next absent =>
          rw [bump_of_not_mem _ (fun member => absent (List.mem_eraseDups.mp member)),
            List.map_append]
          congr 1
          · apply List.map_congr_left
            intro other occurs
            have different : element ≠ other := by
              intro equal
              exact absent (equal ▸ List.mem_eraseDups.mp occurs)
            simp [different]
          · simp [List.count_eq_zero.mpr absent]

theorem le_foldr_max
    {counts : List Nat}
    {count : Nat}
    (member : count ∈ counts) :
    count ≤ counts.foldr max 0 := by
  induction counts with
  | nil => cases member
  | cons head counts inductionHypothesis =>
      rcases List.mem_cons.mp member with rfl | occurs
      · exact le_max_left _ _
      · exact (inductionHypothesis occurs).trans (le_max_right _ _)

theorem foldr_max_mem
    {counts : List Nat}
    (nonempty : counts ≠ []) :
    counts.foldr max 0 ∈ counts := by
  induction counts with
  | nil => exact absurd rfl nonempty
  | cons head counts inductionHypothesis =>
      by_cases last : counts = []
      · simp [last]
      · rw [List.foldr_cons]
        rcases max_choice head (counts.foldr max 0) with chosen | chosen
        · rw [chosen]
          exact List.mem_cons_self
        · rw [chosen]
          exact List.mem_cons_of_mem head (inductionHypothesis last)

/-- Two elements that lead are the same. -/
theorem Leads.unique
    {elements : List α}
    {leader other : α}
    (leads : Leads elements leader)
    (otherLeads : Leads elements other) :
    leader = other := by
  obtain ⟨before, after, split, most, earlier⟩ := leads
  obtain ⟨otherBefore, otherAfter, otherSplit, otherMost, otherEarlier⟩ := otherLeads
  by_contra different
  have notBefore : other ∉ before := by
    intro occurs
    exact absurd (earlier other occurs) (not_lt.mpr (otherMost leader))
  have notOtherBefore : leader ∉ otherBefore := by
    intro occurs
    exact absurd (otherEarlier leader occurs) (not_lt.mpr (most other))
  have same := split.symm.trans otherSplit
  rcases List.append_eq_append_iff.mp same with ⟨between, rfl, rest⟩ | ⟨between, rfl, rest⟩
  · cases between with
    | nil => exact different (List.cons.inj rest).1
    | cons head between =>
        obtain ⟨rfl, _⟩ := List.cons.inj rest
        exact notOtherBefore (by simp)
  · cases between with
    | nil => exact different (List.cons.inj rest).1.symm
    | cons head between =>
        obtain ⟨rfl, _⟩ := List.cons.inj rest
        exact notBefore (by simp)

theorem count_le_maxCount (elements : List α) (element : α) :
    elements.count element ≤ maxCount elements := by
  by_cases member : element ∈ elements
  · apply le_foldr_max
    rw [tally_eq, List.map_map]
    exact List.mem_map.mpr ⟨element, List.mem_eraseDups.mpr member, rfl⟩
  · rw [List.count_eq_zero.mpr member]
    exact Nat.zero_le _

theorem mostFrequent_leads
    {elements : List α}
    {leader : α}
    (found : mostFrequent elements = some leader) :
    Leads elements leader := by
  rw [mostFrequent, Option.map_eq_some_iff] at found
  obtain ⟨⟨counted, count⟩, first, rfl⟩ := found
  rw [List.find?_eq_some_iff_append] at first
  obtain ⟨isMax, earlier, later, split, notMax⟩ := first
  rw [tally_eq, List.map_eq_append_iff] at split
  obtain ⟨firsts, rest, split, rfl, isRest⟩ := split
  rw [List.map_eq_cons_iff] at isRest
  obtain ⟨leader, lasts, rfl, isLeader, rfl⟩ := isRest
  obtain ⟨rfl, rfl⟩ := Prod.mk.inj isLeader
  have count_eq : elements.count leader = maxCount elements := by
    simpa using isMax
  have member : leader ∈ elements := by
    rw [← List.mem_eraseDups, split]
    simp
  obtain ⟨before, after, parts, absent⟩ := List.eq_append_cons_of_mem member
  refine ⟨before, after, parts, ?_, ?_⟩
  · intro other
    rw [count_eq]
    exact count_le_maxCount elements other
  · -- What occurs before the leader is counted before it.
    have sameFirsts : before.eraseDups = firsts := by
      have dups := nodup_eraseDups elements
      rw [split, List.nodup_append, List.nodup_cons] at dups
      have notFirst : leader ∉ firsts := by
        intro occurs
        exact dups.2.2 leader occurs leader List.mem_cons_self rfl
      rw [parts, List.eraseDups_append, List.cons_removeAll] at split
      simp only [List.contains_eq_mem, absent, decide_false, if_true,
        List.eraseDups_cons] at split
      exact ((List.append_cons_inj_of_notMem notFirst dups.2.1.1).mp split.symm).1.symm
    intro other occurs
    have counted : other ∈ firsts := by
      rw [← sameFirsts]
      exact List.mem_eraseDups.mpr occurs
    have different := notMax (other, elements.count other)
      (List.mem_map.mpr ⟨other, counted, rfl⟩)
    have bound := count_le_maxCount elements other
    rw [count_eq]
    have notEqual : elements.count other ≠ maxCount elements := by simpa using different
    omega

theorem mostFrequent_eq_none_iff {elements : List α} :
    mostFrequent elements = none ↔ elements = [] := by
  constructor
  · intro none
    by_contra nonempty
    rw [mostFrequent, Option.map_eq_none_iff, List.find?_eq_none] at none
    have counted : (tally elements).map Prod.snd ≠ [] := by
      cases elements with
      | nil => exact absurd rfl nonempty
      | cons head elements => simp [tally_eq, List.eraseDups_cons]
    obtain ⟨entry, member, isMax⟩ := List.mem_map.mp (foldr_max_mem counted)
    exact none entry member (by simp [maxCount, isMax])
  · rintro rfl
    rfl

/-- The element that is chosen is the one that leads. -/
theorem mostFrequent_eq_some_iff
    {elements : List α}
    {leader : α} :
    mostFrequent elements = some leader ↔ Leads elements leader := by
  constructor
  · exact mostFrequent_leads
  · intro leads
    rcases found : mostFrequent elements with _ | other
    · rw [mostFrequent_eq_none_iff] at found
      obtain ⟨before, after, split, _⟩ := leads
      simp [found] at split
    · rw [(mostFrequent_leads found).unique leads]

/-- The value that leads among some entries of a list is that of the entry before
which every counted value is less frequent. -/
theorem leads_map_filter_iff
    {β : Type*}
    {entries : List β}
    {counted : β → Bool}
    {value : β → α}
    {leader : α} :
    Leads ((entries.filter counted).map value) leader ↔
      ∃ before entry after, entries = before ++ entry :: after ∧
        counted entry = true ∧ value entry = leader ∧
        (∀ other, ((entries.filter counted).map value).count other ≤
          ((entries.filter counted).map value).count leader) ∧
        ∀ earlier ∈ before, counted earlier = true →
          ((entries.filter counted).map value).count (value earlier) <
            ((entries.filter counted).map value).count leader := by
  constructor
  · rintro ⟨before, after, split, most, earlier⟩
    obtain ⟨first, rest, filtered, rfl, isRest⟩ := List.map_eq_append_iff.mp split
    obtain ⟨entry, last, rfl, isLeader, rfl⟩ := List.map_eq_cons_iff.mp isRest
    obtain ⟨start, tail, rfl, rfl, isTail⟩ := List.filter_eq_append_iff.mp filtered
    obtain ⟨skipped, final, rfl, uncounted, counts, rfl⟩ :=
      List.filter_eq_cons_iff.mp isTail
    refine ⟨start ++ skipped, entry, final, by simp, counts, isLeader, most, ?_⟩
    intro other occurs otherCounts
    rcases List.mem_append.mp occurs with atStart | isSkipped
    · exact earlier _ (List.mem_map.mpr
        ⟨other, List.mem_filter.mpr ⟨atStart, otherCounts⟩, rfl⟩)
    · exact absurd otherCounts (uncounted other isSkipped)
  · rintro ⟨before, entry, after, rfl, counts, rfl, most, earlier⟩
    refine ⟨(before.filter counted).map value, (after.filter counted).map value,
      by simp [counts], most, ?_⟩
    intro other occurs
    obtain ⟨earlierEntry, member, rfl⟩ := List.mem_map.mp occurs
    obtain ⟨isBefore, earlierCounts⟩ := List.mem_filter.mp member
    exact earlier earlierEntry isBefore earlierCounts

end Lib
end OneDesk
