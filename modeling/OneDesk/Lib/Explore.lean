import Mathlib.Data.List.Nodup
import Mathlib.Tactic.TypeStar

/-!
# Depth-first listings

Items are listed with what they contain, each before its contents.  An item is left out, with
all that it contains, if one with its key has been listed.  Opening an item, or one of its
entries, may fail, and then the whole listing fails.  How deep items are entered is bounded by a
number; a listing that succeeds is described by a relation that knows no bound.
-/

namespace OneDesk
namespace Lib

variable {α Key Error : Type*}
variable (key : α → Key) (entries : α → Except Error (List (Except Error α)))
variable (tooDeep : α → Error)

/-- List entries one behind the other; the first that cannot be read fails. -/
def listAll (list : α → List α → Except Error (List α)) :
    List (Except Error α) → List α → Except Error (List α)
  | [], visited => .ok visited
  | .error error :: _, _ => .error error
  | .ok item :: opened, visited =>
      match list item visited with
      | .error error => .error error
      | .ok visited => listAll list opened visited

/-- List an item, with what it contains, behind what is listed. -/
def explore [DecidableEq Key] : Nat → α → List α → Except Error (List α)
  | 0, item, _ => .error (tooDeep item)
  | depth + 1, item, visited =>
      if key item ∈ visited.map key then .ok visited
      else
        match entries item with
        | .error error => .error error
        | .ok opened => listAll (explore depth) opened (visited ++ [item])

/-- An item is opened and all its entries are read. -/
def Opens (item : α) (children : List α) : Prop := entries item = .ok (children.map .ok)

/-- An item is an entry of another. -/
def Contains (item child : α) : Prop := ∃ opened, entries item = .ok opened ∧ .ok child ∈ opened

/-- An item is in another, at some depth. -/
inductive Reaches (item : α) : α → Prop
  | refl : Reaches item item
  | entry {inner child : α} :
      Reaches item inner → Contains entries inner child → Reaches item child

/-- What is listed when some items are listed behind others, and nothing fails. -/
inductive Explored : List α → List α → List α → Prop
  | nil (visited : List α) : Explored visited [] []
  | seen {visited items fresh : List α} {item : α} :
      key item ∈ visited.map key → Explored visited items fresh →
      Explored visited (item :: items) fresh
  | new {visited items fresh children inner : List α} {item : α} :
      key item ∉ visited.map key → Opens entries item children →
      Explored (visited ++ [item]) children inner →
      Explored (visited ++ item :: inner) items fresh →
      Explored visited (item :: items) (item :: inner ++ fresh)

variable {key entries tooDeep}

/-! ## Runs -/

variable {visited items fresh : List α}

theorem Explored.append
    {others more : List α}
    (first : Explored key entries visited items fresh)
    (second : Explored key entries (visited ++ fresh) others more) :
    Explored key entries visited (items ++ others) (fresh ++ more) := by
  induction first with
  | nil visited => simpa using second
  | seen listed _ inductionHypothesis => exact .seen listed (inductionHypothesis second)
  | new unlisted opens inner _ _ inductionHypothesis =>
      rw [List.append_assoc]
      refine .new unlisted opens inner (inductionHypothesis ?_)
      simpa using second

/-- Entries are listed one behind the other. -/
theorem explored_of_listAll
    {list : α → List α → Except Error (List α)}
    (one : ∀ item visited after, list item visited = .ok after →
      ∃ fresh, after = visited ++ fresh ∧ Explored key entries visited [item] fresh)
    {opened : List (Except Error α)}
    {visited after : List α}
    (done : listAll list opened visited = .ok after) :
    ∃ children fresh, opened = children.map .ok ∧ after = visited ++ fresh ∧
      Explored key entries visited children fresh := by
  induction opened generalizing visited with
  | nil =>
      cases done
      exact ⟨[], [], rfl, (List.append_nil _).symm, .nil _⟩
  | cons entry opened inductionHypothesis =>
      cases entry with
      | error error => cases done
      | ok item =>
          cases first : list item visited with
          | error error => simp [listAll, first] at done
          | ok middle =>
              simp only [listAll, first] at done
              obtain ⟨fresh, rfl, explored⟩ := one item visited middle first
              obtain ⟨children, more, rfl, rfl, others⟩ := inductionHypothesis done
              exact ⟨item :: children, fresh ++ more, rfl, List.append_assoc _ _ _,
                explored.append others⟩

/-- A listing that succeeds follows the relation. -/
theorem explored_of_explore
    [DecidableEq Key]
    {depth : Nat}
    {item : α}
    {visited after : List α}
    (done : explore key entries tooDeep depth item visited = .ok after) :
    ∃ fresh, after = visited ++ fresh ∧ Explored key entries visited [item] fresh := by
  induction depth generalizing item visited after with
  | zero => cases done
  | succ depth inductionHypothesis =>
      rw [explore] at done
      split at done
      · next listed =>
          cases done
          exact ⟨[], (List.append_nil _).symm, .seen listed (.nil _)⟩
      · next unlisted =>
          split at done
          · cases done
          · next opened opens =>
              obtain ⟨children, inner, rfl, rfl, explored⟩ := explored_of_listAll
                (fun item visited after => inductionHypothesis) done
              refine ⟨item :: inner, by simp, ?_⟩
              have whole := Explored.new unlisted opens explored (.nil _)
              rwa [List.append_nil] at whole

/-! ## What is listed -/

theorem Opens.contains
    {item child : α}
    {children : List α}
    (opens : Opens entries item children)
    (member : child ∈ children) :
    Contains entries item child :=
  ⟨children.map .ok, opens, List.mem_map_of_mem member⟩

theorem Contains.mem
    {item child : α}
    {children : List α}
    (contains : Contains entries item child)
    (opens : Opens entries item children) :
    child ∈ children := by
  obtain ⟨opened, is, member⟩ := contains
  rw [Opens, is, Except.ok.injEq] at opens
  rw [opens] at member
  obtain ⟨same, isChild, equal⟩ := List.mem_map.mp member
  cases equal
  exact isChild

theorem Reaches.head
    {item child inner : α}
    (reaches : Reaches entries child inner)
    (contains : Contains entries item child) :
    Reaches entries item inner := by
  induction reaches with
  | refl => exact .entry .refl contains
  | entry _ next inductionHypothesis => exact .entry inductionHypothesis next

/-- All items are listed in the end. -/
theorem Explored.listed
    (explored : Explored key entries visited items fresh) :
    ∀ item ∈ items, key item ∈ (visited ++ fresh).map key := by
  induction explored with
  | nil visited => exact fun item member => absurd member List.not_mem_nil
  | @seen visited items fresh item listed _ inductionHypothesis =>
      refine List.forall_mem_cons.mpr ⟨?_, inductionHypothesis⟩
      rw [List.map_append]
      exact List.mem_append_left _ listed
  | @new visited items fresh children inner item _ _ _ _ _ inductionHypothesis =>
      refine List.forall_mem_cons.mpr ⟨?_, ?_⟩
      · exact List.mem_map_of_mem (by simp)
      · simpa using inductionHypothesis

/-- No key is listed twice. -/
theorem Explored.distinct
    (explored : Explored key entries visited items fresh)
    (nodup : (visited.map key).Nodup) :
    ((visited ++ fresh).map key).Nodup := by
  induction explored with
  | nil visited => simpa using nodup
  | seen _ _ inductionHypothesis => exact inductionHypothesis nodup
  | @new visited items fresh children inner item unlisted _ _ _ inside behind =>
      have extended : ((visited ++ [item]).map key).Nodup := by
        rw [List.map_append, List.map_singleton]
        exact List.nodup_append.mpr ⟨nodup, List.nodup_singleton _, by simpa using unlisted⟩
      have both := inside extended
      rw [List.append_assoc, List.singleton_append] at both
      simpa using behind both

/-- What is listed has been opened, and what it contains is listed. -/
theorem Explored.closed
    (explored : Explored key entries visited items fresh) :
    ∀ item ∈ fresh, ∃ children, Opens entries item children ∧
      ∀ child ∈ children, key child ∈ (visited ++ fresh).map key := by
  induction explored with
  | nil visited => exact fun item member => absurd member List.not_mem_nil
  | seen _ _ inductionHypothesis => exact inductionHypothesis
  | @new visited items fresh children inner item _ opens listing _ inside behind =>
      have grows : ∀ listed, listed ∈ (visited ++ [item] ++ inner).map key →
          listed ∈ (visited ++ (item :: inner ++ fresh)).map key := by
        intro listed member
        simp only [List.map_append, List.mem_append, List.map_cons, List.mem_cons] at member ⊢
        tauto
      intro other member
      rcases List.mem_append.mp member with within | after
      · rcases List.mem_cons.mp within with rfl | within
        · exact ⟨children, opens, fun child isChild => grows _ (listing.listed child isChild)⟩
        · obtain ⟨others, opensOther, listed⟩ := inside other within
          exact ⟨others, opensOther, fun child isChild => grows _ (listed child isChild)⟩
      · simpa using behind other after

/-- What is listed is one of the items, after those before it, or an entry of what was listed
before. -/
theorem Explored.origin
    (explored : Explored key entries visited items fresh)
    {before after : List α}
    {listed : α}
    (split : fresh = before ++ listed :: after) :
    (∃ earlier later, items = earlier ++ listed :: later ∧
        Explored key entries visited earlier before) ∨
      ∃ container ∈ before, Contains entries container listed := by
  induction explored generalizing before after with
  | nil visited => simp at split
  | @seen visited items fresh item seen _ inductionHypothesis =>
      rcases inductionHypothesis split with ⟨earlier, later, rfl, explored⟩ | contained
      · exact .inl ⟨item :: earlier, later, rfl, .seen seen explored⟩
      · exact .inr contained
  | @new visited items fresh children inner item unlisted opens listing _ inside behind =>
      rcases List.append_eq_append_iff.mp split with ⟨rest, rfl, rfl⟩ | ⟨rest, outer, inner'⟩
      · rcases behind rfl with ⟨earlier, later, rfl, explored⟩ | ⟨container, member, contains⟩
        · exact .inl ⟨item :: earlier, later, rfl, .new unlisted opens listing explored⟩
        · exact .inr ⟨container, List.mem_append_right _ member, contains⟩
      · cases rest with
        | nil =>
            rw [List.append_nil] at outer
            rw [List.nil_append] at inner'
            subst outer
            have first : fresh = [] ++ listed :: after := inner'.symm
            rcases behind first with ⟨earlier, later, rfl, explored⟩ |
              ⟨container, member, _⟩
            · refine .inl ⟨item :: earlier, later, rfl, ?_⟩
              have whole := Explored.new unlisted opens listing explored
              rwa [List.append_nil] at whole
            · cases member
        | cons first rest =>
            obtain ⟨rfl, rfl⟩ := List.cons.inj inner'
            cases before with
            | nil =>
                obtain ⟨rfl, rfl⟩ := List.cons.inj outer
                exact .inl ⟨[], items, rfl, .nil visited⟩
            | cons head before =>
                obtain ⟨rfl, rfl⟩ := List.cons.inj outer
                rcases inside rfl with ⟨earlier, later, rfl, _⟩ | ⟨container, member, contains⟩
                · exact .inr ⟨item, List.mem_cons_self, opens.contains (by simp)⟩
                · exact .inr ⟨container, List.mem_cons_of_mem _ member, contains⟩

/-- The listing of some items begins with the listing of the first of them. -/
theorem Explored.split
    {others : List α}
    (explored : Explored key entries visited (items ++ others) fresh) :
    ∃ early late, fresh = early ++ late ∧ Explored key entries visited items early ∧
      Explored key entries (visited ++ early) others late := by
  induction items generalizing visited fresh with
  | nil => exact ⟨[], fresh, rfl, .nil visited, by simpa using explored⟩
  | cons item items inductionHypothesis =>
      cases explored with
      | seen listed rest =>
          obtain ⟨early, late, rfl, first, second⟩ := inductionHypothesis rest
          exact ⟨early, late, rfl, .seen listed first, second⟩
      | @new _ _ behind children inner _ unlisted opens inside rest =>
          obtain ⟨early, late, rfl, first, second⟩ := inductionHypothesis rest
          refine ⟨item :: inner ++ early, late, (List.append_assoc _ _ _).symm,
            .new unlisted opens inside first, ?_⟩
          simpa using second

/-- What is listed is in one of the items. -/
theorem Explored.reaches
    (explored : Explored key entries visited items fresh)
    {listed : α}
    (member : listed ∈ fresh) :
    ∃ item ∈ items, Reaches entries item listed := by
  induction explored with
  | nil visited => cases member
  | seen _ _ inductionHypothesis =>
      obtain ⟨item, isItem, reaches⟩ := inductionHypothesis member
      exact ⟨item, List.mem_cons_of_mem _ isItem, reaches⟩
  | @new visited items fresh children inner item _ opens _ _ inside behind =>
      rcases List.mem_append.mp member with within | after
      · refine ⟨item, List.mem_cons_self, ?_⟩
        rcases List.mem_cons.mp within with rfl | within
        · exact .refl
        · obtain ⟨child, isChild, reaches⟩ := inside within
          exact reaches.head (opens.contains isChild)
      · obtain ⟨other, isItem, reaches⟩ := behind after
        exact ⟨other, List.mem_cons_of_mem _ isItem, reaches⟩

/-! ## Depth -/

section Depth

variable [DecidableEq Key]
variable {size : α → Nat} {limit : Nat}

/-- Items grow with each step into them, and those that are too large cannot be opened. -/
structure Bounded (entries : α → Except Error (List (Except Error α))) (size : α → Nat)
    (limit : Nat) : Prop where
  grows : ∀ item child, Contains entries item child → size item < size child
  ends : ∀ item, limit ≤ size item → ∃ error, entries item = .error error

omit [DecidableEq Key] in
theorem listAll_congr
    {list other : α → List α → Except Error (List α)}
    {opened : List (Except Error α)}
    (same : ∀ item, .ok item ∈ opened → ∀ visited, list item visited = other item visited)
    (visited : List α) :
    listAll list opened visited = listAll other opened visited := by
  induction opened generalizing visited with
  | nil => rfl
  | cons entry opened inductionHypothesis =>
      cases entry with
      | error error => rfl
      | ok item =>
          rw [listAll, listAll, same item List.mem_cons_self]
          cases other item visited with
          | error error => rfl
          | ok after =>
              exact inductionHypothesis
                (fun item member => same item (List.mem_cons_of_mem _ member)) after

omit [DecidableEq Key] in
theorem exists_listAll
    {list : α → List α → Except Error (List α)}
    {children : List α}
    (each : ∀ child ∈ children, ∀ visited, ∃ after, list child visited = .ok after)
    (visited : List α) :
    ∃ after, listAll list (children.map .ok) visited = .ok after := by
  induction children generalizing visited with
  | nil => exact ⟨visited, rfl⟩
  | cons child children inductionHypothesis =>
      obtain ⟨middle, first⟩ := each child List.mem_cons_self visited
      obtain ⟨after, others⟩ := inductionHypothesis
        (fun child member => each child (List.mem_cons_of_mem _ member)) middle
      refine ⟨after, ?_⟩
      rw [List.map_cons, listAll, first]
      exact others

/-- A greater depth does not change a listing that is deep enough. -/
theorem explore_succ
    (bounded : Bounded entries size limit)
    {depth : Nat}
    {item : α}
    (enough : limit ≤ size item + depth)
    (visited : List α) :
    explore key entries tooDeep (depth + 2) item visited =
      explore key entries tooDeep (depth + 1) item visited := by
  induction depth generalizing item visited with
  | zero =>
      obtain ⟨error, ends⟩ := bounded.ends item enough
      simp only [explore, ends]
  | succ depth inductionHypothesis =>
      rw [explore, explore]
      split
      · rfl
      · split
        · rfl
        · next opened opens =>
            refine listAll_congr (fun child member visited => ?_) _
            have grows := bounded.grows item child ⟨opened, opens, member⟩
            exact inductionHypothesis (by omega) visited

/-- A listing that is deep enough does not depend on its depth. -/
theorem explore_depth
    (bounded : Bounded entries size limit)
    {depth : Nat}
    {item : α}
    (enough : limit ≤ size item + depth)
    (more : Nat)
    (visited : List α) :
    explore key entries tooDeep (depth + more + 1) item visited =
      explore key entries tooDeep (depth + 1) item visited := by
  induction more with
  | zero => rfl
  | succ more inductionHypothesis =>
      have deep : limit ≤ size item + (depth + more) := by omega
      rw [← inductionHypothesis]
      exact explore_succ bounded deep visited

/-- Where everything in an item can be opened, the item is listed. -/
theorem exists_explore
    (bounded : Bounded entries size limit)
    {depth : Nat}
    {item : α}
    (enough : limit ≤ size item + depth)
    (opens : ∀ inner, Reaches entries item inner → ∃ children, Opens entries inner children)
    (visited : List α) :
    ∃ after, explore key entries tooDeep (depth + 1) item visited = .ok after := by
  induction depth generalizing item visited with
  | zero =>
      obtain ⟨error, ends⟩ := bounded.ends item enough
      obtain ⟨children, opened⟩ := opens item .refl
      rw [Opens, ends] at opened
      cases opened
  | succ depth inductionHypothesis =>
      obtain ⟨children, opened⟩ := opens item .refl
      rw [explore]
      split
      · exact ⟨visited, rfl⟩
      · rw [opened]
        refine exists_listAll (fun child member visited => ?_) _
        have contains := opened.contains member
        have grows := bounded.grows item child contains
        exact inductionHypothesis (by omega)
          (fun inner reaches => opens inner (reaches.head contains)) visited

end Depth

end Lib
end OneDesk
