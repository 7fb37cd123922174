import Mathlib.Data.List.DropRight
import OneDesk.Lib.Split

/-!
# The lines of a text

A text is cut behind every separator.  All lines but the last end in a separator
and have no other one; the last line may be unfinished.
-/

namespace OneDesk
namespace Lib

variable {α : Type}

/-- The lines of a text, each with the separator that ends it. -/
def linesOf [DecidableEq α] (separator : α) : List α → List (List α)
  | [] => []
  | first :: rest =>
      if first = separator then [separator] :: linesOf separator rest
      else
        match linesOf separator rest with
        | [] => [[first]]
        | line :: lines => (first :: line) :: lines

/-- A line that ends in the only separator it has. -/
def EndsLine (separator : α) (line : List α) : Prop :=
  ∃ body, line = body ++ [separator] ∧ separator ∉ body

/-- A text whose last line is finished, if it has one. -/
def Finished (separator : α) (text : List α) : Prop :=
  text = [] ∨ text.getLast? = some separator

instance [DecidableEq α] (separator : α) (text : List α) : Decidable (Finished separator text) :=
  inferInstanceAs (Decidable (_ ∨ _))

variable {separator : α} {text : List α}

@[simp] theorem finished_nil : Finished separator [] :=
  .inl rfl

/-- What follows a line is finished with the whole. -/
theorem Finished.of_line
    {body rest : List α}
    (finished : Finished separator (body ++ separator :: rest)) :
    Finished separator rest := by
  rcases finished with none | last
  · simp at none
  · cases rest with
    | nil => exact .inl rfl
    | cons first others =>
        right
        simpa [List.getLast?_append, List.getLast?_cons_cons] using last

/-- A text is finished if its last part is. -/
theorem finished_append
    {more : List α}
    (some : more ≠ []) :
    Finished separator (text ++ more) ↔ Finished separator more := by
  rw [Finished, Finished, List.getLast?_append_of_ne_nil _ some]
  simp [some]

theorem finished_line
    {body rest : List α} :
    Finished separator (body ++ separator :: rest) ↔ Finished separator rest := by
  refine ⟨Finished.of_line, fun finished => ?_⟩
  rw [finished_append (List.cons_ne_nil _ _)]
  rcases finished with none | last
  · rw [none]
    exact .inr rfl
  · right
    rw [List.getLast?_cons, last]
    rfl

variable [DecidableEq α]

@[simp] theorem linesOf_nil : linesOf separator [] = [] :=
  rfl

/-- A text without a separator is one line. -/
theorem linesOf_of_not_mem
    (notIn : separator ∉ text)
    (some : text ≠ []) :
    linesOf separator text = [text] := by
  induction text with
  | nil => exact absurd rfl some
  | cons first rest inductionHypothesis =>
      have differs : first ≠ separator := fun same => notIn (same ▸ List.mem_cons_self)
      have notInRest : separator ∉ rest := fun member => notIn (List.mem_cons_of_mem _ member)
      cases rest with
      | nil => simp [linesOf, differs]
      | cons second others =>
          rw [linesOf, if_neg differs, inductionHypothesis notInRest (List.cons_ne_nil _ _)]

/-- The first line of a text goes up to the first separator. -/
theorem linesOf_line
    {body : List α}
    (notIn : separator ∉ body)
    (rest : List α) :
    linesOf separator (body ++ separator :: rest) =
      (body ++ [separator]) :: linesOf separator rest := by
  induction body with
  | nil => simp [linesOf]
  | cons first others inductionHypothesis =>
      have differs : first ≠ separator := fun same => notIn (same ▸ List.mem_cons_self)
      have notInRest : separator ∉ others := fun member => notIn (List.mem_cons_of_mem _ member)
      rw [List.cons_append, linesOf, if_neg differs, inductionHypothesis notInRest,
        List.cons_append]

/-- A text is put together from a text without separators and from lines before it. -/
theorem text_induction
    (separator : α)
    {motive : List α → Prop}
    (unfinished : ∀ rest, separator ∉ rest → motive rest)
    (line : ∀ body rest, separator ∉ body → motive rest → motive (body ++ separator :: rest))
    (text : List α) :
    motive text := by
  induction length : text.length using Nat.strongRecOn generalizing text with
  | ind count inductionHypothesis =>
      by_cases within : separator ∈ text
      · obtain ⟨body, rest, rfl, notIn⟩ := List.eq_append_cons_of_mem within
        refine line body rest notIn (inductionHypothesis rest.length ?_ rest rfl)
        rw [← length, List.length_append, List.length_cons]
        omega
      · exact unfinished text within

@[simp] theorem flatten_linesOf (separator : α) (text : List α) :
    (linesOf separator text).flatten = text := by
  induction text using text_induction separator with
  | unfinished rest notIn =>
      by_cases none : rest = []
      · rw [none]
        rfl
      · rw [linesOf_of_not_mem notIn none, List.flatten_singleton]
  | line body rest notIn inductionHypothesis =>
      rw [linesOf_line notIn, List.flatten_cons, inductionHypothesis, List.append_assoc,
        List.singleton_append]

/-- Behind a finished line the lines go on by themselves. -/
theorem linesOf_append
    (finished : Finished separator text)
    (more : List α) :
    linesOf separator (text ++ more) = linesOf separator text ++ linesOf separator more := by
  induction text using text_induction separator with
  | unfinished rest notIn =>
      rcases finished with none | last
      · rw [none]
        rfl
      · exact absurd (List.mem_of_getLast? last) notIn
  | line body rest notIn inductionHypothesis =>
      rw [List.append_assoc, List.cons_append, linesOf_line notIn, linesOf_line notIn,
        inductionHypothesis finished.of_line, List.cons_append]

/-- What follows the last separator of a text. -/
def unfinished (separator : α) (text : List α) : List α :=
  text.rtakeWhile (· ≠ separator)

theorem not_mem_unfinished : separator ∉ unfinished separator text := by
  intro member
  simpa using List.mem_rtakeWhile_imp member

/-- A text is finished up to its last separator. -/
theorem exists_finished (separator : α) (text : List α) :
    ∃ whole, Finished separator whole ∧ text = whole ++ unfinished separator text := by
  refine ⟨text.rdropWhile (· ≠ separator), ?_, List.rdropWhile_append_rtakeWhile.symm⟩
  by_cases none : text.rdropWhile (· ≠ separator) = []
  · exact .inl none
  · right
    rw [List.getLast?_eq_some_getLast none]
    simpa using List.rdropWhile_last_not _ _ none

theorem unfinished_eq_nil : unfinished separator text = [] ↔ Finished separator text := by
  rw [unfinished, List.rtakeWhile_eq_nil_iff, Finished]
  by_cases none : text = []
  · simp [none]
  · simp [none, List.getLast?_eq_some_getLast none]

/-- What is unfinished of a text in two parts is what follows the last separator. -/
theorem unfinished_append
    {whole rest : List α}
    (finished : Finished separator whole)
    (notIn : separator ∉ rest) :
    unfinished separator (whole ++ rest) = rest := by
  have passes : ∀ item ∈ rest.reverse, decide (item ≠ separator) = true := by
    intro item member
    simpa using fun same : item = separator => notIn (same ▸ List.mem_reverse.mp member)
  have stops : whole.reverse.takeWhile (· ≠ separator) = [] := by
    rcases finished with none | last
    · rw [none]
      rfl
    · obtain ⟨front, rfl⟩ := List.getLast?_eq_some_iff.mp last
      simp
  rw [unfinished, List.rtakeWhile, List.reverse_append, List.takeWhile_append_of_pos passes, stops,
    List.append_nil, List.reverse_reverse]

/-- Nothing before a separator or behind a finished line is unfinished. -/
theorem unfinished_append_of_parts
    (text : List α)
    {more : List α}
    (parts : Finished separator text ∨ separator ∈ more) :
    unfinished separator (text ++ more) = unfinished separator more := by
  obtain ⟨whole, finished, isMore⟩ := exists_finished separator more
  have finishedBoth : Finished separator (text ++ whole) := by
    by_cases none : whole = []
    · rw [none, List.append_nil]
      refine parts.resolve_right fun member => ?_
      rw [isMore, none, List.nil_append] at member
      exact not_mem_unfinished member
    · right
      rw [List.getLast?_append_of_ne_nil _ none]
      exact finished.resolve_left none
  conv_lhs => rw [isMore, ← List.append_assoc]
  exact unfinished_append finishedBoth not_mem_unfinished

/-- The last line of a text that is not finished. -/
theorem linesOf_of_not_finished
    {whole rest : List α}
    (finished : Finished separator whole)
    (notIn : separator ∉ rest)
    (some : rest ≠ []) :
    linesOf separator (whole ++ rest) = linesOf separator whole ++ [rest] := by
  rw [linesOf_append finished, linesOf_of_not_mem notIn some]

/-- The lines of a text that is not finished, and the text before its last line. -/
theorem exists_lines
    (isUnfinished : ¬Finished separator text) :
    ∃ whole, Finished separator whole ∧ text = whole ++ unfinished separator text ∧
      unfinished separator text ≠ [] ∧
      linesOf separator text = linesOf separator whole ++ [unfinished separator text] := by
  obtain ⟨whole, finished, parts⟩ := exists_finished separator text
  have some : unfinished separator text ≠ [] := fun none =>
    isUnfinished (unfinished_eq_nil.mp none)
  have lines := linesOf_of_not_finished finished not_mem_unfinished some
  rw [← parts] at lines
  exact ⟨whole, finished, parts, some, lines⟩

theorem getLast?_linesOf_of_not_finished
    (isUnfinished : ¬Finished separator text) :
    (linesOf separator text).getLast? = some (unfinished separator text) := by
  obtain ⟨_, _, _, _, lines⟩ := exists_lines isUnfinished
  rw [lines, List.getLast?_concat]

theorem endsLine_of_finished
    (finished : Finished separator text) :
    ∀ line ∈ linesOf separator text, EndsLine separator line := by
  induction text using text_induction separator with
  | unfinished rest notIn =>
      rcases finished with none | last
      · simp [none]
      · exact absurd (List.mem_of_getLast? last) notIn
  | line body rest notIn inductionHypothesis =>
      rw [linesOf_line notIn]
      intro line member
      rcases List.mem_cons.mp member with rfl | later
      · exact ⟨body, rfl, notIn⟩
      · exact inductionHypothesis finished.of_line line later

/-- The lines before the last one are finished. -/
theorem endsLine_of_mem_dropLast :
    ∀ line ∈ (linesOf separator text).dropLast, EndsLine separator line := by
  intro line member
  obtain ⟨whole, finished, parts⟩ := exists_finished separator text
  by_cases none : unfinished separator text = []
  · rw [none, List.append_nil] at parts
    rw [parts] at member
    exact endsLine_of_finished finished line (List.dropLast_subset _ member)
  · rw [parts, linesOf_of_not_finished finished not_mem_unfinished none,
      List.dropLast_concat] at member
    exact endsLine_of_finished finished line member

theorem ne_nil_of_mem_linesOf
    {line : List α}
    (member : line ∈ linesOf separator text) :
    line ≠ [] := by
  induction text using text_induction separator with
  | unfinished rest notIn =>
      by_cases none : rest = []
      · simp [none] at member
      · rw [linesOf_of_not_mem notIn none, List.mem_singleton] at member
        rwa [member]
  | line body rest notIn inductionHypothesis =>
      rw [linesOf_line notIn] at member
      rcases List.mem_cons.mp member with rfl | later
      · simp
      · exact inductionHypothesis later

/-- The last line ends where the text ends. -/
theorem getLast?_of_linesOf
    {last : List α}
    (isLast : (linesOf separator text).getLast? = some last) :
    last.getLast? = text.getLast? := by
  obtain ⟨lines, isEnd⟩ := List.getLast?_eq_some_iff.mp isLast
  have some : last ≠ [] := ne_nil_of_mem_linesOf (List.mem_of_getLast? isLast)
  have whole := flatten_linesOf separator text
  rw [isEnd, List.flatten_append, List.flatten_singleton] at whole
  rw [← whole, List.getLast?_append_of_ne_nil _ some]

/-- The lines behind some others are the lines of the text behind them. -/
theorem linesOf_flatten_drop (separator : α) (text : List α) (count : Nat) :
    linesOf separator ((linesOf separator text).drop count).flatten =
      (linesOf separator text).drop count := by
  induction text using text_induction separator generalizing count with
  | unfinished rest notIn =>
      by_cases none : rest = []
      · simp [none]
      · rw [linesOf_of_not_mem notIn none]
        cases count with
        | zero => rw [List.drop_zero, List.flatten_singleton, linesOf_of_not_mem notIn none]
        | succ count => simp
  | line body rest notIn inductionHypothesis =>
      cases count with
      | zero => rw [List.drop_zero, flatten_linesOf]
      | succ count =>
          rw [linesOf_line notIn, List.drop_succ_cons]
          exact inductionHypothesis count

/-- Some more of an unfinished line. -/
theorem linesOf_extend
    {last more : List α}
    (isUnfinished : ¬Finished separator text)
    (isLast : (linesOf separator text).getLast? = some last)
    (notIn : separator ∉ more) :
    linesOf separator (text ++ more) =
      (linesOf separator text).dropLast ++ [last ++ more] := by
  obtain ⟨whole, finished, parts, some, lines⟩ := exists_lines isUnfinished
  rw [lines, List.getLast?_concat] at isLast
  cases isLast
  have notInBoth : separator ∉ unfinished separator text ++ more := by
    rw [List.mem_append]
    exact not_or_intro not_mem_unfinished notIn
  rw [lines, List.dropLast_concat]
  conv_lhs => rw [parts, List.append_assoc]
  exact linesOf_of_not_finished finished notInBoth (List.append_ne_nil_of_left_ne_nil some _)

/-- The end of an unfinished line, and what follows it. -/
theorem linesOf_complete
    {last head : List α}
    (isUnfinished : ¬Finished separator text)
    (isLast : (linesOf separator text).getLast? = some last)
    (notIn : separator ∉ head)
    (rest : List α) :
    linesOf separator (text ++ (head ++ separator :: rest)) =
      (linesOf separator text).dropLast ++ [last ++ (head ++ [separator])] ++
        linesOf separator rest := by
  obtain ⟨whole, finished, parts, some, lines⟩ := exists_lines isUnfinished
  rw [lines, List.getLast?_concat] at isLast
  cases isLast
  have notInBoth : separator ∉ unfinished separator text ++ head := by
    rw [List.mem_append]
    exact not_or_intro not_mem_unfinished notIn
  rw [lines, List.dropLast_concat]
  conv_lhs => rw [parts, List.append_assoc, linesOf_append finished, ← List.append_assoc,
    linesOf_line notInBoth]
  simp

/-- The pieces between the separators are the lines without their separators. -/
theorem linesOf_splitOn (separator : α) (text : List α) :
    ∃ pieces last, text.splitOn separator = pieces ++ [last] ∧
      separator ∉ last ∧ (last = [] ↔ Finished separator text) ∧
      linesOf separator text =
        pieces.map (· ++ [separator]) ++ (if last = [] then [] else [last]) := by
  induction text using text_induction separator with
  | unfinished rest notIn =>
      have whole : rest.splitOn separator = [rest] := splitOn_of_not_mem notIn
      refine ⟨[], rest, whole, notIn, ?_, ?_⟩
      · rw [Finished]
        exact ⟨.inl, fun finished => finished.resolve_right fun last =>
          notIn (List.mem_of_getLast? last)⟩
      · by_cases none : rest = []
        · simp [none]
        · rw [linesOf_of_not_mem notIn none, if_neg none, List.map_nil, List.nil_append]
  | line body rest notIn inductionHypothesis =>
      obtain ⟨pieces, last, split, notInLast, isFinished, lines⟩ := inductionHypothesis
      have first : (body ++ separator :: rest).splitOn separator =
          body :: rest.splitOn separator := splitOn_append_cons rest notIn
      refine ⟨body :: pieces, last, ?_, notInLast, ?_, ?_⟩
      · rw [first, split, List.cons_append]
      · rw [isFinished]
        refine ⟨fun finished => ?_, Finished.of_line⟩
        right
        rcases finished with none | ends
        · simp [none]
        · simp [List.getLast?_append, List.getLast?_cons, ends]
      · rw [linesOf_line notIn, lines, List.map_cons, List.cons_append]

end Lib
end OneDesk
