import OneDesk.Clipboard.PasteTask
import OneDesk.Lib.UnixPath

/-!
# Where the names of pasted files lead

The task puts a suffix or a number to a name until it is free.  Every name that it tries for a path
below the target directory leads below that directory as well.
-/

namespace OneDesk
namespace Clipboard
namespace Paste

open Lib Lib.Path

/-- A part that counts for nothing at the end of a path. -/
abbrev isIdle (part : List Char × Nat) : Bool :=
  part.1 = [] || (part.1 = ['.'] && part.2 ≠ 0)

/-- Parts that count for nothing lead nowhere. -/
theorem walk_rdropWhile
    (rooted : Bool)
    (parts : List (List Char × Nat)) :
    walk rooted [] ((trimParts parts).map Prod.fst) = walk rooted [] (parts.map Prod.fst) := by
  induction parts using List.reverseRecOn with
  | nil => rfl
  | append_singleton parts last inductionHypothesis =>
      by_cases idle : isIdle last = true
      · have stays : last.1 = [] ∨ last.1 = ['.'] := by
          simp only [isIdle, Bool.or_eq_true, Bool.and_eq_true, decide_eq_true_eq] at idle
          exact idle.imp id And.left
        rw [trimParts, List.rdropWhile_concat_pos _ _ _ idle, ← trimParts, inductionHypothesis,
          List.map_append, walk_append]
        simp [walk, enter, stays]
      · rw [trimParts, List.rdropWhile_concat_neg _ _ _ idle]

/-- The trimmed parts are a beginning of all parts. -/
theorem map_trimParts_isPrefix (parts : List (List Char × Nat)) :
    (trimParts parts).map Prod.fst <+: parts.map Prod.fst :=
  (List.rdropWhile_prefix ..).map Prod.fst

theorem map_zipIdx_unixParts (path : String) :
    (path.toList.splitOnP (· == '/')).zipIdx.map Prod.fst = unixParts path.toList :=
  List.zipIdx_map_fst ..

theorem partsOf_isPrefix (path : String) :
    (partsOf path).map Prod.fst <+: unixParts path.toList := by
  rw [← map_zipIdx_unixParts]
  exact map_trimParts_isPrefix _

/-- A path leads where its trimmed parts lead. -/
theorem resolve_partsOf (path : String) :
    resolve .unix path =
      ⟨none, startsRooted .unix path.toList,
        walk (startsRooted .unix path.toList) [] ((partsOf path).map Prod.fst)⟩ := by
  rw [resolve_unix, partsOf, walk_rdropWhile, map_zipIdx_unixParts]

/-- A path with a file name ends in that name. -/
theorem fileName_some
    {path : String}
    {name : List Char}
    (named : fileName path = some name) :
    ∃ before number, partsOf path = before ++ [(name, number)] ∧ isNormal name = true := by
  obtain ⟨last, isNormal⟩ := Option.filter_eq_some_iff.mp named
  obtain ⟨part, isLast, rfl⟩ := Option.map_eq_some_iff.mp last
  obtain ⟨before, is⟩ := List.getLast?_eq_some_iff.mp isLast
  exact ⟨before, part.2, is, isNormal⟩

/-- The directory of a path leads where all parts but the last lead. -/
theorem resolve_parent
    {path : String}
    {before : List (List Char × Nat)}
    {last : List Char × Nat}
    (parts : partsOf path = before ++ [last]) :
    ∃ directory, parent path = some directory ∧
      resolve .unix directory =
        ⟨none, startsRooted .unix path.toList,
          walk (startsRooted .unix path.toList) [] (before.map Prod.fst)⟩ := by
  have beforePrefix : before.map Prod.fst <+: unixParts path.toList := by
    have whole := partsOf_isPrefix path
    rw [parts, List.map_append] at whole
    exact (List.prefix_append ..).trans whole
  have keptPrefix := (map_trimParts_isPrefix before).trans beforePrefix
  rw [parent, if_neg (by simp [parts]), parts, List.dropLast_concat]
  refine ⟨_, rfl, ?_⟩
  rw [← walk_rdropWhile]
  cases kept : trimParts before with
  | nil =>
      cases startsRooted .unix path.toList with
      | true => decide
      | false => decide
  | cons first others =>
      rw [kept, List.map_cons] at keptPrefix
      have noSlash : ∀ part ∈ (first :: others).map Prod.fst, '/' ∉ part := fun _ member =>
        not_mem_of_mem_splitOn (keptPrefix.subset member)
      have joined := unixParts_intercalate noSlash (by simp)
      have sameRoot : startsRooted .unix (['/'].intercalate ((first :: others).map Prod.fst)) =
          startsRooted .unix path.toList := by
        rw [Bool.eq_iff_iff, startsRooted_unix, startsRooted_unix, joined]
        obtain ⟨behind, is⟩ := keptPrefix
        rw [← is, List.map_cons, List.cons_append]
        constructor
        · rintro ⟨_, same, more⟩
          obtain ⟨head, rfl⟩ := List.cons.inj same
          exact ⟨_, by rw [head], by simp [more]⟩
        · rintro ⟨_, same, -⟩
          obtain ⟨head, -⟩ := List.cons.inj same
          refine ⟨others.map Prod.fst, by rw [head], ?_⟩
          -- an empty part alone would have been dropped
          intro alone
          have single : trimParts before = [first] := by rw [kept, List.map_eq_nil_iff.mp alone]
          have again : trimParts (trimParts before) = trimParts before :=
            List.rdropWhile_idempotent _ before
          rw [single] at again
          simp [trimParts, List.rdropWhile_singleton, head] at again
      rw [if_neg (by simp), resolve_unix, String.toList_ofList, joined, sameRoot]

/-- A file name in place of another one leads into the same directory. -/
theorem resolve_withFileName
    {path name : String}
    {old : List Char}
    (named : fileName path = some old)
    (normal : isNormal name.toList = true)
    (plain : '/' ∉ name.toList) :
    ∃ directory, resolve .unix path =
        ⟨none, startsRooted .unix path.toList, directory ++ [old]⟩ ∧
      resolve .unix (withFileName path name) =
        ⟨none, startsRooted .unix path.toList, directory ++ [name.toList]⟩ := by
  obtain ⟨before, number, parts, oldNormal⟩ := fileName_some named
  obtain ⟨parentPath, isParent, leads⟩ := resolve_parent parts
  have relative : startsRooted .unix name.toList = false := by
    cases text : name.toList with
    | nil => rfl
    | cons first others =>
        rw [text] at plain
        simpa using fun same : first = '/' => plain (by simp [same])
  have single : name.toList.splitOnP Style.unix.isSeparator = [name.toList] :=
    splitOn_of_not_mem plain
  refine ⟨walk (startsRooted .unix path.toList) [] (before.map Prod.fst), ?_, ?_⟩
  · rw [resolve_partsOf, parts, List.map_append]
    exact congrArg _ (walk_concat _ _ _ oldNormal)
  · rw [withFileName, named, Option.isSome_some, if_pos rfl, isParent, Option.getD_some,
      resolve_push_unix parentPath name relative, single, leads]
    exact congrArg _ (walk_concat _ _ [] normal)

/-- Stem and extension are made of what the name is made of. -/
theorem mem_of_splitAtDot
    {name stem extension : List Char}
    (splits : splitAtDot name = (stem, some extension)) :
    (∀ character ∈ stem, character ∈ name) ∧ ∀ character ∈ extension, character ∈ name := by
  unfold splitAtDot at splits
  dsimp only at splits
  split at splits
  · obtain ⟨rfl, isAfter⟩ := Prod.mk.inj splits
    obtain rfl := Option.some.inj isAfter
    exact ⟨fun _ => List.mem_of_mem_take, fun _ member =>
      (List.rtakeWhile_suffix _ name).subset member⟩
  · simp at splits

theorem slash_not_mem_toString (i : Nat) : '/' ∉ (toString i).toList := by
  intro member
  rw [Nat.toString_eq_repr, Nat.toList_repr] at member
  simpa using Nat.isDigit_of_mem_toDigits (by decide) (by decide) member

/-- The name of a file has no separator in it. -/
theorem slash_not_mem_fileName
    {path : String}
    {name : List Char}
    (named : fileName path = some name) :
    '/' ∉ name := by
  obtain ⟨before, number, parts, -⟩ := fileName_some named
  have member : name ∈ unixParts path.toList := (partsOf_isPrefix path).subset (by simp [parts])
  exact not_mem_of_mem_splitOn member

/-- A number behind the stem keeps a file name a name. -/
theorem numbered_isName
    {name stem extension : List Char}
    (splits : splitAtDot name = (stem, some extension))
    (noSlash : '/' ∉ name)
    (i : Nat) :
    isNormal (stem ++ '-' :: ((toString i).toList ++ '.' :: extension)) = true ∧
      '/' ∉ stem ++ '-' :: ((toString i).toList ++ '.' :: extension) := by
  obtain ⟨inStem, inExtension⟩ := mem_of_splitAtDot splits
  constructor
  · exact isNormal_of_mem (List.mem_append_right stem List.mem_cons_self) (by decide)
  · simp only [List.mem_append, List.mem_cons, not_or]
    exact ⟨fun member => noSlash (inStem _ member), by decide, slash_not_mem_toString i,
      by decide, fun member => noSlash (inExtension _ member)⟩

/-- The numbered names for a path below a directory lead below it. -/
theorem numbered_below
    {base : Resolved}
    {path name : String}
    {kind : FileType}
    {i : Nat}
    (below : base.Below (resolve .unix path))
    (isName : numbered path kind i = some name) :
    base.Below (resolve .unix name) := by
  have behind : base.Below (resolve .unix (path ++ " (" ++ toString i ++ ")")) := by
    rw [String.append_assoc, String.append_assoc]
    refine below.append ?_ ?_
    · simp only [String.toList_append, List.length_append]
      simp
    · simpa using slash_not_mem_toString i
  unfold numbered at isName
  split at isName
  · split at isName
    · next stem extension splits =>
        obtain ⟨old, named, isSplit⟩ := Option.map_eq_some_iff.mp splits
        obtain ⟨normal, plain⟩ := numbered_isName isSplit (slash_not_mem_fileName named) i
        obtain rfl := Option.some.inj isName
        have characters : (String.ofList stem ++ "-" ++ toString i ++ "." ++
            String.ofList extension).toList =
              stem ++ '-' :: ((toString i).toList ++ '.' :: extension) := by
          simp
        rw [← characters] at plain normal
        obtain ⟨directory, leads, leadsBeside⟩ := resolve_withFileName named normal plain
        rw [leads] at below
        rw [leadsBeside]
        exact below.directory.concat normal
    · exact Option.some.inj isName ▸ behind
  · exact Option.some.inj isName ▸ behind
  · cases isName

end Paste
end Clipboard
end OneDesk
