import Mathlib.Data.List.Infix
import Mathlib.Data.List.TakeWhile

/-!
# Lexical paths

Paths are texts.  A style says how a text is cut into a drive, a root and
parts, and how one text is joined to another.  Resolving a path drops `.` and
lets `..` cancel the part before it, without looking at any disk.  The rules
are those of the Rust standard library's `PathBuf` on Unix and on Windows.
-/

namespace OneDesk
namespace Lib
namespace Path

/-- The two families of path texts. -/
inductive Style where
  | unix
  | windows
  deriving DecidableEq, Repr

/-- One part of a path. -/
abbrev Part := List Char

/-- What a Windows path may start with. -/
inductive Drive where
  | disk (letter : Char)
  | unc (server share : Part)
  | deviceNs (name : Part)
  | verbatim (name : Part)
  | verbatimUnc (server share : Part)
  | verbatimDisk (letter : Char)
  deriving DecidableEq, Repr

/-- Verbatim paths are handed to the system as they are. -/
def Drive.isVerbatim : Drive → Bool
  | .verbatim _ | .verbatimUnc _ _ | .verbatimDisk _ => true
  | .disk _ | .unc _ _ | .deviceNs _ => false

/-- Every drive but a plain letter implies a root. -/
def Drive.impliesRoot : Drive → Bool
  | .disk _ => false
  | _ => true

/-- The characters that end a part. -/
def Style.isSeparator : Style → Char → Bool
  | .unix, character => character == '/'
  | .windows, character => character == '/' || character == '\\'

/-- The text up to the first separator. -/
def firstPart (isSeparator : Char → Bool) (text : List Char) : Part :=
  text.takeWhile fun character => !isSeparator character

/-- The text after the first separator. -/
def afterFirst (isSeparator : Char → Bool) (text : List Char) : List Char :=
  (text.dropWhile fun character => !isSeparator character).drop 1

/-- A letter and a colon at the start of a text. -/
def parseLetter (text : List Char) : Option Char :=
  if (text.drop 1).head? = some ':' then
    (text.head?.filter Char.isAlpha).map Char.toUpper
  else none

/-- A server and a share, each up to the next separator. -/
def parseShare (isSeparator : Char → Bool) (text : List Char) : Part × Part :=
  (firstPart isSeparator text, firstPart isSeparator (afterFirst isSeparator text))

/-- Length of a server and a share with the separator between them. -/
def shareLength (names : Part × Part) : Nat :=
  names.1.length + (if names.2.isEmpty then 0 else 1 + names.2.length)

/-- Verbatim paths have one separator only. -/
def isBackslash (character : Char) : Bool :=
  character == '\\'

/-- The text starts with a separator. -/
def startsRooted (style : Style) (text : List Char) : Bool :=
  text.head?.any style.isSeparator

/-- The drive after the four characters that make a path verbatim. -/
def parseVerbatim (text : List Char) : Drive × List Char :=
  if ['U', 'N', 'C'].isPrefixOf text && startsRooted .windows (text.drop 3) then
    let names := parseShare isBackslash (text.drop 4)
    (.verbatimUnc names.1 names.2, (text.drop 4).drop (shareLength names))
  else
    match parseLetter text, (text.drop 2).head?.all Style.windows.isSeparator with
    | some letter, true => (.verbatimDisk letter, text.drop 2)
    | _, _ =>
        (.verbatim (firstPart isBackslash text), text.drop (firstPart isBackslash text).length)

/-- The drive after two separators, if it is not verbatim. -/
def parseUnc (text : List Char) : Option (Drive × List Char) :=
  let isSeparator := Style.windows.isSeparator
  if text.head? = some '.' ∧ startsRooted .windows (text.drop 1) then
    some (.deviceNs (firstPart isSeparator (text.drop 2)),
      (text.drop 2).drop (firstPart isSeparator (text.drop 2)).length)
  else
    let names := parseShare isSeparator text
    -- a share counts only with its server
    if names.1.isEmpty || names.2.isEmpty then none
    else some (.unc names.1 names.2, text.drop (shareLength names))

/-- The drive of a Windows path and the text after it. -/
def parseDrive (text : List Char) : Option (Drive × List Char) :=
  if ['\\', '\\', '?', '\\'].isPrefixOf text then some (parseVerbatim (text.drop 4))
  else if startsRooted .windows text && startsRooted .windows (text.drop 1) then
    parseUnc (text.drop 2)
  else (parseLetter text).map fun letter => (.disk letter, text.drop 2)

/-- The drive of a path, which Unix paths do not have, and the text after it. -/
def splitDrive : Style → List Char → Option Drive × List Char
  | .unix, text => (none, text)
  | .windows, text =>
      match parseDrive text with
      | some (drive, rest) => (some drive, rest)
      | none => (none, text)

/-- The separators that count after a drive. -/
def separates (style : Style) (drive : Option Drive) : Char → Bool :=
  if drive.any Drive.isVerbatim then isBackslash else style.isSeparator

/-- The text after a drive without the separator that is its root. -/
def body (style : Style) (rest : List Char) : List Char :=
  if startsRooted style rest then rest.drop 1 else rest

/-- The parts of the text after a drive, empty ones included. -/
def rawParts (style : Style) (drive : Option Drive) (rest : List Char) : List Part :=
  (body style rest).splitOnP (separates style drive)

/-- A part that goes one level up. -/
def parentDir : Part := ['.', '.']

/-- A part that is the name of a file or a directory. -/
def isNormal (part : Part) : Bool :=
  part != [] && part != ['.'] && part != parentDir

/-- Follow one part from a resolved directory. -/
def enter (rooted : Bool) (directory : List Part) (part : Part) : List Part :=
  if part = [] ∨ part = ['.'] then directory
  else if part = parentDir then
    match directory.getLast? with
    | none => if rooted then [] else [parentDir]
    | some last => if last = parentDir then directory ++ [parentDir] else directory.dropLast
  else directory ++ [part]

/-- Follow parts from a resolved directory. -/
def walk (rooted : Bool) (directory parts : List Part) : List Part :=
  parts.foldl (enter rooted) directory

/-- A path with its `.` and `..` resolved. -/
structure Resolved where
  drive : Option Drive
  rooted : Bool
  parts : List Part
  deriving DecidableEq, Repr

/-- Resolve a path. -/
def resolve (style : Style) (path : String) : Resolved :=
  let split := splitDrive style path.toList
  let rooted := startsRooted style split.2 || split.1.any Drive.impliesRoot
  let raw := rawParts style split.1 split.2
  ⟨split.1, rooted,
    if split.1.any Drive.isVerbatim then raw.filter (· != []) else walk rooted [] raw⟩

/-- A path lies under another one: its parts go on from there without going up. -/
def Resolved.Under (base path : Resolved) : Prop :=
  base.drive = path.drive ∧ base.rooted = path.rooted ∧
    ∃ rest, path.parts = base.parts ++ rest ∧ parentDir ∉ rest

instance (base path : Resolved) : Decidable (base.Under path) :=
  decidable_of_iff
    (base.drive = path.drive ∧ base.rooted = path.rooted ∧ base.parts <+: path.parts ∧
      parentDir ∉ path.parts.drop base.parts.length) (by
    constructor
    · rintro ⟨drive, rooted, ⟨rest, parts⟩, descends⟩
      refine ⟨drive, rooted, rest, parts.symm, ?_⟩
      simpa [← parts] using descends
    · rintro ⟨drive, rooted, rest, parts, descends⟩
      refine ⟨drive, rooted, ⟨rest, parts.symm⟩, ?_⟩
      simpa [parts] using descends)

/-- A path can name a file: it ends in a part that is neither `.` nor `..`. -/
def namesFile (style : Style) (path : String) : Bool :=
  let split := splitDrive style path.toList
  (rawParts style split.1 split.2).getLast?.any isNormal

/-- The text to put between a base and a relative path. -/
def joint (style : Style) (base : List Char) : List Char :=
  match style with
  | .unix => if base.getLast?.all Style.unix.isSeparator then [] else ['/']
  | .windows =>
      match parseDrive base with
      | some (.disk _, []) => []
      | _ => if base.getLast?.all Style.windows.isSeparator then [] else ['\\']

/-- Follow one part of a path that is joined to a verbatim one. -/
def enterVerbatim (directory : List Part) (part : Part) : List Part :=
  if part = [] ∨ part = ['.'] then directory
  else if part = parentDir then
    if directory.getLast?.any isNormal then directory.dropLast else directory
  else directory ++ [part]

/-- Join a relative path to a verbatim one: the parts are resolved at once. -/
def pushVerbatim (base rest name : List Char) : List Char :=
  let start := if startsRooted .windows name then [] else
    ((body .windows rest).splitOnP isBackslash).filter (· != [])
  let parts := (name.splitOnP Style.windows.isSeparator).foldl enterVerbatim start
  let rooted := startsRooted .windows name || startsRooted .windows rest
  base.take (base.length - rest.length) ++
    (if rooted || !parts.isEmpty then '\\' :: ['\\'].intercalate parts else [])

/-- Join two texts: an absolute path or one with a drive replaces the base. -/
def pushText (style : Style) (base name : List Char) : List Char :=
  match style with
  | .unix =>
      if startsRooted .unix name then name else base ++ joint .unix base ++ name
  | .windows =>
      match parseDrive name, parseDrive base with
      | some _, _ => name
      | none, some (drive, rest) =>
          if drive.isVerbatim && !name.isEmpty then pushVerbatim base rest name
          else if startsRooted .windows name then base.take (base.length - rest.length) ++ name
          else base ++ joint .windows base ++ name
      | none, none =>
          if startsRooted .windows name then name
          else base ++ joint .windows base ++ name

/-- Join a path to a base. -/
def push (style : Style) (base name : String) : String :=
  String.ofList (pushText style base.toList name.toList)

/-- Joining a name puts it after the base, and after a separator where one is needed. -/
def Appends (style : Style) (base name : String) : Prop :=
  (push style base name).toList = base.toList ++ joint style base.toList ++ name.toList

/-- On Unix every relative name is appended. -/
theorem appends_unix
    (base : String)
    {name : String}
    (relative : startsRooted .unix name.toList = false) :
    Appends .unix base name := by
  simp [Appends, push, pushText, relative]

/-- Nothing or a separator stands between a base and a name. -/
theorem joint_cases (style : Style) (base : List Char) :
    joint style base = [] ∨
      ∃ separator, joint style base = [separator] ∧
        Style.windows.isSeparator separator = true := by
  unfold joint
  cases style with
  | unix =>
      dsimp only
      split
      · exact .inl rfl
      · exact .inr ⟨'/', rfl, rfl⟩
  | windows =>
      dsimp only
      split
      · exact .inl rfl
      · split
        · exact .inl rfl
        · exact .inr ⟨'\\', rfl, rfl⟩

section Extension

/-- A text that can be added to a file's name: it starts with a dot and no more
than that is special about it. -/
structure Extension (text : List Char) : Prop where
  dotted : text.head? = some '.'
  long : 2 < text.length
  plain : ∀ character ∈ text, Style.windows.isSeparator character = false

theorem isBackslash_isSeparator
    {character : Char}
    (backslash : isBackslash character = true) :
    Style.windows.isSeparator character = true := by
  simp only [isBackslash, beq_iff_eq] at backslash
  subst backslash
  rfl

theorem unix_isSeparator
    {character : Char}
    (slash : Style.unix.isSeparator character = true) :
    Style.windows.isSeparator character = true := by
  simp only [Style.isSeparator, beq_iff_eq] at slash
  subst slash
  rfl

/-- Whatever ends a part ends one in Windows paths. -/
theorem separates_isSeparator
    {style : Style}
    {drive : Option Drive}
    {character : Char}
    (ends : separates style drive character = true) :
    Style.windows.isSeparator character = true := by
  unfold separates at ends
  split at ends
  · exact isBackslash_isSeparator ends
  · cases style with
    | unix => exact unix_isSeparator ends
    | windows => exact ends

variable {extension : List Char}

theorem Extension.not_separates
    (valid : Extension extension)
    (style : Style)
    (drive : Option Drive)
    {character : Char}
    (member : character ∈ extension) :
    separates style drive character = false := by
  by_contra ends
  have separator := separates_isSeparator (by simpa using ends)
  rw [valid.plain character member] at separator
  cases separator

/-- Adding a text without separators changes the last part only. -/
theorem splitOnP_append_plain
    (ends : Char → Bool)
    (text : List Char) :
    ∃ before last, text.splitOnP ends = before ++ [last] ∧
      ∀ added : List Char, (∀ character ∈ added, ends character = false) →
        (text ++ added).splitOnP ends = before ++ [last ++ added] := by
  induction text with
  | nil =>
      refine ⟨[], [], rfl, ?_⟩
      intro added plain
      simpa using List.splitOnP_eq_singleton plain
  | cons first text ih =>
      obtain ⟨before, last, parts, grows⟩ := ih
      by_cases separator : ends first = true
      · refine ⟨[] :: before, last, ?_, ?_⟩
        · simp [List.splitOnP_cons_eq_if_modifyHead, separator, parts]
        · intro added plain
          simp [List.splitOnP_cons_eq_if_modifyHead, separator, grows added plain]
      · cases before with
        | nil =>
            refine ⟨[], first :: last, ?_, ?_⟩
            · simp [List.splitOnP_cons_eq_if_modifyHead, separator, parts]
            · intro added plain
              simp [List.splitOnP_cons_eq_if_modifyHead, separator, grows added plain]
        | cons part before =>
            refine ⟨(first :: part) :: before, last, ?_, ?_⟩
            · simp [List.splitOnP_cons_eq_if_modifyHead, separator, parts]
            · intro added plain
              simp [List.splitOnP_cons_eq_if_modifyHead, separator, grows added plain]

theorem startsRooted_append
    (style : Style)
    {text : List Char}
    (present : text ≠ [])
    (added : List Char) :
    startsRooted style (text ++ added) = startsRooted style text := by
  cases text with
  | nil => exact absurd rfl present
  | cons first text => rfl

theorem body_append
    (style : Style)
    {text : List Char}
    (present : text ≠ [])
    (added : List Char) :
    body style (text ++ added) = body style text ++ added := by
  unfold body
  rw [startsRooted_append style present]
  split
  · cases text with
    | nil => exact absurd rfl present
    | cons first text => rfl
  · rfl

theorem firstPart_plain
    {isSeparator : Char → Bool}
    {text : List Char}
    (plain : ∀ character ∈ text, isSeparator character = false) :
    firstPart isSeparator text = text ∧ afterFirst isSeparator text = [] := by
  have all : ∀ character ∈ text, (!isSeparator character) = true := by
    intro character member
    simp [plain character member]
  exact ⟨List.takeWhile_eq_self_iff.mpr all, by
    simp [afterFirst, List.dropWhile_eq_nil_iff.mpr all]⟩

theorem firstPart_split
    {isSeparator : Char → Bool}
    {part : Part}
    {separator : Char}
    (plain : ∀ character ∈ part, isSeparator character = false)
    (separates : isSeparator separator = true)
    (after : List Char) :
    firstPart isSeparator (part ++ separator :: after) = part ∧
      afterFirst isSeparator (part ++ separator :: after) = after := by
  have all : ∀ character ∈ part, (!isSeparator character) = true := by
    intro character member
    simp [plain character member]
  constructor
  · rw [firstPart, List.takeWhile_append_of_pos all]
    simp [separates]
  · rw [afterFirst, List.dropWhile_append_of_pos all]
    simp [separates]

/-- A text has no separator, or it is cut at the first one. -/
theorem firstPart_cases (isSeparator : Char → Bool) (text : List Char) :
    (∀ character ∈ text, isSeparator character = false) ∨
    ∃ part separator after, text = part ++ separator :: after ∧
      isSeparator separator = true ∧
      ∀ character ∈ part, isSeparator character = false := by
  induction text with
  | nil => exact .inl (by simp)
  | cons first text ih =>
      by_cases separates : isSeparator first = true
      · exact .inr ⟨[], first, text, rfl, separates, by simp⟩
      · have plainFirst : isSeparator first = false := by simpa using separates
        rcases ih with plain | ⟨part, separator, after, rfl, found, plain⟩
        · exact .inl (by simpa [plainFirst] using plain)
        · exact .inr ⟨first :: part, separator, after, rfl, found,
            by simpa [plainFirst] using plain⟩

/-- A text that goes on after its server and share keeps them when it grows. -/
theorem parseShare_append
    {isSeparator : Char → Bool}
    {text : List Char}
    (goesOn : ∃ last, (text.drop (shareLength (parseShare isSeparator text))).getLast? = some last ∧
      isSeparator last = false)
    (added : List Char) :
    parseShare isSeparator (text ++ added) = parseShare isSeparator text ∧
      (text ++ added).drop (shareLength (parseShare isSeparator text)) =
        text.drop (shareLength (parseShare isSeparator text)) ++ added := by
  obtain ⟨last, ended, notSeparator⟩ := goesOn
  have within : shareLength (parseShare isSeparator text) ≤ text.length := by
    by_contra beyond
    rw [List.drop_eq_nil_of_le (by omega)] at ended
    simp at ended
  refine ⟨?_, List.drop_append_of_le_length within⟩
  rcases firstPart_cases isSeparator text with plain | ⟨server, first, after, rfl, separates, plain⟩
  · have nothing : firstPart isSeparator [] = [] := rfl
    simp [parseShare, firstPart_plain plain, shareLength, nothing] at ended
  · rw [List.append_assoc, List.cons_append]
    simp only [parseShare, firstPart_split plain separates] at ended ⊢
    rcases firstPart_cases isSeparator after with
        plainAfter | ⟨share, second, rest, rfl, separatesAgain, plainShare⟩
    · -- the share reaches to the end of the text, so nothing follows it
      simp only [firstPart_plain plainAfter, shareLength] at ended
      cases after with
      | nil =>
          simp at ended
          rw [ended, notSeparator] at separates
          cases separates
      | cons character after =>
          have beyond : (server ++ first :: character :: after).length ≤
              server.length + if (character :: after).isEmpty then 0
                else 1 + (character :: after).length := by
            simp only [List.isEmpty_cons, Bool.false_eq_true, if_false, List.length_append,
              List.length_cons]
            omega
          rw [List.drop_eq_nil_of_le beyond] at ended
          simp at ended
    · rw [List.append_assoc, List.cons_append]
      simp only [firstPart_split plainShare separatesAgain]

/-- The text after the first part is kept when a text that goes on grows. -/
theorem firstPart_append
    {isSeparator : Char → Bool}
    {text : List Char}
    (goesOn : text.drop (firstPart isSeparator text).length ≠ [])
    (added : List Char) :
    firstPart isSeparator (text ++ added) = firstPart isSeparator text ∧
      (text ++ added).drop (firstPart isSeparator text).length =
        text.drop (firstPart isSeparator text).length ++ added := by
  rcases firstPart_cases isSeparator text with plain | ⟨part, first, after, rfl, separates, plain⟩
  · simp [firstPart_plain plain] at goesOn
  · rw [List.append_assoc, List.cons_append]
    simp [firstPart_split plain separates]

/-- A text goes on: it has a last character, and that one ends no part. -/
def GoesOn (isSeparator : Char → Bool) (text : List Char) : Prop :=
  ∃ last, text.getLast? = some last ∧ isSeparator last = false

theorem GoesOn.ne_nil
    {isSeparator : Char → Bool}
    {text : List Char}
    (goesOn : GoesOn isSeparator text) :
    text ≠ [] := by
  obtain ⟨last, ended, _⟩ := goesOn
  rintro rfl
  simp at ended

theorem parseLetter_append
    {text : List Char}
    (long : 2 ≤ text.length)
    (added : List Char) :
    parseLetter (text ++ added) = parseLetter text := by
  match text, long with
  | _ :: _ :: _, _ => rfl

/-- A verbatim path that goes on is parsed alike when it grows, if the tests it meets come
out alike. -/
theorem parseVerbatim_append_of_same
    {text added : List Char}
    (goesOn : GoesOn isBackslash (parseVerbatim text).2)
    (sameUnc : (['U', 'N', 'C'].isPrefixOf (text ++ added) &&
        startsRooted .windows ((text ++ added).drop 3)) =
      (['U', 'N', 'C'].isPrefixOf text && startsRooted .windows (text.drop 3)))
    (sameLetter : parseLetter (text ++ added) = parseLetter text)
    (sameEnd : ((text ++ added).drop 2).head?.all Style.windows.isSeparator =
      (text.drop 2).head?.all Style.windows.isSeparator)
    (long : 2 ≤ text.length) :
    parseVerbatim (text ++ added) =
      ((parseVerbatim text).1, (parseVerbatim text).2 ++ added) := by
  have named :
      text.drop (firstPart isBackslash text).length ≠ [] →
      (Drive.verbatim (firstPart isBackslash (text ++ added)),
          (text ++ added).drop (firstPart isBackslash (text ++ added)).length) =
        (.verbatim (firstPart isBackslash text),
          text.drop (firstPart isBackslash text).length ++ added) := by
    intro present
    obtain ⟨same, after⟩ := firstPart_append present added
    rw [same, after]
  simp only [parseVerbatim] at goesOn ⊢
  rw [sameUnc, sameLetter, sameEnd]
  by_cases unc : (['U', 'N', 'C'].isPrefixOf text && startsRooted .windows (text.drop 3)) = true
  · simp only [if_pos unc] at goesOn ⊢
    have longer : 4 ≤ text.length := by
      by_contra short
      have ended : text.drop 3 = [] := List.drop_eq_nil_of_le (by omega)
      simp [startsRooted, ended] at unc
    obtain ⟨same, after⟩ := parseShare_append goesOn added
    simp only [List.drop_append_of_le_length longer, same, after]
  · simp only [if_neg unc] at goesOn ⊢
    cases letter : parseLetter text with
    | none =>
        simp only [letter] at goesOn ⊢
        exact named goesOn.ne_nil
    | some found =>
        cases ended : (text.drop 2).head?.all Style.windows.isSeparator with
        | false =>
            simp only [letter, ended] at goesOn ⊢
            exact named goesOn.ne_nil
        | true => simp only [List.drop_append_of_le_length long]

theorem parseVerbatim_append
    {text : List Char}
    (goesOn : GoesOn isBackslash (parseVerbatim text).2)
    (added : List Char) :
    parseVerbatim (text ++ added) =
      ((parseVerbatim text).1, (parseVerbatim text).2 ++ added) := by
  have alpha : Char.isAlpha '\\' = false := by decide
  match text with
  | [] => simp [parseVerbatim, GoesOn, parseLetter] at goesOn
  | [first] =>
      by_cases backslash : isBackslash first = true
      · simp [parseVerbatim, GoesOn, parseLetter, firstPart, backslash, startsRooted] at goesOn
      · simp [parseVerbatim, GoesOn, parseLetter, firstPart, backslash, startsRooted] at goesOn
  | [first, second] =>
      by_cases backslash : first = '\\'
      · subst backslash
        simp [parseVerbatim, parseLetter, alpha, firstPart, isBackslash, Option.filter]
      · by_cases other : second = '\\'
        · simp [parseVerbatim, GoesOn, parseLetter, firstPart, backslash, other, startsRooted,
            isBackslash] at goesOn
        · have ended : (parseVerbatim [first, second]).2 = [] := by
            unfold parseVerbatim
            simp only [startsRooted]
            cases parseLetter [first, second] with
            | none => simp [backslash, other, firstPart, isBackslash]
            | some found => simp
          exact absurd ended goesOn.ne_nil
  | [first, second, third] =>
      refine parseVerbatim_append_of_same goesOn ?_ rfl rfl (by simp)
      by_cases unc : first = 'U' ∧ second = 'N' ∧ third = 'C'
      · obtain ⟨rfl, rfl, rfl⟩ := unc
        exact absurd (by decide) goesOn.ne_nil
      · have notUnc : ∀ rest : List Char,
            ['U', 'N', 'C'].isPrefixOf (first :: second :: third :: rest) = false := by
          intro rest
          simp only [List.isPrefixOf, Bool.and_true, Bool.and_eq_false_iff, beq_eq_false_iff_ne]
          grind
        rw [List.cons_append, List.cons_append, List.cons_append, notUnc, notUnc]
        rfl
  | first :: second :: third :: fourth :: tail =>
      exact parseVerbatim_append_of_same goesOn rfl rfl rfl (by simp)

theorem Extension.not_startsRooted
    (valid : Extension extension)
    (style : Style) :
    startsRooted style extension = false := by
  have head := valid.dotted
  unfold startsRooted
  rw [head]
  cases style <;> rfl

/-- The tests on the second character of a text come out alike when it grows. -/
theorem Extension.startsRooted_tail
    (valid : Extension extension)
    {text : List Char}
    (present : text ≠ []) :
    startsRooted .windows ((text ++ extension).drop 1) =
      startsRooted .windows (text.drop 1) := by
  match text with
  | [] => exact absurd rfl present
  | [first] => exact valid.not_startsRooted .windows
  | first :: second :: tail => rfl

theorem parseUnc_append_some
    (valid : Extension extension)
    {text rest : List Char}
    {drive : Drive}
    (parsed : parseUnc text = some (drive, rest))
    (goesOn : GoesOn Style.windows.isSeparator rest) :
    parseUnc (text ++ extension) = some (drive, rest ++ extension) := by
  have present : text ≠ [] := by
    rintro rfl
    simp [parseUnc, parseShare, firstPart] at parsed
  have sameHead : (text ++ extension).head? = text.head? := by
    cases text with
    | nil => exact absurd rfl present
    | cons first text => rfl
  simp only [parseUnc] at parsed ⊢
  rw [sameHead, valid.startsRooted_tail present]
  by_cases device : text.head? = some '.' ∧ startsRooted .windows (text.drop 1) = true
  · simp only [if_pos device] at parsed ⊢
    obtain ⟨rfl, rfl⟩ := Prod.mk.inj (Option.some.inj parsed)
    have long : 2 ≤ text.length := by
      by_contra short
      have ended : text.drop 1 = [] := List.drop_eq_nil_of_le (by omega)
      simp [startsRooted, ended] at device
    rw [List.drop_append_of_le_length long]
    obtain ⟨same, after⟩ := firstPart_append goesOn.ne_nil extension
    rw [same, after]
  · simp only [if_neg device] at parsed ⊢
    split at parsed
    · simp at parsed
    · next share =>
        obtain ⟨rfl, rfl⟩ := Prod.mk.inj (Option.some.inj parsed)
        obtain ⟨same, after⟩ := parseShare_append goesOn extension
        simp only [same, after, if_neg share]

theorem parseUnc_append_none
    (valid : Extension extension)
    {text : List Char}
    (parsed : parseUnc text = none)
    (goesOn : GoesOn Style.windows.isSeparator text) :
    parseUnc (text ++ extension) = none := by
  have sameHead : (text ++ extension).head? = text.head? := by
    cases text with
    | nil => exact absurd rfl goesOn.ne_nil
    | cons first text => rfl
  simp only [parseUnc] at parsed ⊢
  rw [sameHead, valid.startsRooted_tail goesOn.ne_nil]
  by_cases device : text.head? = some '.' ∧ startsRooted .windows (text.drop 1) = true
  · simp only [if_pos device] at parsed
    cases parsed
  · simp only [if_neg device] at parsed ⊢
    have missing : ((parseShare Style.windows.isSeparator text).1.isEmpty ||
        (parseShare Style.windows.isSeparator text).2.isEmpty) = true := by
      by_contra share
      simp [share] at parsed
    rw [if_pos]
    rcases firstPart_cases Style.windows.isSeparator text with
        plain | ⟨server, first, after, rfl, separates, plain⟩
    · have allPlain : ∀ character ∈ text ++ extension,
          Style.windows.isSeparator character = false := by
        intro character member
        rcases List.mem_append.mp member with inText | inExtension
        · exact plain character inText
        · exact valid.plain character inExtension
      simp [parseShare, firstPart_plain allPlain, firstPart]
    · rw [List.append_assoc, List.cons_append]
      simp only [parseShare, firstPart_split plain separates] at missing ⊢
      cases server with
      | nil => rfl
      | cons character server =>
          cases after with
          | nil =>
              obtain ⟨last, ended, notSeparator⟩ := goesOn
              rw [List.getLast?_concat] at ended
              obtain rfl := Option.some.inj ended
              rw [notSeparator] at separates
              cases separates
          | cons next after =>
              by_cases separator : Style.windows.isSeparator next = true
              · simp [firstPart, separator]
              · simp [firstPart, separator] at missing

/-- No verbatim path arises from one that is not verbatim. -/
theorem Extension.not_verbatim
    (valid : Extension extension)
    {text : List Char}
    (present : text ≠ [])
    (notVerbatim : ['\\', '\\', '?', '\\'].isPrefixOf text = false) :
    ['\\', '\\', '?', '\\'].isPrefixOf (text ++ extension) = false := by
  have dotted := valid.dotted
  cases extension with
  | nil => cases dotted
  | cons dot more =>
      obtain rfl : dot = '.' := by simpa using dotted
      match text with
      | [] => exact absurd rfl present
      | [first] | [first, second] | [first, second, third] => simp [List.isPrefixOf]
      | first :: second :: third :: fourth :: rest =>
          simpa [List.isPrefixOf] using notVerbatim

theorem parseDrive_append_some
    (valid : Extension extension)
    {text rest : List Char}
    {drive : Drive}
    (parsed : parseDrive text = some (drive, rest))
    (goesOn : GoesOn (separates .windows (some drive)) rest) :
    parseDrive (text ++ extension) = some (drive, rest ++ extension) := by
  simp only [parseDrive] at parsed ⊢
  by_cases isVerbatim : ['\\', '\\', '?', '\\'].isPrefixOf text = true
  · obtain ⟨tail, rfl⟩ := List.isPrefixOf_iff_prefix.mp isVerbatim
    simp only [if_pos isVerbatim] at parsed
    have again : ['\\', '\\', '?', '\\'].isPrefixOf
        (['\\', '\\', '?', '\\'] ++ tail ++ extension) = true := rfl
    rw [if_pos again]
    have dropped : (['\\', '\\', '?', '\\'] ++ tail).drop 4 = tail := rfl
    have droppedAgain : (['\\', '\\', '?', '\\'] ++ tail ++ extension).drop 4 =
      tail ++ extension := rfl
    rw [dropped] at parsed
    rw [droppedAgain]
    have verbatim : (parseVerbatim tail).1.isVerbatim = true := by
      unfold parseVerbatim
      split
      · rfl
      · split <;> rfl
    have parts := Option.some.inj parsed
    rw [parts] at verbatim
    have onBackslash : GoesOn isBackslash (parseVerbatim tail).2 := by
      rw [parts]
      simpa [separates, verbatim] using goesOn
    rw [parseVerbatim_append onBackslash, parts]
  · have notVerbatim : ['\\', '\\', '?', '\\'].isPrefixOf text = false :=
      Bool.eq_false_iff.mpr isVerbatim
    have present : text ≠ [] := by
      rintro rfl
      simp [startsRooted, parseLetter] at parsed
    rw [if_neg (by simp [valid.not_verbatim present notVerbatim])]
    rw [if_neg isVerbatim] at parsed
    rw [startsRooted_append .windows present, valid.startsRooted_tail present]
    have notVerbatimDrive : drive.isVerbatim = false := by
      split at parsed
      · unfold parseUnc at parsed
        simp only at parsed
        split at parsed
        · obtain ⟨rfl, _⟩ := Prod.mk.inj (Option.some.inj parsed)
          rfl
        · split at parsed
          · cases parsed
          · obtain ⟨rfl, _⟩ := Prod.mk.inj (Option.some.inj parsed)
            rfl
      · obtain ⟨letter, _, same⟩ := Option.map_eq_some_iff.mp parsed
        obtain ⟨rfl, _⟩ := Prod.mk.inj same
        rfl
    have onSeparator : GoesOn Style.windows.isSeparator rest := by
      simpa [separates, notVerbatimDrive] using goesOn
    split at parsed
    · next unc =>
        have long : 2 ≤ text.length := by
          by_contra short
          have ended : text.drop 1 = [] := List.drop_eq_nil_of_le (by omega)
          simp [startsRooted, ended] at unc
        rw [if_pos unc, List.drop_append_of_le_length long]
        exact parseUnc_append_some valid parsed onSeparator
    · next notUnc =>
        obtain ⟨letter, found, same⟩ := Option.map_eq_some_iff.mp parsed
        obtain ⟨rfl, rfl⟩ := Prod.mk.inj same
        have long : 2 ≤ text.length := by
          by_contra short
          exact onSeparator.ne_nil (List.drop_eq_nil_of_le (by omega))
        rw [if_neg notUnc, parseLetter_append long, found, List.drop_append_of_le_length long]
        rfl

theorem parseDrive_append_none
    (valid : Extension extension)
    {text : List Char}
    (parsed : parseDrive text = none)
    (goesOn : GoesOn Style.windows.isSeparator text) :
    parseDrive (text ++ extension) = none := by
  simp only [parseDrive] at parsed ⊢
  have notVerbatim : ['\\', '\\', '?', '\\'].isPrefixOf text = false := by
    refine Bool.eq_false_iff.mpr fun isVerbatim => ?_
    rw [if_pos isVerbatim] at parsed
    cases parsed
  rw [if_neg (by simp [notVerbatim])] at parsed
  rw [if_neg (by simp [valid.not_verbatim goesOn.ne_nil notVerbatim])]
  rw [startsRooted_append .windows goesOn.ne_nil, valid.startsRooted_tail goesOn.ne_nil]
  split at parsed
  · next unc =>
      rw [if_pos unc]
      obtain ⟨last, ended, notSeparator⟩ := goesOn
      match text, ended with
      | [first], _ => simp [startsRooted] at unc
      | [first, second], ended =>
          obtain rfl : second = last := by simpa using ended
          simp [startsRooted, notSeparator] at unc
      | first :: second :: third :: tail, ended =>
          refine parseUnc_append_none valid parsed ⟨last, ?_, notSeparator⟩
          simpa using ended
  · next notUnc =>
      rw [if_neg notUnc]
      have dotted := valid.dotted
      match text, goesOn.ne_nil with
      | [first], _ =>
          cases extension with
          | nil => cases dotted
          | cons dot more =>
              obtain rfl : dot = '.' := by simpa using dotted
              rfl
      | first :: second :: tail, _ =>
          rw [parseLetter_append (by simp)]
          exact Option.map_eq_none_iff.mpr (Option.map_eq_none_iff.mp parsed)

/-- A text whose last part is not empty goes on. -/
theorem goesOn_of_last
    {ends : Char → Bool}
    {text : List Char}
    {before : List Part}
    {last : Part}
    (parts : text.splitOnP ends = before ++ [last])
    (present : last ≠ []) :
    GoesOn ends text := by
  rcases List.eq_nil_or_concat text with rfl | ⟨start, character, rfl⟩
  · rw [List.splitOnP_nil] at parts
    have single := congrArg List.getLast? parts
    simp only [List.getLast?_singleton, List.getLast?_concat, Option.some.injEq] at single
    exact absurd single.symm present
  · refine ⟨character, by simp, ?_⟩
    by_contra separator
    rw [List.concat_eq_append,
      List.splitOnP_append_cons start [] (by simpa using separator)] at parts
    have single := congrArg List.getLast? parts
    rw [List.splitOnP_nil, List.getLast?_concat, List.getLast?_concat] at single
    exact present (Option.some.inj single).symm

theorem goesOn_of_body
    {ends : Char → Bool}
    {style : Style}
    {rest : List Char}
    (goesOn : GoesOn ends (body style rest)) :
    GoesOn ends rest := by
  unfold body at goesOn
  split at goesOn
  · obtain ⟨last, ended, plain⟩ := goesOn
    refine ⟨last, ?_, plain⟩
    cases rest with
    | nil => exact ended
    | cons first rest =>
        cases rest with
        | nil => simp at ended
        | cons second rest => simpa using ended
  · exact goesOn

/-- The drive of a path is not affected by an extension to its last part. -/
theorem splitDrive_append
    (valid : Extension extension)
    (style : Style)
    (text : List Char)
    (goesOn : GoesOn (separates style (splitDrive style text).1) (splitDrive style text).2) :
    splitDrive style (text ++ extension) =
      ((splitDrive style text).1, (splitDrive style text).2 ++ extension) := by
  cases style with
  | unix => rfl
  | windows =>
      simp only [splitDrive] at goesOn ⊢
      cases parsed : parseDrive text with
      | none =>
          simp only [parsed] at goesOn ⊢
          rw [parseDrive_append_none valid parsed (by simpa [separates] using goesOn)]
      | some found =>
          obtain ⟨drive, rest⟩ := found
          simp only [parsed] at goesOn ⊢
          rw [parseDrive_append_some valid parsed goesOn]

theorem walk_concat
    (rooted : Bool)
    (directory before : List Part)
    {last : Part}
    (normal : isNormal last = true) :
    walk rooted directory (before ++ [last]) = walk rooted directory before ++ [last] := by
  simp only [isNormal, Bool.and_eq_true, bne_iff_ne, ne_eq] at normal
  obtain ⟨⟨notEmpty, notCurrent⟩, notParent⟩ := normal
  rw [walk, List.foldl_append]
  simp [enter, notEmpty, notCurrent, notParent, walk]

theorem Extension.isNormal_append
    (valid : Extension extension)
    (last : Part) :
    isNormal (last ++ extension) = true := by
  have long := valid.long
  have ne_of_length : ∀ part : Part, part.length ≤ 2 → last ++ extension ≠ part := by
    intro part short same
    have lengths := congrArg List.length same
    simp only [List.length_append] at lengths
    omega
  simp only [isNormal, Bool.and_eq_true, bne_iff_ne]
  exact ⟨⟨ne_of_length _ (by simp), ne_of_length _ (by simp)⟩, ne_of_length _ (by simp [parentDir])⟩

/-- The parts of the path of a file, and of every extension of it. -/
theorem rawParts_append
    {style : Style}
    {path : String}
    (names : namesFile style path = true) :
    ∃ drive rest before last, splitDrive style path.toList = (drive, rest) ∧ rest ≠ [] ∧
      rawParts style drive rest = before ++ [last] ∧ isNormal last = true ∧
      ∀ extension : String, Extension extension.toList →
        splitDrive style (path ++ extension).toList = (drive, rest ++ extension.toList) ∧
        rawParts style drive (rest ++ extension.toList) =
          before ++ [last ++ extension.toList] := by
  obtain ⟨drive, rest, split⟩ : ∃ drive rest, splitDrive style path.toList = (drive, rest) :=
    ⟨_, _, rfl⟩
  obtain ⟨before, last, parts, grows⟩ :=
    splitOnP_append_plain (separates style drive) (body style rest)
  have normal : isNormal last = true := by
    simpa [namesFile, split, rawParts, parts] using names
  have present : last ≠ [] := by
    rintro rfl
    cases normal
  have goesOn : GoesOn (separates style drive) rest :=
    goesOn_of_body (goesOn_of_last parts present)
  refine ⟨drive, rest, before, last, split, goesOn.ne_nil, parts, normal, ?_⟩
  intro extension valid
  constructor
  · rw [String.toList_append]
    have appended := splitDrive_append valid style path.toList (by rw [split]; exact goesOn)
    simpa [split] using appended
  · rw [rawParts, body_append style goesOn.ne_nil]
    exact grows extension.toList fun character member => valid.not_separates style drive member

/-- An extension of the path of a file names a file. -/
theorem namesFile_append
    {style : Style}
    {path extension : String}
    (names : namesFile style path = true)
    (valid : Extension extension.toList) :
    namesFile style (path ++ extension) = true := by
  obtain ⟨drive, rest, before, last, _, _, _, _, extended⟩ := rawParts_append names
  obtain ⟨split, parts⟩ := extended extension valid
  simp only [namesFile, split, parts, List.getLast?_concat, Option.any_some]
  exact valid.isNormal_append last

/-- An extension to the path of a file changes its last part and nothing else. -/
theorem resolve_append
    {style : Style}
    {path : String}
    (names : namesFile style path = true) :
    ∃ drive rooted directory last, isNormal last = true ∧
      resolve style path = ⟨drive, rooted, directory ++ [last]⟩ ∧
      ∀ extension : String, Extension extension.toList →
        resolve style (path ++ extension) =
          ⟨drive, rooted, directory ++ [last ++ extension.toList]⟩ := by
  obtain ⟨drive, rest, before, last, split, present, parts, normal, extended⟩ :=
    rawParts_append names
  have lastPresent : last ≠ [] := by
    rintro rfl
    cases normal
  refine ⟨drive, startsRooted style rest || drive.any Drive.impliesRoot,
    if drive.any Drive.isVerbatim then before.filter (· != []) else
      walk (startsRooted style rest || drive.any Drive.impliesRoot) [] before,
    last, normal, ?_, ?_⟩
  · simp only [resolve, split, parts]
    split
    · simp [lastPresent]
    · rw [walk_concat _ _ _ normal]
  · intro extension valid
    obtain ⟨splitAgain, partsAgain⟩ := extended extension valid
    simp only [resolve, splitAgain, partsAgain, startsRooted_append style present]
    split
    · simp [lastPresent]
    · rw [walk_concat _ _ _ (valid.isNormal_append last)]

/-- A file lies under a directory if two different extensions of it do. -/
theorem under_of_extensions
    {style : Style}
    {base : Resolved}
    {path one other : String}
    (names : namesFile style path = true)
    (oneValid : Extension one.toList)
    (otherValid : Extension other.toList)
    (distinct : one ≠ other)
    (oneUnder : base.Under (resolve style (path ++ one)))
    (otherUnder : base.Under (resolve style (path ++ other))) :
    base.Under (resolve style path) := by
  obtain ⟨drive, rooted, directory, last, normal, resolved, extended⟩ := resolve_append names
  rw [extended one oneValid] at oneUnder
  rw [extended other otherValid] at otherUnder
  obtain ⟨sameDrive, sameRoot, oneRest, oneParts, oneDescends⟩ := oneUnder
  obtain ⟨_, _, otherRest, otherParts, _⟩ := otherUnder
  rw [resolved]
  rcases List.eq_nil_or_concat oneRest with rfl | ⟨rest, part, rfl⟩
  · -- the base would have to be the one extended path, and the other is not under it
    simp only [List.append_nil] at oneParts
    rw [← oneParts] at otherParts
    have lengths := congrArg List.length otherParts
    obtain rfl : otherRest = [] := by
      simp only [List.length_append, List.length_singleton] at lengths
      exact List.eq_nil_of_length_eq_zero (by omega)
    have sameText : other.toList = one.toList := by simpa using otherParts
    exact absurd (String.toList_inj.mp sameText).symm distinct
  · rw [List.concat_eq_append, ← List.append_assoc] at oneParts
    obtain ⟨sameDirectory, _⟩ := List.append_inj' oneParts rfl
    refine ⟨sameDrive, sameRoot, rest ++ [last], ?_, ?_⟩
    · simp [sameDirectory]
    · intro climbs
      rcases List.mem_append.mp climbs with inRest | isLast
      · exact oneDescends (by simp [inRest])
      · obtain rfl : parentDir = last := by simpa using isLast
        cases normal

end Extension

section Unix

theorem walk_append
    (rooted : Bool)
    (directory before after : List Part) :
    walk rooted directory (before ++ after) = walk rooted (walk rooted directory before) after :=
  List.foldl_append

@[simp] theorem walk_nil_part
    (rooted : Bool)
    (directory : List Part) :
    walk rooted directory [[]] = directory := by
  simp [walk, enter]

/-- On Unix a relative path is followed from where the base leads. -/
theorem resolve_push_unix
    (base name : String)
    (relative : startsRooted .unix name.toList = false) :
    resolve .unix (push .unix base name) =
      ⟨none, (resolve .unix base).rooted,
        walk (resolve .unix base).rooted (resolve .unix base).parts
          (name.toList.splitOnP Style.unix.isSeparator)⟩ := by
  have parsed : ∀ text : String, resolve .unix text =
      ⟨none, startsRooted .unix text.toList,
        walk (startsRooted .unix text.toList) []
          ((body .unix text.toList).splitOnP Style.unix.isSeparator)⟩ := by
    intro text
    simp [resolve, splitDrive, rawParts, separates]
  have joined : (push .unix base name).toList =
      base.toList ++ joint .unix base.toList ++ name.toList := by
    simp [push, pushText, relative]
  rw [parsed, parsed base, joined]
  rcases List.eq_nil_or_concat base.toList with empty | ⟨start, last, ended⟩
  · rw [empty]
    have noJoint : joint .unix [] = [] := rfl
    have unrooted : startsRooted .unix [] = false := rfl
    simp [noJoint, unrooted, relative, body, List.splitOnP_nil]
  · rw [ended, List.concat_eq_append]
    by_cases separator : Style.unix.isSeparator last = true
    · have noJoint : joint .unix (start ++ [last]) = [] := by simp [joint, separator]
      rw [noJoint, List.append_nil, List.append_assoc, List.singleton_append]
      cases start with
      | nil =>
          simp [startsRooted, body, separator, List.splitOnP_nil]
      | cons first start =>
          rw [startsRooted_append .unix (by simp), startsRooted_append .unix (by simp),
            body_append .unix (by simp), body_append .unix (by simp),
            List.splitOnP_append_cons _ _ separator, List.splitOnP_append_cons _ _ separator,
            walk_append, walk_append, List.splitOnP_nil, walk_nil_part]
    · have slash : joint .unix (start ++ [last]) = ['/'] := by simp [joint, separator]
      rw [slash, List.append_assoc (start ++ [last]), List.singleton_append]
      rw [startsRooted_append .unix (by simp), body_append .unix (by simp),
        List.splitOnP_append_cons _ _ (by rfl), walk_append]

end Unix

end Path
end Lib
end OneDesk
