import OneDesk.Lib.Ancestors
import OneDesk.Lib.Run
import OneDesk.Lib.Topmost

/-!
# The log of removals

When a peer removes a directory, it removes what is in it first, one by one.  Removals therefore
wait before they are reported, and those of the direct children of a directory that is removed after
them are meant to be dropped.  The test whether a path is a direct child of another is given the
paths of a file the other way round.
-/

namespace OneDesk
namespace Server

open OneDesk.Lib

/-- `FileRemoveFile` -/
structure FileRemoveFile where
  id : Int
  path : String
  deriving DecidableEq

/-- `FileRemoveDir` -/
structure FileRemoveDir where
  id : Int
  path : String
  deriving DecidableEq

/-- `FileActionLog`, which is sent as JSON. -/
structure FileActionLog where
  id : Int
  connId : Int
  path : String
  dir : Bool
  deriving DecidableEq

/-- `Data::FileTransferLog` -/
structure FileTransferLog where
  action : String
  log : FileActionLog
  deriving DecidableEq

/-- A removal that waits to be reported, told apart by the number of calls before its own. -/
structure Pending (Removal : Type) where
  removal : Removal
  place : Nat
  deriving DecidableEq

/-- `FileRemoveLogControl`, with the number of its calls. -/
structure FileRemoveLogControl where
  connId : Int
  instant : Nat
  removedFiles : List (Pending FileRemoveFile)
  removedDirs : List (Pending FileRemoveDir)
  calls : Nat
  deriving DecidableEq

/-- A call of the log, with the time in milliseconds. -/
inductive RemoveCall
  | onRemoveFile (now : Nat) (file : FileRemoveFile)
  | onRemoveDir (now : Nat) (dir : FileRemoveDir)
  deriving DecidableEq

/-- The path that a call is about. -/
def RemoveCall.path : RemoveCall → String
  | .onRemoveFile _ file => file.path
  | .onRemoveDir _ dir => dir.path

variable (style : Path.Style)

/-- `direct_child` -/
def directChild (parent child : String) : Bool :=
  Path.parent (Path.components style child) = some (Path.components style parent)

namespace FileRemoveLogControl

/-- `FileRemoveLogControl::new` -/
def new (connId : Int) (now : Nat) : FileRemoveLogControl :=
  { connId, instant := now, removedFiles := [], removedDirs := [], calls := 0 }

/-- The report of a removed file. -/
def fileLog (control : FileRemoveLogControl) (file : FileRemoveFile) : FileTransferLog :=
  ⟨"remove", { id := file.id, connId := control.connId, path := file.path, dir := false }⟩

/-- The report of a removed directory. -/
def dirLog (control : FileRemoveLogControl) (dir : FileRemoveDir) : FileTransferLog :=
  ⟨"remove", { id := dir.id, connId := control.connId, path := dir.path, dir := true }⟩

/-- `on_remove_file` -/
def onRemoveFile (now : Nat) (file : FileRemoveFile) (control : FileRemoveLogControl) :
    FileRemoveLogControl × Option FileTransferLog :=
  ({ control with
      instant := now
      removedFiles := control.removedFiles ++ [⟨file, control.calls⟩]
      calls := control.calls + 1 },
    some (control.fileLog file))

/-- `on_remove_dir` -/
def onRemoveDir (now : Nat) (dir : FileRemoveDir) (control : FileRemoveLogControl) :
    FileRemoveLogControl × Option FileTransferLog :=
  let removedFiles := control.removedFiles.filter fun file =>
    !directChild style file.removal.path dir.path
  let removedDirs := control.removedDirs.filter fun other =>
    !directChild style dir.path other.removal.path
  let removedDirs :=
    if removedDirs.any fun other => directChild style other.removal.path dir.path then removedDirs
    else removedDirs ++ [⟨dir, control.calls⟩]
  ({ control with instant := now, removedFiles, removedDirs, calls := control.calls + 1 },
    some (control.dirLog dir))

/-- `on_timer` -/
def onTimer (now : Nat) (control : FileRemoveLogControl) :
    FileRemoveLogControl × List FileTransferLog :=
  if (now - control.instant) / 1000 < 1 then (control, [])
  else
    ({ control with removedFiles := [], removedDirs := [] },
      control.removedFiles.map (fun file => control.fileLog file.removal) ++
        control.removedDirs.map fun dir => control.dirLog dir.removal)

/-- One call. -/
def step (control : FileRemoveLogControl) : RemoveCall → FileRemoveLogControl
  | .onRemoveFile now file => (control.onRemoveFile now file).1
  | .onRemoveDir now dir => (control.onRemoveDir style now dir).1

/-- A path is still pending. -/
def IsPending (control : FileRemoveLogControl) (path : String) : Prop :=
  (∃ file ∈ control.removedFiles,
    Path.components style path = Path.components style file.removal.path) ∨
  ∃ dir ∈ control.removedDirs,
    Path.components style path = Path.components style dir.removal.path

end FileRemoveLogControl

/-- A file is removed by the call at a place. -/
def RemovesFile (calls : List RemoveCall) (place : Nat) (file : FileRemoveFile) : Prop :=
  ∃ now, calls[place]? = some (.onRemoveFile now file)

/-- A directory is removed by the call at a place. -/
def RemovesDir (calls : List RemoveCall) (place : Nat) (dir : FileRemoveDir) : Prop :=
  ∃ now, calls[place]? = some (.onRemoveDir now dir)

/-- The log as it is meant to be: nothing pending is a direct child of a directory that was removed
after it, and every removed path is pending unless it is inside a pending directory. -/
structure Topmost (calls : List RemoveCall) (control : FileRemoveLogControl) : Prop where
  files : ∀ file ∈ control.removedFiles, ∀ later dir, file.place < later →
    RemovesDir calls later dir → directChild style dir.path file.removal.path = false
  dirs : ∀ inner ∈ control.removedDirs, ∀ later dir, inner.place < later →
    RemovesDir calls later dir → directChild style dir.path inner.removal.path = false
  kept : ∀ call ∈ calls,
    (¬∃ dir ∈ control.removedDirs,
      Path.Inside (Path.components style call.path) (Path.components style dir.removal.path)) →
    control.IsPending style call.path

/-- A directory directly below the path of a file is removed after it. -/
def Overridden (calls : List RemoveCall) (place : Nat) (file : FileRemoveFile) : Prop :=
  ∃ later dir, place < later ∧ RemovesDir calls later dir ∧
    directChild style file.path dir.path = true

/-- The directory of a file is removed after it. -/
def Outlived (calls : List RemoveCall) (place : Nat) (file : FileRemoveFile) : Prop :=
  ∃ later dir, place < later ∧ RemovesDir calls later dir ∧
    directChild style dir.path file.path = true

/-- The calls in which the exchanged paths do no harm: a file is dropped from the log where its
directory is removed after it, and only where it is in a removed directory or removed again. -/
def Harmless (calls : List RemoveCall) : Prop :=
  ∀ place file, RemovesFile calls place file →
    (Outlived style calls place file → Overridden style calls place file) ∧
    (Overridden style calls place file →
      (∃ other dir, RemovesDir calls other dir ∧
        Path.Within (Path.components style file.path) (Path.components style dir.path)) ∨
      ∃ again other, RemovesFile calls again other ∧
        Path.components style file.path = Path.components style other.path ∧
        ¬Overridden style calls again other)

section

variable {calls : List RemoveCall} {call : RemoveCall} {place : Nat}

theorem getElem?_concat_eq_some (other : RemoveCall) :
    (calls ++ [call])[place]? = some other ↔
      calls[place]? = some other ∨ place = calls.length ∧ call = other := by
  rw [List.getElem?_append]
  split
  case isTrue inside => simp [Nat.ne_of_lt inside]
  case isFalse outside =>
    have absent : calls[place]? = none := List.getElem?_eq_none (Nat.le_of_not_lt outside)
    rw [absent, List.getElem?_singleton]
    split
    case isTrue same => simp [show place = calls.length by omega]
    case isFalse different => simp [show place ≠ calls.length by omega]

theorem removesFile_concat (file : FileRemoveFile) :
    RemovesFile (calls ++ [call]) place file ↔
      RemovesFile calls place file ∨
        place = calls.length ∧ ∃ now, call = .onRemoveFile now file := by
  simp only [RemovesFile, getElem?_concat_eq_some, exists_or, exists_and_left]

theorem removesDir_concat (dir : FileRemoveDir) :
    RemovesDir (calls ++ [call]) place dir ↔
      RemovesDir calls place dir ∨
        place = calls.length ∧ ∃ now, call = .onRemoveDir now dir := by
  simp only [RemovesDir, getElem?_concat_eq_some, exists_or, exists_and_left]

theorem RemovesFile.lt_length
    {file : FileRemoveFile}
    (removes : RemovesFile calls place file) :
    place < calls.length := by
  obtain ⟨now, is⟩ := removes
  exact (List.getElem?_eq_some_iff.mp is).1

theorem RemovesDir.lt_length
    {dir : FileRemoveDir}
    (removes : RemovesDir calls place dir) :
    place < calls.length := by
  obtain ⟨now, is⟩ := removes
  exact (List.getElem?_eq_some_iff.mp is).1

/-- The removal of another file overrides nothing. -/
theorem overridden_file
    (now : Nat)
    (other file : FileRemoveFile) :
    Overridden style (calls ++ [.onRemoveFile now other]) place file ↔
      Overridden style calls place file := by
  simp [Overridden, removesDir_concat]

theorem overridden_dir
    (early : place < calls.length)
    (now : Nat)
    (dir : FileRemoveDir)
    (file : FileRemoveFile) :
    Overridden style (calls ++ [.onRemoveDir now dir]) place file ↔
      Overridden style calls place file ∨ directChild style file.path dir.path = true := by
  unfold Overridden
  constructor
  · rintro ⟨later, other, after, removes, below⟩
    rcases (removesDir_concat other).mp removes with before | ⟨-, _, same⟩
    · exact .inl ⟨later, other, after, before, below⟩
    · obtain ⟨-, rfl⟩ := RemoveCall.onRemoveDir.inj same
      exact .inr below
  · rintro (⟨later, other, after, removes, below⟩ | below)
    · exact ⟨later, other, after, (removesDir_concat other).mpr (.inl removes), below⟩
    · exact ⟨calls.length, dir, early, (removesDir_concat dir).mpr (.inr ⟨rfl, now, rfl⟩), below⟩

/-- What comes last is not overridden. -/
theorem not_overridden_length (file : FileRemoveFile) :
    ¬Overridden style calls calls.length file := by
  rintro ⟨later, dir, after, removes, -⟩
  exact absurd removes.lt_length (Nat.not_lt.mpr (Nat.le_of_lt after))

end

/-- A removed directory is another one or lies inside it. -/
def LiesWithin (inner outer : Pending FileRemoveDir) : Prop :=
  Path.Within (Path.components style inner.removal.path)
    (Path.components style outer.removal.path)

/-- What the log holds after some calls. -/
structure Follows (calls : List RemoveCall) (control : FileRemoveLogControl) : Prop where
  count : control.calls = calls.length
  files : ∀ file, file ∈ control.removedFiles ↔
    RemovesFile calls file.place file.removal ∧ ¬Overridden style calls file.place file.removal
  isDir : ∀ dir ∈ control.removedDirs, RemovesDir calls dir.place dir.removal
  dirs : ∀ inner ∈ control.removedDirs, ∀ later dir, inner.place < later →
    RemovesDir calls later dir → directChild style dir.path inner.removal.path = false
  covered : ∀ dir : Pending FileRemoveDir, RemovesDir calls dir.place dir.removal →
    Covered (LiesWithin style) dir control.removedDirs

variable {style}

theorem inside_of_directChild
    {parent child : String}
    (isChild : directChild style parent child = true) :
    Path.Inside (Path.components style child) (Path.components style parent) :=
  .of_parent (of_decide_eq_true isChild)

theorem liesWithin_of_directChild
    (above below : Pending FileRemoveDir)
    (isChild : directChild style above.removal.path below.removal.path = true) :
    LiesWithin style below above :=
  .inr (inside_of_directChild isChild)

theorem liesWithin_trans
    (low middle high : Pending FileRemoveDir)
    (first : LiesWithin style low middle)
    (second : LiesWithin style middle high) :
    LiesWithin style low high :=
  Path.Within.trans first second

namespace Follows

variable {calls : List RemoveCall} {control : FileRemoveLogControl}

theorem new
    (connId : Int)
    (now : Nat) :
    Follows style [] (.new connId now) where
  count := rfl
  files file := by simp [FileRemoveLogControl.new, RemovesFile]
  isDir _ absent := absurd absent List.not_mem_nil
  dirs _ absent := absurd absent List.not_mem_nil
  covered dir removes := by simp [RemovesDir] at removes

theorem onRemoveFile
    (follows : Follows style calls control)
    (now : Nat)
    (file : FileRemoveFile) :
    Follows style (calls ++ [.onRemoveFile now file]) (control.onRemoveFile now file).1 := by
  have sameDirs (place : Nat) (dir : FileRemoveDir) :
      RemovesDir (calls ++ [.onRemoveFile now file]) place dir ↔ RemovesDir calls place dir := by
    simp [removesDir_concat]
  constructor
  · simp [FileRemoveLogControl.onRemoveFile, follows.count]
  · intro pending
    rw [overridden_file, removesFile_concat, or_and_right, ← follows.files]
    simp only [FileRemoveLogControl.onRemoveFile, List.mem_append, List.mem_singleton]
    refine or_congr_right ?_
    constructor
    · rintro rfl
      rw [follows.count]
      exact ⟨⟨rfl, now, rfl⟩, not_overridden_length style file⟩
    · rintro ⟨⟨isLast, _, same⟩, -⟩
      obtain ⟨-, rfl⟩ := RemoveCall.onRemoveFile.inj same
      rw [follows.count, ← isLast]
  · intro dir member
    exact (sameDirs dir.place dir.removal).mpr (follows.isDir dir member)
  · intro inner member later dir after removes
    exact follows.dirs inner member later dir after ((sameDirs later dir).mp removes)
  · intro dir removes
    exact follows.covered dir ((sameDirs dir.place dir.removal).mp removes)

theorem removedDirs_onRemoveDir
    (now : Nat)
    (dir : FileRemoveDir) :
    (control.onRemoveDir style now dir).1.removedDirs =
      putTopmost
        (fun above below => directChild style above.removal.path below.removal.path)
        ⟨dir, control.calls⟩ control.removedDirs := rfl

theorem onRemoveDir
    (follows : Follows style calls control)
    (now : Nat)
    (dir : FileRemoveDir) :
    Follows style (calls ++ [.onRemoveDir now dir]) (control.onRemoveDir style now dir).1 := by
  constructor
  · simp [FileRemoveLogControl.onRemoveDir, follows.count]
  · intro pending
    have sameFiles : RemovesFile (calls ++ [.onRemoveDir now dir]) pending.place pending.removal ↔
        RemovesFile calls pending.place pending.removal := by
      simp [removesFile_concat]
    rw [sameFiles]
    simp only [FileRemoveLogControl.onRemoveDir, List.mem_filter, Bool.not_eq_true',
      follows.files, and_assoc]
    refine and_congr_right fun removes => ?_
    rw [overridden_dir style removes.lt_length, not_or, Bool.not_eq_true]
  · intro inner member
    rw [removedDirs_onRemoveDir] at member
    rw [removesDir_concat]
    rcases mem_putTopmost member with rfl | ⟨old, -⟩
    · exact .inr ⟨follows.count, now, rfl⟩
    · exact .inl (follows.isDir inner old)
  · intro inner member later other after removes
    rw [removedDirs_onRemoveDir] at member
    rcases mem_putTopmost member with rfl | ⟨old, notBelow⟩
    · -- nothing is removed after the last call
      have inside := removes.lt_length
      rw [List.length_append, List.length_singleton, ← follows.count] at inside
      exact absurd after (Nat.not_lt.mpr (Nat.le_of_lt_succ inside))
    · rcases (removesDir_concat other).mp removes with before | ⟨-, _, same⟩
      · exact follows.dirs inner old later other after before
      · obtain ⟨-, rfl⟩ := RemoveCall.onRemoveDir.inj same
        exact notBelow
  · intro inner removes
    rw [removedDirs_onRemoveDir]
    rcases (removesDir_concat inner.removal).mp removes with before | ⟨isLast, _, same⟩
    · exact (follows.covered inner before).putTopmost (fun _ => .inl rfl) liesWithin_trans
        liesWithin_of_directChild _
    · obtain ⟨-, rfl⟩ := RemoveCall.onRemoveDir.inj same
      have last : inner = ⟨inner.removal, control.calls⟩ := by
        rw [follows.count, ← isLast]
      rw [last]
      exact covered_putTopmost_self (fun _ => .inl rfl) liesWithin_of_directChild _ _

theorem run
    (connId : Int)
    (now : Nat)
    (calls : List RemoveCall) :
    Follows style calls
      (run (FileRemoveLogControl.step style) (.new connId now) calls) := by
  induction calls using List.reverseRecOn with
  | nil => exact .new connId now
  | append_singleton calls call inductionHypothesis =>
      rw [run_concat]
      cases call with
      | onRemoveFile now file => exact inductionHypothesis.onRemoveFile now file
      | onRemoveDir now dir => exact inductionHypothesis.onRemoveDir now dir

/-- A path at or inside a removed directory is pending or inside a pending directory. -/
theorem isPending_or_inside
    (follows : Follows style calls control)
    {place : Nat}
    {dir : FileRemoveDir}
    (removes : RemovesDir calls place dir)
    {path : String}
    (within : Path.Within (Path.components style path) (Path.components style dir.path)) :
    control.IsPending style path ∨ ∃ dir ∈ control.removedDirs,
      Path.Inside (Path.components style path) (Path.components style dir.removal.path) := by
  obtain ⟨above, member, liesWithin⟩ := follows.covered ⟨dir, place⟩ removes
  rcases within.trans liesWithin with same | inside
  · exact .inl (.inr ⟨above, member, same⟩)
  · exact .inr ⟨above, member, inside⟩

theorem harmless_of_topmost
    (follows : Follows style calls control)
    (topmost : Topmost style calls control) :
    Harmless style calls := by
  intro place file removes
  constructor
  · rintro ⟨later, dir, after, removesDir, isChild⟩
    by_contra notOverridden
    have pending : ⟨file, place⟩ ∈ control.removedFiles :=
      (follows.files ⟨file, place⟩).mpr ⟨removes, notOverridden⟩
    have notChild := topmost.files ⟨file, place⟩ pending later dir after removesDir
    rw [isChild] at notChild
    cases notChild
  · intro _
    obtain ⟨now, is⟩ := removes
    have kept := topmost.kept _ (List.mem_of_getElem? is)
    by_cases isInside : ∃ dir ∈ control.removedDirs,
        Path.Inside (Path.components style file.path) (Path.components style dir.removal.path)
    · obtain ⟨dir, member, inside⟩ := isInside
      exact .inl ⟨dir.place, dir.removal, follows.isDir dir member, .inr inside⟩
    · rcases kept isInside with ⟨other, member, same⟩ | ⟨dir, member, same⟩
      · obtain ⟨removesOther, notOverridden⟩ := (follows.files other).mp member
        exact .inr ⟨other.place, other.removal, removesOther, same, notOverridden⟩
      · exact .inl ⟨dir.place, dir.removal, follows.isDir dir member, .inl same⟩

theorem topmost_of_harmless
    (follows : Follows style calls control)
    (harmless : Harmless style calls) :
    Topmost style calls control where
  files := by
    intro file member later dir after removesDir
    obtain ⟨removes, notOverridden⟩ := (follows.files file).mp member
    rw [← Bool.not_eq_true]
    intro isChild
    exact notOverridden
      ((harmless file.place file.removal removes).1 ⟨later, dir, after, removesDir, isChild⟩)
  dirs := follows.dirs
  kept := by
    intro call member notInside
    obtain ⟨place, is⟩ := List.mem_iff_getElem?.mp member
    cases call with
    | onRemoveFile now file =>
        have pending {again : Nat} {other : FileRemoveFile}
            (removes : RemovesFile calls again other)
            (same : Path.components style file.path = Path.components style other.path)
            (notOverridden : ¬Overridden style calls again other) :
            control.IsPending style file.path :=
          .inl ⟨⟨other, again⟩, (follows.files _).mpr ⟨removes, notOverridden⟩, same⟩
        by_cases overridden : Overridden style calls place file
        · rcases (harmless place file ⟨now, is⟩).2 overridden with
            ⟨other, dir, removes, within⟩ | ⟨again, other, removes, same, notOverridden⟩
          · exact (follows.isPending_or_inside removes within).resolve_right notInside
          · exact pending removes same notOverridden
        · exact pending ⟨now, is⟩ rfl overridden
    | onRemoveDir now dir =>
        exact (follows.isPending_or_inside ⟨now, is⟩ (.inl rfl)).resolve_right notInside

end Follows

variable (style) in
/-- After any calls the log holds what it is meant to hold exactly if the exchanged paths do no
harm: no file is outlived by its directory without being overridden, and no file is overridden that
is not in a removed directory or removed again. -/
theorem topmost_iff_harmless
    (connId : Int)
    (now : Nat)
    (calls : List RemoveCall) :
    Topmost style calls (run (FileRemoveLogControl.step style) (.new connId now) calls) ↔
      Harmless style calls :=
  ⟨(Follows.run connId now calls).harmless_of_topmost,
    (Follows.run connId now calls).topmost_of_harmless⟩

/-- A file and then its directory are removed, and the file stays pending. -/
theorem removed_file_stays :
    ¬Topmost .unix [.onRemoveFile 0 ⟨1, "/a/x"⟩, .onRemoveDir 0 ⟨2, "/a"⟩]
      (run (FileRemoveLogControl.step .unix) (.new 7 0)
        [.onRemoveFile 0 ⟨1, "/a/x"⟩, .onRemoveDir 0 ⟨2, "/a"⟩]) := by
  intro topmost
  have notChild := topmost.files ⟨⟨1, "/a/x"⟩, 0⟩ (by decide) 1 ⟨2, "/a"⟩ (by decide) ⟨0, rfl⟩
  exact absurd notChild (by decide)

end Server
end OneDesk
