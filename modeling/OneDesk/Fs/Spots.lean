import OneDesk.Fs.Frame

/-!
# The files of a job

Each entry of a job has three files: the final one, the download and the
digest.  This module names their locations and says when the locations of a
job are all different.
-/

namespace OneDesk
namespace Fs

open Lib

theorem extension_download : Path.Extension ".download".toList :=
  ⟨by decide, by decide, by simp [Path.Style.isSeparator]⟩

theorem extension_digest : Path.Extension ".digest".toList :=
  ⟨by decide, by decide, by simp [Path.Style.isSeparator]⟩

theorem downloadOf_ne_digestOf (one other : String) : downloadOf one ≠ digestOf other := by
  intro same
  have last := congrArg (fun text => text.toList.getLast?) same
  simp [downloadOf, digestOf] at last

theorem downloadOf_injective {one other : String} (same : downloadOf one = downloadOf other) :
    one = other :=
  String.append_left_inj ".download" |>.mp same

theorem digestOf_injective {one other : String} (same : digestOf one = digestOf other) :
    one = other :=
  String.append_left_inj ".digest" |>.mp same

variable {Location : Type} [DecidableEq Location]

/-- The three files that belong to an entry of a job. -/
inductive Role where
  | final
  | download
  | digest
  deriving DecidableEq

/-- The path of a file of an entry. -/
def Role.text (path : String) : Role → String
  | .final => path
  | .download => downloadOf path
  | .digest => digestOf path

/-- The location of a file of a job. -/
def spot (os : Os Location) (job : TransferJob) (role : Role) (number : Nat) : Option Location :=
  (job.files[number]?).bind fun entry => os.locate (role.text (job.pathOf os.style entry))

/-- The paths of a job name files, and no file is named twice. -/
structure Separate (os : Os Location) (job : TransferJob) : Prop where
  located : ∀ entry ∈ job.files, ∀ role : Role,
    ∃ location, os.locate (role.text (job.pathOf os.style entry)) = some location
  distinct : ∀ role otherRole number otherNumber location,
    spot os job role number = some location →
    spot os job otherRole otherNumber = some location →
    role = otherRole ∧ number = otherNumber

/-- The locations of a file and of its two working files. -/
structure Spots (os : Os Location) (path : String) (final download digest : Location) : Prop where
  final_located : os.locate path = some final
  download_located : os.locate (downloadOf path) = some download
  digest_located : os.locate (digestOf path) = some digest
  final_ne_download : final ≠ download
  final_ne_digest : final ≠ digest
  download_ne_digest : download ≠ digest

section Spots

variable {os : Os Location} {job : TransferJob}

theorem spot_eq_some
    {role : Role}
    {number : Nat}
    {location : Location} :
    spot os job role number = some location ↔
      ∃ entry, job.files[number]? = some entry ∧
        os.locate (role.text (job.pathOf os.style entry)) = some location :=
  Option.bind_eq_some_iff

/-- The locations of a job do not depend on its state. -/
theorem TransferJob.SameSetup.spot_eq
    {after : TransferJob}
    (same : TransferJob.SameSetup job after)
    (role : Role)
    (number : Nat) :
    spot os after role number = spot os job role number := by
  simp only [spot, same.files, same.pathOf_eq]

theorem Separate.of_setup
    {after : TransferJob}
    (separate : Separate os job)
    (same : TransferJob.SameSetup job after) :
    Separate os after := by
  constructor
  · intro entry member role
    rw [same.pathOf_eq]
    exact separate.located entry (same.files ▸ member) role
  · intro role otherRole number otherNumber location
    rw [same.spot_eq, same.spot_eq]
    exact separate.distinct role otherRole number otherNumber location

/-- Each entry of a job has its three locations. -/
theorem Separate.spots
    (separate : Separate os job)
    {number : Nat}
    {entry : FileEntry}
    (found : job.files[number]? = some entry) :
    ∃ final download digest,
      spot os job .final number = some final ∧
      spot os job .download number = some download ∧
      spot os job .digest number = some digest ∧
      Spots os (job.pathOf os.style entry) final download digest := by
  have member := List.mem_of_getElem? found
  obtain ⟨final, finalLocated⟩ := separate.located entry member .final
  obtain ⟨download, downloadLocated⟩ := separate.located entry member .download
  obtain ⟨digest, digestLocated⟩ := separate.located entry member .digest
  have finalSpot : spot os job .final number = some final :=
    spot_eq_some.mpr ⟨entry, found, finalLocated⟩
  have downloadSpot : spot os job .download number = some download :=
    spot_eq_some.mpr ⟨entry, found, downloadLocated⟩
  have digestSpot : spot os job .digest number = some digest :=
    spot_eq_some.mpr ⟨entry, found, digestLocated⟩
  refine ⟨final, download, digest, finalSpot, downloadSpot, digestSpot,
    finalLocated, downloadLocated, digestLocated, ?_, ?_, ?_⟩
  · rintro rfl
    cases (separate.distinct _ _ _ _ _ finalSpot downloadSpot).1
  · rintro rfl
    cases (separate.distinct _ _ _ _ _ finalSpot digestSpot).1
  · rintro rfl
    cases (separate.distinct _ _ _ _ _ downloadSpot digestSpot).1

/-- Locations with different roles or numbers differ. -/
theorem Separate.ne
    (separate : Separate os job)
    {role otherRole : Role}
    {number otherNumber : Nat}
    {location other : Location}
    (here : spot os job role number = some location)
    (there : spot os job otherRole otherNumber = some other)
    (differ : role ≠ otherRole ∨ number ≠ otherNumber) :
    location ≠ other := by
  rintro rfl
  obtain ⟨sameRole, sameNumber⟩ := separate.distinct _ _ _ _ _ here there
  rcases differ with roles | numbers
  · exact roles sameRole
  · exact numbers sameNumber

end Spots

section Names

/-- The names of the files of a job differ, also once an extension is appended to one. -/
structure NamesApart (files : List FileEntry) : Prop where
  nodup : (files.map FileEntry.name).Nodup
  extended : ∀ one ∈ files, ∀ other ∈ files,
    one.name ≠ downloadOf other.name ∧ one.name ≠ digestOf other.name

/-- The system tells the paths of a job apart. -/
structure Discerns (os : Os Location) (job : TransferJob) : Prop where
  located : ∀ entry ∈ job.files, ∀ role : Role,
    ∃ location, os.locate (role.text (job.pathOf os.style entry)) = some location
  injective : ∀ one ∈ job.files, ∀ other ∈ job.files, ∀ role otherRole : Role,
    os.locate (role.text (job.pathOf os.style one)) =
      os.locate (otherRole.text (job.pathOf os.style other)) →
    role.text (job.pathOf os.style one) = otherRole.text (job.pathOf os.style other)

variable {style : Path.Style} {base : String}

theorem join_toList
    {name : String}
    (appends : name ≠ "" → Path.Appends style base name) :
    (join style base name).toList =
      base.toList ++ (if name = "" then [] else Path.joint style base.toList) ++ name.toList := by
  by_cases empty : name = ""
  · subst empty
    simp [join]
  · have notEmpty : name.isEmpty = false := by simpa [String.isEmpty_iff] using empty
    simp only [join, notEmpty, Bool.false_eq_true, if_false, empty]
    exact appends empty

/-- Names that are appended lead to different paths. -/
theorem join_injective
    {one other : String}
    (oneAppends : one ≠ "" → Path.Appends style base one)
    (otherAppends : other ≠ "" → Path.Appends style base other)
    (same : join style base one = join style base other) :
    one = other := by
  have lists := congrArg String.toList same
  rw [join_toList oneAppends, join_toList otherAppends] at lists
  by_cases oneEmpty : one = ""
  · by_cases otherEmpty : other = ""
    · rw [oneEmpty, otherEmpty]
    · exact absurd (by simpa [oneEmpty, otherEmpty] using lists) otherEmpty
  · by_cases otherEmpty : other = ""
    · exact absurd (by simpa [oneEmpty, otherEmpty] using lists) oneEmpty
    · exact String.toList_inj.mp (by simpa [oneEmpty, otherEmpty] using lists)

/-- A path is another one with an extension only if the names are. -/
theorem join_eq_append
    {one other extension : String}
    (oneAppends : one ≠ "" → Path.Appends style base one)
    (otherAppends : other ≠ "" → Path.Appends style base other)
    (valid : Path.Extension extension.toList)
    (same : join style base one = join style base other ++ extension) :
    one = other ++ extension := by
  have lists := congrArg String.toList same
  rw [String.toList_append, join_toList oneAppends, join_toList otherAppends] at lists
  have long := valid.long
  refine String.toList_inj.mp ?_
  rw [String.toList_append]
  by_cases oneEmpty : one = ""
  · have lengths := congrArg List.length lists
    simp only [oneEmpty, if_true, List.length_append, String.toList_empty,
      List.length_nil] at lengths
    omega
  · by_cases otherEmpty : other = ""
    · -- a separator before the name is not the dot of the extension
      simp only [oneEmpty, otherEmpty, if_true, if_false, List.append_assoc, String.toList_empty,
        List.nil_append, List.append_cancel_left_eq] at lists
      rcases Path.joint_cases style base.toList with none | ⟨separator, some, separates⟩
      · simpa [none, otherEmpty] using lists
      · rw [some] at lists
        have inside : separator ∈ extension.toList := by
          rw [← lists]
          exact List.mem_cons_self
        rw [valid.plain separator inside] at separates
        cases separates
    · simpa [oneEmpty, otherEmpty] using lists

/-- The locations of a job are different if its names are and the system tells paths apart. -/
theorem separate_of_names
    {os : Os Location}
    {job : TransferJob}
    (apart : NamesApart job.files)
    (appends : ∀ entry ∈ job.files, entry.name ≠ "" →
      Path.Appends os.style job.dataSource entry.name)
    (discerns : Discerns os job) :
    Separate os job := by
  refine ⟨discerns.located, ?_⟩
  intro role otherRole number otherNumber location here there
  obtain ⟨one, oneFound, oneLocated⟩ := spot_eq_some.mp here
  obtain ⟨other, otherFound, otherLocated⟩ := spot_eq_some.mp there
  have oneMember := List.mem_of_getElem? oneFound
  have otherMember := List.mem_of_getElem? otherFound
  have same := discerns.injective one oneMember other otherMember role otherRole
    (oneLocated.trans otherLocated.symm)
  have numbers : job.pathOf os.style one = job.pathOf os.style other → number = otherNumber := by
    intro samePath
    have sameName : one.name = other.name :=
      join_injective (appends one oneMember) (appends other otherMember) samePath
    have inside : number < (job.files.map FileEntry.name).length := by
      rw [List.length_map]
      exact (List.getElem?_eq_some_iff.mp oneFound).1
    refine (List.getElem?_inj inside apart.nodup).mp ?_
    rw [List.getElem?_map, List.getElem?_map, oneFound, otherFound]
    simp [sameName]
  have notDownload : ∀ first ∈ job.files, ∀ second ∈ job.files,
      job.pathOf os.style first ≠ downloadOf (job.pathOf os.style second) := by
    intro first firstMember second secondMember samePath
    exact (apart.extended first firstMember second secondMember).1
      (join_eq_append (appends first firstMember) (appends second secondMember)
        extension_download samePath)
  have notDigest : ∀ first ∈ job.files, ∀ second ∈ job.files,
      job.pathOf os.style first ≠ digestOf (job.pathOf os.style second) := by
    intro first firstMember second secondMember samePath
    exact (apart.extended first firstMember second secondMember).2
      (join_eq_append (appends first firstMember) (appends second secondMember)
        extension_digest samePath)
  cases role with
  | final =>
      cases otherRole with
      | final => exact ⟨rfl, numbers same⟩
      | download => exact absurd same (notDownload one oneMember other otherMember)
      | digest => exact absurd same (notDigest one oneMember other otherMember)
  | download =>
      cases otherRole with
      | final => exact absurd same.symm (notDownload other otherMember one oneMember)
      | download => exact ⟨rfl, numbers (downloadOf_injective same)⟩
      | digest => exact absurd same (downloadOf_ne_digestOf _ _)
  | digest =>
      cases otherRole with
      | final => exact absurd same.symm (notDigest other otherMember one oneMember)
      | download => exact absurd same.symm (downloadOf_ne_digestOf _ _)
      | digest => exact ⟨rfl, numbers (digestOf_injective same)⟩

/-- A system that takes paths as they are written tells them apart. -/
theorem Os.plain_discerns
    {job : TransferJob}
    (names : ∀ entry ∈ job.files, ∀ role : Role,
      Path.namesFile style (role.text (job.pathOf style entry)) = true) :
    Discerns (Os.plain style) job := by
  have located : ∀ entry ∈ job.files, ∀ role : Role,
      (Os.plain style).locate (role.text (job.pathOf style entry)) =
        some (role.text (job.pathOf style entry)) := by
    intro entry member role
    simp [Os.plain, names entry member role]
  refine ⟨fun entry member role => ⟨_, located entry member role⟩, ?_⟩
  intro one oneMember other otherMember role otherRole same
  rw [show (Os.plain style).style = style from rfl, located one oneMember role,
    located other otherMember otherRole] at same
  exact Option.some.inj same

end Names

end Fs
end OneDesk
