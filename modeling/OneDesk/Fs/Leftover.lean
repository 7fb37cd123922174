import OneDesk.Fs.EndToEnd

/-!
# What an interrupted transfer left

A download with the digest of the file on offer beside it is gone on with.  The
check of a digest finds exactly these, and compares the file itself otherwise.
-/

namespace OneDesk
namespace Fs

open Lib

variable {Location : Type} {os : Os Location} {codec : Codec}

/-- The length of the download that an interrupted transfer of the file on offer left. -/
def keptLength
    (os : Os Location)
    (codec : Codec)
    (disk : Disk Location)
    (path : String)
    (digest : FileTransferDigest) : Nat :=
  match fileAt os disk (digestOf path), fileAt os disk (downloadOf path) with
  | some kept, some download =>
      if codec.fromStr kept.bytes = some ⟨digest.fileSize, digest.lastModified⟩ then
        download.bytes.length
      else 0
  | _, _ => 0

/-- What is left has a download and a digest. -/
theorem keptLength_pos
    {disk : Disk Location}
    {path : String}
    {digest : FileTransferDigest}
    (left : 0 < keptLength os codec disk path digest) :
    ∃ kept download, fileAt os disk (digestOf path) = some kept ∧
      fileAt os disk (downloadOf path) = some download ∧
      keptLength os codec disk path digest = download.bytes.length := by
  unfold keptLength at left ⊢
  split at left
  · next kept download isKept isDownload =>
      split at left
      · next same => exact ⟨kept, download, isKept, isDownload, if_pos same⟩
      · omega
  · omega

variable [DecidableEq Location] {volume : Volume String Location}

theorem metadata_steady
    (steady : Steady os)
    (volume : Volume String Location)
    (path : String) :
    (metadata os volume path).1 = fileAt os volume.disk path ∧
      (metadata os volume path).2.disk = volume.disk := by
  have same : (metadata os volume path).2.disk = volume.disk := perform_stat_disk ..
  refine ⟨?_, same⟩
  unfold metadata fileAt
  dsimp only
  cases located : os.locate path with
  | none => split <;> rfl
  | some location =>
      have looked : (perform os.toHost volume (.stat path)).2.disk = volume.disk :=
        perform_stat_disk ..
      rw [perform_stat os volume steady located]
      cases named : volume.disk.names location with
      | none => simp [Disk.file, named]
      | some inode => simp [looked]

/-- The check finds exactly what is left. -/
theorem resumable_steady
    (steady : Steady os)
    (codec : Codec)
    (volume : Volume String Location)
    (path : String)
    (digest : FileTransferDigest) :
    (resumable os codec path digest volume).1 =
      if 0 < keptLength os codec volume.disk path digest then
        some { digest with
          isUpload := false
          isIdentical := true
          transferredSize := keptLength os codec volume.disk path digest
          isResume := false }
      else none := by
  obtain ⟨kept, sameKept⟩ := metadata_steady steady volume (digestOf path)
  obtain ⟨download, _⟩ := metadata_steady steady
    (metadata os volume (digestOf path)).2 (downloadOf path)
  rw [sameKept] at download
  rcases Option.eq_none_or_eq_some (fileAt os volume.disk (digestOf path)) with
      noDigest | ⟨keptFile, isKept⟩
  · simp [resumable, kept, keptLength, noDigest]
  · rcases Option.eq_none_or_eq_some (fileAt os volume.disk (downloadOf path)) with
        noDownload | ⟨downloadFile, isDownload⟩
    · simp [resumable, kept, download, keptLength, isKept, noDownload]
    · rcases Option.eq_none_or_eq_some (codec.fromStr keptFile.bytes) with
          unreadable | ⟨⟨size, modified⟩, parsed⟩
      · simp [resumable, kept, download, keptLength, isKept, isDownload, unreadable]
      · by_cases same : modified = digest.lastModified ∧ size = digest.fileSize
        · obtain ⟨rfl, rfl⟩ := same
          by_cases left : 0 < downloadFile.bytes.length
          · simp [resumable, kept, download, keptLength, isKept, isDownload, parsed, left]
          · simp [resumable, kept, download, keptLength, isKept, isDownload, parsed, left]
        · have differs : ¬(size = digest.fileSize ∧ modified = digest.lastModified) :=
            fun both => same both.symm
          have unequal : ¬(modified = digest.lastModified ∧ size = digest.fileSize ∧
              0 < downloadFile.bytes.length) := fun all => same ⟨all.1, all.2.1⟩
          simp [resumable, kept, download, keptLength, isKept, isDownload, parsed, differs,
            unequal]

/-- What the check of a digest can come to. -/
theorem isWriteNeedConfirmation_cases
    (steady : Steady os)
    (codec : Codec)
    (volume : Volume String Location)
    (isResume : Bool)
    (path : String)
    (digest : FileTransferDigest) :
    (isWriteNeedConfirmation os codec isResume path digest volume).2.disk = volume.disk ∧
      ((isResume = true ∧ 0 < keptLength os codec volume.disk path digest ∧
          ∃ found, (isWriteNeedConfirmation os codec isResume path digest volume).1 =
              .ok (.needConfirm found) ∧
            found.id = digest.id ∧ found.fileNum = digest.fileNum ∧ found.isIdentical = true ∧
            found.transferredSize = keptLength os codec volume.disk path digest) ∨
        (isWriteNeedConfirmation os codec isResume path digest volume).1 = .ok .noSuchFile ∨
        (∃ error, (isWriteNeedConfirmation os codec isResume path digest volume).1 =
          .error error) ∨
        ∃ found, (isWriteNeedConfirmation os codec isResume path digest volume).1 =
            .ok (.needConfirm found) ∧
          found.id = digest.id ∧ found.fileNum = digest.fileNum ∧ found.transferredSize = 0) := by
  have compared : ∀ volume : Volume String Location,
      (compareFile os path digest volume).1 = .ok .noSuchFile ∨
        (∃ error, (compareFile os path digest volume).1 = .error error) ∨
        ∃ found, (compareFile os path digest volume).1 = .ok (.needConfirm found) ∧
          found.id = digest.id ∧ found.fileNum = digest.fileNum ∧ found.transferredSize = 0 := by
    intro volume
    unfold compareFile
    dsimp only
    split
    · exact .inl rfl
    · split
      · exact .inr (.inl ⟨_, rfl⟩)
      · exact .inr (.inr ⟨_, rfl, rfl, rfl, rfl⟩)
  have kept := resumable_steady steady codec volume path digest
  have sameKept := resumable_disk os codec volume path digest
  unfold isWriteNeedConfirmation
  dsimp only
  cases isResume with
  | false => exact ⟨compareFile_disk .., .inr (compared volume)⟩
  | true =>
      rw [if_pos rfl, kept]
      by_cases left : 0 < keptLength os codec volume.disk path digest
      · rw [if_pos left]
        exact ⟨sameKept, .inl ⟨rfl, left, _, rfl, rfl, rfl, rfl, rfl⟩⟩
      · rw [if_neg left]
        exact ⟨(compareFile_disk ..).trans sameKept, .inr (compared _)⟩


end Fs
end OneDesk
