import OneDesk.Lib.Utf8

/-!
# Encrypted values

How `password_security.rs` writes a secret into a configuration file and reads
it again.  A value that is already encrypted is kept, one that is too long is
dropped, and one that cannot be encrypted is written as it is.  `Sealed` says
that a field of a file holds a value, and reading such a field is all that the
configurations need to know.
-/

namespace OneDesk
namespace Settings

open OneDesk.Lib

/-- A string as its characters. -/
abbrev Text := List Char

/-- A string of bytes. -/
abbrev Bytes := List UInt8

/-- The third-party primitives, and the machine's identifier they are keyed with. -/
structure Primitives where
  /-- `secretbox::seal` of data with a nonce and a key. -/
  sealBox : Bytes → Bytes → Bytes → Bytes
  /-- `secretbox::open` of data with a nonce and a key. -/
  openBox : Bytes → Bytes → Bytes → Option Bytes
  /-- `base64::encode` -/
  encode : Bytes → Text
  /-- `base64::decode` -/
  decode : Bytes → Option Bytes
  /-- `get_uuid` -/
  uuid : Bytes

/-- What the code relies on: both primitives round trip and lose no data. -/
structure Primitives.Lawful (p : Primitives) : Prop where
  openBox_sealBox : ∀ data nonce key,
    p.openBox (p.sealBox data nonce key) nonce key = some data
  sealBox_ne_nil : ∀ data nonce key, p.sealBox data nonce key ≠ []
  decode_encode : ∀ data, p.decode (utf8 (p.encode data)) = some data
  encode_ne_nil : ∀ data, data ≠ [] → p.encode data ≠ []

/-- Bytes of a `secretbox` key. -/
def keyBytes : Nat := 32

/-- Bytes of a `secretbox` nonce. -/
def nonceBytes : Nat := 24

/-- Bytes of the version in front of an encrypted value. -/
def versionLen : Nat := 2

/-- The version this code encrypts with. -/
def passwordEncVersion : Text := "00".toList

/-- The longest secret that is stored. -/
def encryptMaxLen : Nat := 128

namespace Primitives

variable (p : Primitives)

/-- The machine's identifier, cut or filled up to the size of a key. -/
def key : Bytes :=
  p.uuid.take keyBytes ++ List.replicate (keyBytes - p.uuid.length) 0

/-- `symmetric_crypt` -/
def symmetricCrypt (data : Bytes) (encrypt : Bool) : Option Bytes :=
  let nonce := List.replicate nonceBytes 0
  if encrypt then some (p.sealBox data nonce p.key) else p.openBox data nonce p.key

/-- `encrypt` -/
def encrypt (value : Bytes) : Option Text :=
  if value ≠ [] then (p.symmetricCrypt value true).map p.encode else none

/-- `decrypt` -/
def decrypt (value : Bytes) : Option Bytes :=
  if value ≠ [] then
    (p.decode value).bind fun data => p.symmetricCrypt data false
  else none

end Primitives

/-- What was read from a field. -/
structure Decrypted (Value : Type) where
  value : Value
  /-- Whether decryption is successful. -/
  success : Bool
  /-- Whether it should be stored to re-encrypt it. -/
  store : Bool
  deriving DecidableEq

/-- `decrypt_str_or_original` -/
def decryptStrOrOriginal (p : Primitives) (s currentVersion : Text) :
    Decrypted Text :=
  let original : Decrypted Text :=
    { value := s, success := false, store := !s.isEmpty }
  if (utf8 s).length > versionLen ∧ passwordEncVersion <+: s then
    match p.decrypt (utf8 (s.drop versionLen)) with
    | some value =>
        { value := fromUtf8Lossy value, success := true
          store := passwordEncVersion ≠ currentVersion }
    | none => original
  else original

/-- `encrypt_str_or_original` -/
def encryptStrOrOriginal (p : Primitives) (s version : Text) (maxLen : Nat) :
    Text :=
  if (decryptStrOrOriginal p s version).success then s
  else if s.length > maxLen then []
  else if version = passwordEncVersion then
    match p.encrypt (utf8 s) with
    | some encrypted => version ++ encrypted
    | none => s
  else s

/-- `decrypt_vec_or_original` -/
def decryptVecOrOriginal (p : Primitives) (v : Bytes) (currentVersion : Text) :
    Decrypted Bytes :=
  let original : Decrypted Bytes :=
    { value := v, success := false, store := !v.isEmpty }
  if v.length > versionLen then
    let version := fromUtf8Lossy (v.take versionLen)
    if version = passwordEncVersion then
      match p.decrypt (v.drop versionLen) with
      | some value =>
          { value, success := true, store := version ≠ currentVersion }
      | none => original
    else original
  else original

/-- `encrypt_vec_or_original` -/
def encryptVecOrOriginal (p : Primitives) (v : Bytes) (version : Text)
    (maxLen : Nat) : Bytes :=
  if (decryptVecOrOriginal p v version).success then v
  else if v.length > maxLen then []
  else if version = passwordEncVersion then
    match p.encrypt v with
    | some encrypted => utf8 version ++ utf8 encrypted
    | none => v
  else v

/-! ## Reading what was written -/

/-- A value that is not empty is encrypted, and decrypted from its text. -/
theorem Primitives.Lawful.decrypt_encrypt
    {p : Primitives}
    (lawful : p.Lawful)
    {value : Bytes}
    (given : value ≠ []) :
    ∃ text, p.encrypt value = some text ∧ text ≠ [] ∧
      p.decrypt (utf8 text) = some value := by
  have sealed_ne_nil :=
    lawful.sealBox_ne_nil value (List.replicate nonceBytes 0) p.key
  have text_ne_nil := lawful.encode_ne_nil _ sealed_ne_nil
  refine ⟨_, if_pos given, text_ne_nil, ?_⟩
  rw [Primitives.decrypt, if_pos (by simpa using text_ne_nil),
    lawful.decode_encode]
  exact lawful.openBox_sealBox _ _ _

/-- What a file keeps of a secret: all of it, or nothing if it is too long. -/
def kept {Item : Type} (secret : List Item) : List Item :=
  if secret.length ≤ encryptMaxLen then secret else []

/-- How one kind of field is written to a file and read again. -/
structure FieldCodec (Item : Type) where
  write : List Item → List Item
  read : List Item → Decrypted (List Item)

/-- Fields that are strings. -/
def strField (p : Primitives) : FieldCodec Char where
  write s := encryptStrOrOriginal p s passwordEncVersion encryptMaxLen
  read s := decryptStrOrOriginal p s passwordEncVersion

/-- Fields that are bytes. -/
def vecField (p : Primitives) : FieldCodec UInt8 where
  write v := encryptVecOrOriginal p v passwordEncVersion encryptMaxLen
  read v := decryptVecOrOriginal p v passwordEncVersion

/-- A secret that is not itself a ciphertext. -/
def FieldCodec.Plain {Item : Type} (codec : FieldCodec Item)
    (secret : List Item) : Prop :=
  (codec.read secret).success = false

/-- The text written for a secret is longer than the version in front of it. -/
theorem versionLen_lt_of_encrypted
    {text : Text}
    (given : text ≠ []) :
    versionLen < (utf8 passwordEncVersion ++ utf8 text).length := by
  have positive := List.length_pos_iff.mpr (utf8_eq_nil.not.mpr given)
  have version_length : (utf8 passwordEncVersion).length = versionLen := by decide
  rw [List.length_append]
  omega

/-! ## The laws of encryption -/

/-- How values of one kind are encrypted and decrypted. -/
structure Cipher (Item : Type) where
  /-- Encrypt a value with a version, unless it is longer than a limit. -/
  encrypt : List Item → Text → Nat → List Item
  /-- Decrypt a value where some version is the current one. -/
  decrypt : List Item → Text → Decrypted (List Item)

/-- Strings, whose length is that of their characters. -/
def strCipher (p : Primitives) : Cipher Char where
  encrypt := encryptStrOrOriginal p
  decrypt := decryptStrOrOriginal p

/-- Vectors of bytes. -/
def vecCipher (p : Primitives) : Cipher UInt8 where
  encrypt := encryptVecOrOriginal p
  decrypt := decryptVecOrOriginal p

namespace Cipher

section Laws

variable {Item : Type} (cipher : Cipher Item)

/-- Decryption does not accept a value. -/
def Plain (value : List Item) : Prop :=
  (cipher.decrypt value passwordEncVersion).success = false

/-- Load a field and store what was read from it. -/
def rewrite (maxLen : Nat) (field : List Item) : List Item :=
  cipher.encrypt (cipher.decrypt field passwordEncVersion).value
    passwordEncVersion maxLen

/-- Load a field and store it where loading asks for it. -/
def reload (maxLen : Nat) (field : List Item) : List Item :=
  if (cipher.decrypt field passwordEncVersion).store then
    cipher.rewrite maxLen field
  else field

/-- What encryption and decryption have to do with each other. -/
structure Laws : Prop where
  /-- What was encrypted is decrypted, and need not be stored again. -/
  decrypt_encrypt : ∀ value maxLen, cipher.Plain value → value.length ≤ maxLen →
    cipher.decrypt (cipher.encrypt value passwordEncVersion maxLen)
        passwordEncVersion =
      { value, success := !value.isEmpty, store := false }
  /-- Encrypting once more changes nothing. -/
  encrypt_encrypt : ∀ value maxLen otherLen,
    cipher.encrypt (cipher.encrypt value passwordEncVersion maxLen)
        passwordEncVersion otherLen =
      cipher.encrypt value passwordEncVersion maxLen
  /-- What cannot be decrypted is read as it is. -/
  decrypt_of_failed : ∀ value version,
    (cipher.decrypt value version).success = false →
    cipher.decrypt value version =
      { value, success := false, store := !value.isEmpty }
  /-- Whatever a field holds, loading it once more changes nothing. -/
  reload_reload : ∀ field maxLen,
    cipher.reload maxLen (cipher.reload maxLen field) =
      cipher.reload maxLen field
  /-- So it is where everything that was loaded is stored. -/
  rewrite_rewrite : ∀ field maxLen,
    cipher.Plain (cipher.decrypt field passwordEncVersion).value →
    cipher.rewrite maxLen (cipher.rewrite maxLen field) =
      cipher.rewrite maxLen field

/-- What the code for one kind of value does, case by case. -/
structure Sound : Prop where
  plain_nil : cipher.Plain []
  decrypt_of_failed : ∀ {value version},
    (cipher.decrypt value version).success = false →
    cipher.decrypt value version =
      { value, success := false, store := !value.isEmpty }
  store_of_accepted : ∀ {value}, ¬ cipher.Plain value →
    (cipher.decrypt value passwordEncVersion).store = false
  encrypt_of_accepted : ∀ {value} maxLen, ¬ cipher.Plain value →
    cipher.encrypt value passwordEncVersion maxLen = value
  encrypt_of_long : ∀ {value maxLen}, cipher.Plain value →
    maxLen < value.length → cipher.encrypt value passwordEncVersion maxLen = []
  decrypt_encrypt : ∀ {value maxLen}, cipher.Plain value →
    value.length ≤ maxLen →
    cipher.decrypt (cipher.encrypt value passwordEncVersion maxLen)
        passwordEncVersion =
      { value, success := !value.isEmpty, store := false }

end Laws

namespace Sound

variable {Item : Type} {cipher : Cipher Item} (sound : cipher.Sound)
variable (value field : List Item) (maxLen otherLen : Nat)

include sound

theorem decrypt_nil :
    cipher.decrypt [] passwordEncVersion =
      { value := [], success := false, store := false } :=
  sound.decrypt_of_failed sound.plain_nil

/-- The empty value stays empty. -/
theorem encrypt_nil : cipher.encrypt [] passwordEncVersion maxLen = [] := by
  have read := sound.decrypt_encrypt sound.plain_nil (Nat.zero_le maxLen)
  have failed := sound.decrypt_of_failed
    (congrArg Decrypted.success read)
  rw [failed] at read
  exact congrArg Decrypted.value read

/-- A result of encryption is accepted, or there is nothing in it. -/
theorem encrypt_settled :
    ¬ cipher.Plain (cipher.encrypt value passwordEncVersion maxLen) ∨
      cipher.encrypt value passwordEncVersion maxLen = [] := by
  by_cases plain : cipher.Plain value
  · by_cases short : value.length ≤ maxLen
    · cases value with
      | nil => exact .inr (sound.encrypt_nil maxLen)
      | cons first others =>
          left
          rw [Plain, sound.decrypt_encrypt plain short]
          simp
    · exact .inr (sound.encrypt_of_long plain (Nat.lt_of_not_le short))
  · left
    rw [sound.encrypt_of_accepted maxLen plain]
    exact plain

theorem encrypt_encrypt :
    cipher.encrypt (cipher.encrypt value passwordEncVersion maxLen)
        passwordEncVersion otherLen =
      cipher.encrypt value passwordEncVersion maxLen := by
  cases sound.encrypt_settled value maxLen with
  | inl accepted => exact sound.encrypt_of_accepted otherLen accepted
  | inr empty => rw [empty, sound.encrypt_nil]

theorem reload_reload :
    cipher.reload maxLen (cipher.reload maxLen field) =
      cipher.reload maxLen field := by
  have quiet : ∀ {result : List Item},
      (cipher.decrypt result passwordEncVersion).store = false →
        cipher.reload maxLen result = result := by
    intro result store
    rw [reload, store]
    exact if_neg Bool.false_ne_true
  cases store : (cipher.decrypt field passwordEncVersion).store with
  | false => rw [quiet store, quiet store]
  | true =>
      rw [show cipher.reload maxLen field = cipher.rewrite maxLen field by
        rw [reload, if_pos store]]
      apply quiet
      cases sound.encrypt_settled
          (cipher.decrypt field passwordEncVersion).value maxLen with
      | inl accepted => exact sound.store_of_accepted accepted
      | inr empty => rw [rewrite, empty, sound.decrypt_nil]

theorem rewrite_rewrite
    (plain : cipher.Plain (cipher.decrypt field passwordEncVersion).value) :
    cipher.rewrite maxLen (cipher.rewrite maxLen field) =
      cipher.rewrite maxLen field := by
  by_cases short :
      (cipher.decrypt field passwordEncVersion).value.length ≤ maxLen
  · have read := sound.decrypt_encrypt plain short
    rw [rewrite, rewrite, read]
  · have empty := sound.encrypt_of_long plain (Nat.lt_of_not_le short)
    rw [show cipher.rewrite maxLen field = [] from empty, rewrite,
      sound.decrypt_nil]
    exact sound.encrypt_nil maxLen

theorem laws : cipher.Laws where
  decrypt_encrypt _ _ plain short := sound.decrypt_encrypt plain short
  encrypt_encrypt := sound.encrypt_encrypt
  decrypt_of_failed _ _ failed := sound.decrypt_of_failed failed
  reload_reload := sound.reload_reload
  rewrite_rewrite := sound.rewrite_rewrite

end Sound

end Cipher

/-! ### Strings -/

theorem decryptStr_of_failed
    {p : Primitives}
    {s version : Text}
    (failed : (decryptStrOrOriginal p s version).success = false) :
    decryptStrOrOriginal p s version =
      { value := s, success := false, store := !s.isEmpty } := by
  simp only [decryptStrOrOriginal] at failed ⊢
  split at failed
  case isTrue versioned =>
    rw [if_pos versioned]
    split at failed
    · cases failed
    · rfl
  case isFalse plain => rw [if_neg plain]

/-- What was decrypted needs no other encryption. -/
theorem decryptStr_store_of_success
    {p : Primitives}
    {s : Text}
    (success : (decryptStrOrOriginal p s passwordEncVersion).success = true) :
    (decryptStrOrOriginal p s passwordEncVersion).store = false := by
  simp only [decryptStrOrOriginal] at success ⊢
  split at success
  case isTrue versioned =>
    rw [if_pos versioned]
    split at success
    · simp
    · cases success
  case isFalse => cases success

/-- Reading what was written for a string gives the string. -/
theorem Primitives.Lawful.decryptStr_encryptStr
    {p : Primitives}
    (lawful : p.Lawful)
    {s : Text}
    {maxLen : Nat}
    (plain : (strCipher p).Plain s)
    (short : s.length ≤ maxLen) :
    decryptStrOrOriginal p (encryptStrOrOriginal p s passwordEncVersion maxLen)
        passwordEncVersion =
      { value := s, success := !s.isEmpty, store := false } := by
  rw [encryptStrOrOriginal,
    if_neg (by simpa [Cipher.Plain, strCipher] using plain),
    if_neg (Nat.not_lt.mpr short), if_pos rfl]
  cases s with
  | nil => rfl
  | cons first others =>
      have given : utf8 (first :: others) ≠ [] :=
        utf8_eq_nil.not.mpr (List.cons_ne_nil _ _)
      obtain ⟨text, encrypted, text_ne_nil, decrypted⟩ :=
        lawful.decrypt_encrypt given
      have long := versionLen_lt_of_encrypted text_ne_nil
      rw [← utf8_append] at long
      have dropped : (passwordEncVersion ++ text).drop versionLen = text := rfl
      simp only [encrypted]
      rw [decryptStrOrOriginal, if_pos ⟨long, List.prefix_append _ _⟩,
        dropped, decrypted]
      simp

theorem strCipher_sound
    {p : Primitives}
    (lawful : p.Lawful) :
    (strCipher p).Sound where
  plain_nil := rfl
  decrypt_of_failed := decryptStr_of_failed
  store_of_accepted accepted :=
    decryptStr_store_of_success (eq_true_of_ne_false accepted)
  encrypt_of_accepted _ accepted := if_pos (eq_true_of_ne_false accepted)
  encrypt_of_long plain long := by
    simp only [Cipher.Plain, strCipher] at plain ⊢
    rw [encryptStrOrOriginal, plain, if_neg Bool.false_ne_true, if_pos long]
  decrypt_encrypt := lawful.decryptStr_encryptStr

/-! ### Vectors -/

theorem decryptVec_of_failed
    {p : Primitives}
    {v : Bytes}
    {version : Text}
    (failed : (decryptVecOrOriginal p v version).success = false) :
    decryptVecOrOriginal p v version =
      { value := v, success := false, store := !v.isEmpty } := by
  simp only [decryptVecOrOriginal] at failed ⊢
  split at failed
  case isTrue long =>
    rw [if_pos long]
    split at failed
    case isTrue versioned =>
      rw [if_pos versioned]
      split at failed
      · cases failed
      · rfl
    case isFalse plain => rw [if_neg plain]
  case isFalse short => rw [if_neg short]

theorem decryptVec_store_of_success
    {p : Primitives}
    {v : Bytes}
    (success : (decryptVecOrOriginal p v passwordEncVersion).success = true) :
    (decryptVecOrOriginal p v passwordEncVersion).store = false := by
  simp only [decryptVecOrOriginal] at success ⊢
  split at success
  case isTrue long =>
    rw [if_pos long]
    split at success
    case isTrue versioned =>
      rw [if_pos versioned]
      split at success
      · simp [versioned]
      · cases success
    case isFalse => cases success
  case isFalse => cases success

/-- Reading what was written for some bytes gives the bytes. -/
theorem Primitives.Lawful.decryptVec_encryptVec
    {p : Primitives}
    (lawful : p.Lawful)
    {v : Bytes}
    {maxLen : Nat}
    (plain : (vecCipher p).Plain v)
    (short : v.length ≤ maxLen) :
    decryptVecOrOriginal p (encryptVecOrOriginal p v passwordEncVersion maxLen)
        passwordEncVersion =
      { value := v, success := !v.isEmpty, store := false } := by
  rw [encryptVecOrOriginal,
    if_neg (by simpa [Cipher.Plain, vecCipher] using plain),
    if_neg (Nat.not_lt.mpr short), if_pos rfl]
  cases v with
  | nil => rfl
  | cons first others =>
      obtain ⟨text, encrypted, text_ne_nil, decrypted⟩ :=
        lawful.decrypt_encrypt (List.cons_ne_nil first others)
      have version_read :
          fromUtf8Lossy
              ((utf8 passwordEncVersion ++ utf8 text).take versionLen) =
            passwordEncVersion := fromUtf8Lossy_utf8 passwordEncVersion
      have dropped :
          (utf8 passwordEncVersion ++ utf8 text).drop versionLen =
            utf8 text := rfl
      simp only [encrypted]
      rw [decryptVecOrOriginal, if_pos (versionLen_lt_of_encrypted text_ne_nil)]
      simp only [version_read, dropped, decrypted]
      simp

theorem vecCipher_sound
    {p : Primitives}
    (lawful : p.Lawful) :
    (vecCipher p).Sound where
  plain_nil := rfl
  decrypt_of_failed := decryptVec_of_failed
  store_of_accepted accepted :=
    decryptVec_store_of_success (eq_true_of_ne_false accepted)
  encrypt_of_accepted _ accepted := if_pos (eq_true_of_ne_false accepted)
  encrypt_of_long plain long := by
    simp only [Cipher.Plain, vecCipher] at plain ⊢
    rw [encryptVecOrOriginal, plain, if_neg Bool.false_ne_true, if_pos long]
  decrypt_encrypt := lawful.decryptVec_encryptVec

/-- Both kinds of values obey the laws. -/
theorem ciphers_obey_laws
    {p : Primitives}
    (lawful : p.Lawful) :
    (strCipher p).Laws ∧ (vecCipher p).Laws :=
  ⟨(strCipher_sound lawful).laws, (vecCipher_sound lawful).laws⟩

/-- What the configurations need to know about a kind of field. -/
structure FieldCodec.Faithful {Item : Type} (codec : FieldCodec Item) : Prop where
  /-- What is read is what is kept, and need not be stored again. -/
  read_write : ∀ secret, codec.Plain secret →
    codec.read (codec.write secret) =
      { value := kept secret, success := !(kept secret).isEmpty, store := false }
  /-- Nothing is a secret like any other. -/
  plain_nil : codec.Plain []
  /-- A secret too long is written like nothing. -/
  write_kept : ∀ secret, codec.Plain secret →
    codec.write (kept secret) = codec.write secret

/-- The fields of a configuration are encrypted up to one length. -/
def Cipher.field {Item : Type} (cipher : Cipher Item) : FieldCodec Item where
  write value := cipher.encrypt value passwordEncVersion encryptMaxLen
  read value := cipher.decrypt value passwordEncVersion

theorem Cipher.Sound.faithful
    {Item : Type}
    {cipher : Cipher Item}
    (sound : cipher.Sound) :
    cipher.field.Faithful where
  plain_nil := sound.plain_nil
  read_write secret plain := by
    unfold kept
    split
    case isTrue short => exact sound.decrypt_encrypt plain short
    case isFalse long =>
      have empty := sound.encrypt_of_long plain (Nat.lt_of_not_le long)
      exact (congrArg cipher.field.read empty).trans sound.decrypt_nil
  write_kept secret plain := by
    unfold kept
    split
    case isTrue => rfl
    case isFalse long =>
      exact (sound.encrypt_nil encryptMaxLen).trans
        (sound.encrypt_of_long plain (Nat.lt_of_not_le long)).symm

theorem strField_faithful
    {p : Primitives}
    (lawful : p.Lawful) :
    (strField p).Faithful :=
  (strCipher_sound lawful).faithful

theorem vecField_faithful
    {p : Primitives}
    (lawful : p.Lawful) :
    (vecField p).Faithful :=
  (vecCipher_sound lawful).faithful

/-- The field of a file holds a secret. -/
structure FieldCodec.Sealed {Item : Type} (codec : FieldCodec Item)
    (secret field : List Item) : Prop where
  plain : codec.Plain secret
  field_eq : field = codec.write secret

namespace FieldCodec

variable {Item : Type} {codec : FieldCodec Item} {secret field : List Item}

/-- What is kept of a secret is no ciphertext either. -/
theorem Faithful.plain_kept
    (faithful : codec.Faithful)
    (plain : codec.Plain secret) :
    codec.Plain (kept secret) := by
  unfold kept
  split
  · exact plain
  · exact faithful.plain_nil

theorem Faithful.read_sealed
    (faithful : codec.Faithful)
    (holds : codec.Sealed secret field) :
    codec.read field =
      { value := kept secret, success := !(kept secret).isEmpty
        store := false } := by
  rw [holds.field_eq, faithful.read_write secret holds.plain]

/-- The field holds what was read from it. -/
theorem Faithful.sealed_kept
    (faithful : codec.Faithful)
    (holds : codec.Sealed secret field) :
    codec.Sealed (kept secret) field where
  plain := faithful.plain_kept holds.plain
  field_eq := by rw [holds.field_eq, faithful.write_kept secret holds.plain]

end FieldCodec

/-! ## Primitives that hide nothing -/

/-- Two letters for a byte. -/
def byteLetters (byte : UInt8) : Text :=
  [Char.ofNat (97 + byte.toNat / 16), Char.ofNat (97 + byte.toNat % 16)]

/-- The bytes some pairs of letters stand for. -/
def lettersToBytes : Bytes → Option Bytes
  | [] => some []
  | [_] => none
  | high :: low :: rest =>
      (lettersToBytes rest).map fun bytes =>
        UInt8.ofNat ((high.toNat - 97) * 16 + (low.toNat - 97)) :: bytes

/-- A box with an empty tag, and letters for bytes. -/
def clearPrimitives : Primitives where
  sealBox data _ _ := List.replicate 16 0 ++ data
  openBox data _ _ := if 16 ≤ data.length then some (data.drop 16) else none
  encode data := data.flatMap byteLetters
  decode := lettersToBytes
  uuid := [1]

theorem utf8_byteLetters (byte : UInt8) :
    utf8 (byteLetters byte) =
      [UInt8.ofNat (97 + byte.toNat / 16), UInt8.ofNat (97 + byte.toNat % 16)] := by
  have letter : ∀ digit : Fin 16,
      String.utf8EncodeChar (Char.ofNat (97 + digit)) =
        [UInt8.ofNat (97 + digit)] := by decide
  have bounded := byte.toNat_lt
  have high := letter ⟨byte.toNat / 16, by omega⟩
  have low := letter ⟨byte.toNat % 16, by omega⟩
  simp only at high low
  simp [byteLetters, high, low]

theorem lettersToBytes_letters (data : Bytes) :
    lettersToBytes (utf8 (data.flatMap byteLetters)) = some data := by
  induction data with
  | nil => rfl
  | cons byte data inductionHypothesis =>
      have bounded := byte.toNat_lt
      have digits :
          (97 + byte.toNat / 16) % 256 - 97 = byte.toNat / 16 ∧
            (97 + byte.toNat % 16) % 256 - 97 = byte.toNat % 16 := by
        omega
      have joined : byte.toNat / 16 * 16 + byte.toNat % 16 = byte.toNat := by
        omega
      rw [List.flatMap_cons, utf8_append, utf8_byteLetters]
      simp [lettersToBytes, inductionHypothesis, digits, joined]

theorem clearPrimitives_lawful : clearPrimitives.Lawful where
  openBox_sealBox data nonce key := by simp [clearPrimitives]
  sealBox_ne_nil data nonce key := by simp [clearPrimitives]
  decode_encode := lettersToBytes_letters
  encode_ne_nil data given := by
    cases data with
    | nil => exact absurd rfl given
    | cons byte data => simp [clearPrimitives, byteLetters]

theorem ciphers_obey_laws_clear :
    decryptStrOrOriginal clearPrimitives
        (encryptStrOrOriginal clearPrimitives "1ü1111".toList
          passwordEncVersion encryptMaxLen)
        passwordEncVersion =
      { value := "1ü1111".toList, success := true, store := false } :=
  (ciphers_obey_laws clearPrimitives_lawful).1.decrypt_encrypt
    "1ü1111".toList encryptMaxLen rfl (by decide)

end Settings
end OneDesk
