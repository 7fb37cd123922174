import Mathlib.Data.List.Basic
import Mathlib.Data.UInt

/-!
# The keyed half of a stream

`Encrypt` holds a session key and two 64-bit counters, one for the frames it
seals and one for the frames it opens.  The cipher itself is a parameter: only
the round trip of `secretbox` and the sixteen bytes its tag adds are ever used.
-/

namespace OneDesk
namespace Stream

/-- Payloads and frames. -/
abbrev Bytes := List UInt8

/-- `secretbox::NONCEBYTES`. -/
def nonceBytes : Nat := 24

/-- A `secretbox` nonce. -/
structure Nonce where
  bytes : Bytes
  length_eq : bytes.length = nonceBytes
  deriving DecidableEq

/-- The two operations of `sodiumoxide::crypto::secretbox` on a key type. -/
structure SecretBox (Key : Type) where
  /-- `secretbox::seal`. -/
  sealBox : Bytes → Nonce → Key → Bytes
  /-- `secretbox::open`. -/
  openBox : Bytes → Nonce → Key → Option Bytes

/-- Documented behaviour of `secretbox`: opening undoes sealing, and a sealed
box is sixteen bytes longer than what it holds. -/
structure SecretBox.Lawful {Key : Type} (box : SecretBox Key) : Prop where
  open_seal : ∀ message nonce key,
    box.openBox (box.sealBox message nonce key) nonce key = some message
  length_seal : ∀ message nonce key,
    (box.sealBox message nonce key).length = message.length + 16
  length_open : ∀ frame nonce key message,
    box.openBox frame nonce key = some message →
      frame.length = message.length + 16

/-- A transparent box for concrete runs: the tag is the low end of the nonce, so
a box opens under the nonce it was sealed with and under no other. -/
def nonceTagBox : SecretBox Unit where
  sealBox := fun message nonce _ => nonce.bytes.take 16 ++ message
  openBox := fun frame nonce _ =>
    if frame.take 16 = nonce.bytes.take 16 then some (frame.drop 16) else none

theorem nonceTagBox_lawful : nonceTagBox.Lawful where
  open_seal := by
    intro message nonce key
    have tagLength : (nonce.bytes.take 16).length = 16 := by
      simp [nonce.length_eq, nonceBytes]
    simp only [nonceTagBox, List.take_left' tagLength, if_true,
      List.drop_left' tagLength]
  length_seal := by
    intro message nonce key
    simp [nonceTagBox, nonce.length_eq, nonceBytes, Nat.add_comm]
  length_open := by
    intro frame nonce key message opened
    simp only [nonceTagBox] at opened
    split at opened
    · next tagEqual =>
        have tagLength := congrArg List.length tagEqual
        simp only [List.length_take, nonce.length_eq, nonceBytes] at tagLength
        cases opened
        simp only [List.length_drop]
        omega
    · cases opened

/-- Kinds of `std::io::Error` the streams build. -/
inductive ErrorKind
  | invalidInput
  | invalidData
  | other
  deriving DecidableEq, Repr

/-- An input/output error with its text. -/
structure IoError where
  kind : ErrorKind
  text : String
  deriving DecidableEq, Repr

/-- `u64::to_le_bytes`. -/
def toLeBytes (seqnum : UInt64) : Bytes :=
  (List.range 8).map fun index => UInt8.ofNat (seqnum.toNat / 256 ^ index)

/-- `FramedStream::get_nonce`: the sequence number, padded with zeros. -/
def getNonce (seqnum : UInt64) : Nonce where
  bytes := toLeBytes seqnum ++ List.replicate (nonceBytes - 8) 0
  length_eq := by simp [toLeBytes, nonceBytes]

/-- Numbers that agree in their low digits agree up to the next power. -/
theorem mod_pow_eq_of_digits
    {base left right count : Nat}
    (digits : ∀ index < count,
      left / base ^ index % base = right / base ^ index % base) :
    left % base ^ count = right % base ^ count := by
  induction count with
  | zero => simp [Nat.mod_one]
  | succ count inductionHypothesis =>
      have lower := inductionHypothesis fun index small => digits index (by omega)
      rw [Nat.mod_pow_succ, Nat.mod_pow_succ, lower, digits count (by omega)]

/-- The eight low bytes determine a 64-bit number. -/
theorem toLeBytes_injective : Function.Injective toLeBytes := by
  intro left right equal
  have bytes : ∀ index < 8,
      left.toNat / 256 ^ index % 256 = right.toNat / 256 ^ index % 256 := by
    intro index small
    have same := congrArg (fun list => (list.getD index 0).toNat) equal
    simpa [toLeBytes, List.getD, small] using same
  have agree := mod_pow_eq_of_digits bytes
  rw [show 256 ^ 8 = 2 ^ 64 from rfl, Nat.mod_eq_of_lt left.toNat_lt,
    Nat.mod_eq_of_lt right.toNat_lt] at agree
  exact UInt64.toNat.inj agree

/-- Distinct sequence numbers give distinct nonces. -/
theorem getNonce_injective : Function.Injective getNonce := by
  intro left right equal
  apply toLeBytes_injective
  exact List.append_cancel_right (congrArg Nonce.bytes equal)

/-- `Encrypt`: the key, the counter of sealed frames and the counter of opened
frames. -/
structure Encrypt (Key : Type) where
  key : Key
  sent : UInt64
  received : UInt64
  deriving DecidableEq, Repr

namespace Encrypt

variable {Key : Type} (box : SecretBox Key)

/-- `Encrypt::new`. -/
def new (key : Key) : Encrypt Key :=
  ⟨key, 0, 0⟩

/-- `Encrypt::enc`: advance the send counter, then seal under its nonce. -/
def enc (encrypt : Encrypt Key) (data : Bytes) : Bytes × Encrypt Key :=
  let sent := encrypt.sent + 1
  (box.sealBox data (getNonce sent) encrypt.key, { encrypt with sent := sent })

/-- The error of `Encrypt::dec`. -/
def decryptionError : IoError :=
  ⟨.other, "decryption error"⟩

/-- `Encrypt::dec`: frames of at most one byte pass untouched; any other frame
advances the receive counter and is opened under its nonce. -/
def dec (encrypt : Encrypt Key) (bytes : Bytes) :
    Except IoError Bytes × Encrypt Key :=
  if bytes.length ≤ 1 then
    (.ok bytes, encrypt)
  else
    let received := encrypt.received + 1
    match box.openBox bytes (getNonce received) encrypt.key with
    | some res => (.ok res, { encrypt with received := received })
    | none => (.error decryptionError, { encrypt with received := received })

variable {box}

@[simp] theorem enc_snd (encrypt : Encrypt Key) (data : Bytes) :
    (encrypt.enc box data).2 = { encrypt with sent := encrypt.sent + 1 } := rfl

@[simp] theorem enc_fst (encrypt : Encrypt Key) (data : Bytes) :
    (encrypt.enc box data).1 =
      box.sealBox data (getNonce (encrypt.sent + 1)) encrypt.key := rfl

/-- Decryption of a frame of at most one byte. -/
theorem dec_short
    (encrypt : Encrypt Key)
    {bytes : Bytes}
    (short : bytes.length ≤ 1) :
    encrypt.dec box bytes = (.ok bytes, encrypt) := by
  simp [dec, short]

/-- Whatever the outcome, opening a longer frame advances the counter. -/
theorem dec_long_snd
    (encrypt : Encrypt Key)
    {bytes : Bytes}
    (long : 1 < bytes.length) :
    (encrypt.dec box bytes).2 =
      { encrypt with received := encrypt.received + 1 } := by
  have notShort : ¬bytes.length ≤ 1 := by omega
  simp only [dec, notShort, if_false]
  split <;> rfl

/-- A longer frame is accepted exactly when the box opens. -/
theorem dec_long_fst_ok
    (encrypt : Encrypt Key)
    {bytes plain : Bytes}
    (long : 1 < bytes.length) :
    (encrypt.dec box bytes).1 = .ok plain ↔
      box.openBox bytes (getNonce (encrypt.received + 1)) encrypt.key =
        some plain := by
  have notShort : ¬bytes.length ≤ 1 := by omega
  simp only [dec, notShort, if_false]
  split
  · next res opened => simp [opened]
  · next opened => simp [opened]

/-- Decryption never touches the key or the send counter. -/
theorem dec_snd_frame (encrypt : Encrypt Key) (bytes : Bytes) :
    (encrypt.dec box bytes).2.key = encrypt.key ∧
      (encrypt.dec box bytes).2.sent = encrypt.sent := by
  rcases Nat.lt_or_ge 1 bytes.length with long | short
  · simp [dec_long_snd encrypt long]
  · simp [dec_short encrypt short]

end Encrypt

end Stream
end OneDesk
