import OneDesk.Lib.Decoder
import OneDesk.Stream.Framed
import Mathlib.Data.Nat.Bitwise

/-!
# The length-prefixed codec

`BytesCodec` puts one to four bytes before each payload.  The two low bits of the
first byte give the width of this header; the rest of it, read in little-endian
order, is the length of the payload.  A decoder that has read a header but not
yet the payload keeps the length in its state.
-/

namespace OneDesk
namespace Stream

/-- `usize::MAX` on a target of 64 bits. -/
def usizeMax : Nat := 2 ^ 64 - 1

/-- `DecodeState`. -/
inductive DecodeState
  | head
  | data (n : Nat)
  deriving DecidableEq, Repr

/-- `BytesCodec`. -/
structure BytesCodec where
  state : DecodeState
  raw : Bool
  maxPacketLength : Nat
  deriving DecidableEq, Repr

/-- The error of `BytesCodec::decode_head`. -/
def tooBigPacket : IoError :=
  ⟨.invalidData, "Too big packet"⟩

/-- `BufMut::put_u16_le`. -/
def putU16Le (buf : Bytes) (value : UInt16) : Bytes :=
  buf ++ [value.toUInt8, (value >>> 8).toUInt8]

/-- `BufMut::put_u32_le`. -/
def putU32Le (buf : Bytes) (value : UInt32) : Bytes :=
  buf ++ [value.toUInt8, (value >>> 8).toUInt8, (value >>> 16).toUInt8,
    (value >>> 24).toUInt8]

namespace BytesCodec

/-- `BytesCodec::new`. -/
def new : BytesCodec :=
  ⟨.head, false, usizeMax⟩

/-- `BytesCodec::set_raw`. -/
def setRaw (codec : BytesCodec) : BytesCodec :=
  { codec with raw := true }

/-- `BytesCodec::set_max_packet_length`. -/
def setMaxPacketLength (codec : BytesCodec) (n : Nat) : BytesCodec :=
  { codec with maxPacketLength := n }

/-- The number in the first `headLen` bytes of a buffer, without the two bits that
give the width. -/
def headNumber (headLen : Nat) (src : Bytes) : Nat :=
  let n := (src.getD 0 0).toNat
  let n := if headLen > 1 then n ||| (src.getD 1 0).toNat <<< 8 else n
  let n := if headLen > 2 then n ||| (src.getD 2 0).toNat <<< 16 else n
  let n := if headLen > 3 then n ||| (src.getD 3 0).toNat <<< 24 else n
  n >>> 2

/-- `BytesCodec::decode_head`: the length a header announces, once the header is
whole and the length is allowed, and the bytes left. -/
def decodeHead (codec : BytesCodec) (src : Bytes) :
    Except IoError (Option Nat) × Bytes :=
  match src with
  | [] => (.ok none, src)
  | first :: _ =>
      let headLen := ((first &&& 0x3) + 1).toNat
      if src.length < headLen then
        (.ok none, src)
      else
        let n := headNumber headLen src
        if n > codec.maxPacketLength then
          (.error tooBigPacket, src)
        else
          (.ok (some n), src.drop headLen)

/-- `BytesCodec::decode_data`. -/
def decodeData (n : Nat) (src : Bytes) : Except IoError (Option Bytes) × Bytes :=
  if src.length < n then
    (.ok none, src)
  else
    (.ok (some (src.take n)), src.drop n)

/-- The second half of `BytesCodec::decode`: the payload of a header of length
`n` already read. -/
def decodeBody (codec : BytesCodec) (n : Nat) (src : Bytes) :
    Except IoError (Option Bytes) × BytesCodec × Bytes :=
  match decodeData n src with
  | (.error error, src) => (.error error, codec, src)
  | (.ok (some data), src) => (.ok (some data), { codec with state := .head }, src)
  | (.ok none, src) => (.ok none, codec, src)

/-- `BytesCodec::decode`: one frame, the codec after it and the bytes left. -/
def decode (codec : BytesCodec) (src : Bytes) :
    Except IoError (Option Bytes) × BytesCodec × Bytes :=
  if codec.raw then
    if src.isEmpty = false then
      (.ok (some (src.take src.length)), codec, src.drop src.length)
    else
      (.ok none, codec, src)
  else
    match codec.state with
    | .head =>
        match codec.decodeHead src with
        | (.error error, src) => (.error error, codec, src)
        | (.ok (some n), src) => decodeBody { codec with state := .data n } n src
        | (.ok none, src) => (.ok none, codec, src)
    | .data n => decodeBody codec n src

/-- `BytesCodec::encode`: what is returned and the output buffer after it. -/
def encode (codec : BytesCodec) (data buf : Bytes) : Except IoError Unit × Bytes :=
  if codec.raw then
    (.ok (), buf ++ data)
  else if data.length ≤ 0x3F then
    (.ok (), buf ++ [UInt8.ofNat (data.length <<< 2)] ++ data)
  else if data.length ≤ 0x3FFF then
    (.ok (), putU16Le buf (UInt16.ofNat (data.length <<< 2) ||| 0x1) ++ data)
  else if data.length ≤ 0x3FFFFF then
    let h := UInt32.ofNat (data.length <<< 2) ||| 0x2
    (.ok (), putU16Le buf (h &&& 0xFFFF).toUInt16 ++ [(h >>> 16).toUInt8] ++ data)
  else if data.length ≤ 0x3FFFFFFF then
    (.ok (), putU32Le buf (UInt32.ofNat (data.length <<< 2) ||| 0x3) ++ data)
  else
    (.error overflowError, buf)

/-- Encode payloads one after another into one buffer, up to the first error. -/
def encodeAll (codec : BytesCodec) : List Bytes → Bytes → Except IoError Unit × Bytes
  | [], buf => (.ok (), buf)
  | data :: payloads, buf =>
      match codec.encode data buf with
      | (.ok (), buf) => codec.encodeAll payloads buf
      | (.error error, buf) => (.error error, buf)

/-! ## Answers and more input -/

theorem headNumber_append
    {headLen : Nat}
    {src : Bytes}
    (more : Bytes)
    (nonempty : 0 < src.length)
    (whole : headLen ≤ src.length) :
    headNumber headLen (src ++ more) = headNumber headLen src := by
  have same : ∀ index < src.length,
      (src ++ more).getD index 0 = src.getD index 0 := by
    intro index inside
    exact List.getD_append src more 0 index inside
  unfold headNumber
  rw [same 0 nonempty]
  have guarded : ∀ (index value : Nat),
      (if headLen > index then
          value ||| ((src ++ more).getD index 0).toNat <<< (8 * index)
        else value) =
      (if headLen > index then
          value ||| (src.getD index 0).toNat <<< (8 * index)
        else value) := by
    intro index value
    split
    · next within => rw [same index (by omega)]
    · rfl
  simp only [guarded 1, guarded 2, guarded 3]

/-- A buffer without a whole header is left alone; with one, the answer is fixed
whatever follows. -/
theorem decodeHead_cases (codec : BytesCodec) (src : Bytes) :
    codec.decodeHead src = (.ok none, src) ∨
      ∃ headLen, 0 < headLen ∧ headLen ≤ src.length ∧ ∀ more,
        codec.decodeHead (src ++ more) =
          if headNumber headLen src > codec.maxPacketLength then
            (.error tooBigPacket, src ++ more)
          else
            (.ok (some (headNumber headLen src)), src.drop headLen ++ more) := by
  cases src with
  | nil => exact Or.inl rfl
  | cons first tail =>
      rcases Nat.lt_or_ge (first :: tail).length ((first &&& 0x3) + 1).toNat with
        short | whole
      · left
        simp only [decodeHead, short, if_true]
      · right
        have positive : 0 < ((first &&& 0x3) + 1).toNat := by
          have low : (first &&& 0x3).toNat ≤ 3 := by
            rw [UInt8.toNat_and]
            exact Nat.and_le_right
          rw [UInt8.toNat_add]
          simp only [UInt8.toNat_one]
          omega
        refine ⟨((first &&& 0x3) + 1).toNat, positive, whole, ?_⟩
        intro more
        have longer : ¬(first :: tail ++ more).length <
            ((first &&& 0x3) + 1).toNat := by
          rw [List.length_append]
          omega
        have number := headNumber_append more
          (List.length_pos_of_ne_nil (List.cons_ne_nil first tail)) whole
        simp only [decodeHead, List.cons_append] at longer number ⊢
        rw [if_neg longer, number, ← List.cons_append,
          List.drop_append_of_le_length whole]

/-- A payload is taken once it is whole, whatever follows. -/
theorem decodeBody_cases (codec : BytesCodec) (n : Nat) (src : Bytes) :
    codec.decodeBody n src = (.ok none, codec, src) ∨
      n ≤ src.length ∧ ∀ more,
        codec.decodeBody n (src ++ more) =
          (.ok (some (src.take n)), { codec with state := .head },
            src.drop n ++ more) := by
  rcases Nat.lt_or_ge src.length n with short | whole
  · left
    simp only [decodeBody, decodeData, short, if_true]
  · right
    refine ⟨whole, ?_⟩
    intro more
    have longer : ¬(src ++ more).length < n := by
      rw [List.length_append]
      omega
    simp only [decodeBody, decodeData, longer, if_false,
      List.take_append_of_le_length whole, List.drop_append_of_le_length whole]

/-- Buffers shrink with every frame, and a codec that waits for a payload is
nearer to a frame than one that waits for a header. -/
def size (codec : BytesCodec) (src : Bytes) : Nat :=
  match codec.state with
  | .head => 2 * src.length
  | .data _ => 2 * src.length + 1

/-- What one call of a codec that is not raw may answer, and how the answer
extends to longer buffers. -/
inductive Answer (codec : BytesCodec) (src : Bytes) : Prop
  | waits (next : BytesCodec) (rest : Bytes)
      (now : codec.decode src = (.ok none, next, rest))
      (notRaw : next.raw = false)
      (later : ∀ more, codec.decode (src ++ more) = next.decode (rest ++ more))
  | gives (frame rest : Bytes)
      (smaller : size { codec with state := .head } rest < size codec src)
      (now : codec.decode src =
        (.ok (some frame), { codec with state := .head }, rest))
      (later : ∀ more, codec.decode (src ++ more) =
        (.ok (some frame), { codec with state := .head }, rest ++ more))
  | fails
      (now : codec.decode src = (.error tooBigPacket, codec, src))
      (later : ∀ more, codec.decode (src ++ more) =
        (.error tooBigPacket, codec, src ++ more))

theorem Answer.of_gives
    {codec : BytesCodec}
    {src frame rest : Bytes}
    (smaller : size { codec with state := .head } rest < size codec src)
    (later : ∀ more, codec.decode (src ++ more) =
      (.ok (some frame), { codec with state := .head }, rest ++ more)) :
    codec.Answer src := by
  have now := later []
  rw [List.append_nil, List.append_nil] at now
  exact .gives frame rest smaller now later

theorem Answer.of_fails
    {codec : BytesCodec}
    {src : Bytes}
    (later : ∀ more, codec.decode (src ++ more) =
      (.error tooBigPacket, codec, src ++ more)) :
    codec.Answer src := by
  have now := later []
  rw [List.append_nil] at now
  exact .fails now later

theorem decode_data
    {codec : BytesCodec}
    {n : Nat}
    (notRaw : codec.raw = false)
    (state : codec.state = .data n)
    (src : Bytes) :
    codec.decode src = codec.decodeBody n src := by
  simp only [decode, notRaw, Bool.false_eq_true, if_false, state]

theorem decode_head
    {codec : BytesCodec}
    (notRaw : codec.raw = false)
    (state : codec.state = .head)
    (src : Bytes) :
    codec.decode src =
      match codec.decodeHead src with
      | (.error error, src) => (.error error, codec, src)
      | (.ok (some n), src) => decodeBody { codec with state := .data n } n src
      | (.ok none, src) => (.ok none, codec, src) := by
  simp only [decode, notRaw, Bool.false_eq_true, if_false, state]

/-- A codec that waits for a payload. -/
theorem answer_of_data
    {codec : BytesCodec}
    {n : Nat}
    (notRaw : codec.raw = false)
    (state : codec.state = .data n)
    (src : Bytes) :
    codec.Answer src := by
  rcases decodeBody_cases codec n src with waits | ⟨whole, gives⟩
  · refine .waits codec src ?_ notRaw fun more => rfl
    rw [decode_data notRaw state, waits]
  · have later : ∀ more, codec.decode (src ++ more) =
        (.ok (some (src.take n)), { codec with state := .head },
          src.drop n ++ more) := by
      intro more
      rw [decode_data notRaw state, gives]
    refine Answer.of_gives ?_ later
    simp only [size, state, List.length_drop]
    omega

/-- A codec that waits for a header. -/
theorem answer_of_head
    {codec : BytesCodec}
    (notRaw : codec.raw = false)
    (state : codec.state = .head)
    (src : Bytes) :
    codec.Answer src := by
  rcases decodeHead_cases codec src with waits | ⟨headLen, positive, whole, gives⟩
  · refine .waits codec src ?_ notRaw fun more => rfl
    rw [decode_head notRaw state, waits]
  rcases Nat.lt_or_ge codec.maxPacketLength (headNumber headLen src) with
    tooBig | allowed
  · apply Answer.of_fails
    intro more
    rw [decode_head notRaw state, gives, if_pos tooBig]
  let n := headNumber headLen src
  let keeping : BytesCodec := { codec with state := .data n }
  have header : ∀ more, codec.decode (src ++ more) =
      keeping.decodeBody n (src.drop headLen ++ more) := by
    intro more
    rw [decode_head notRaw state, gives, if_neg (Nat.not_lt.mpr allowed)]
  rcases decodeBody_cases keeping n (src.drop headLen) with
    waits | ⟨enough, body⟩
  · refine .waits keeping (src.drop headLen) ?_ notRaw fun more => ?_
    · rw [← List.append_nil src, header, List.append_nil, List.append_nil, waits]
    · have keepingNotRaw : keeping.raw = false := notRaw
      rw [header, decode_data keepingNotRaw rfl]
  · have later : ∀ more, codec.decode (src ++ more) =
        (.ok (some ((src.drop headLen).take n)), { codec with state := .head },
          (src.drop headLen).drop n ++ more) := by
      intro more
      rw [header, body]
    refine Answer.of_gives ?_ later
    simp only [size, state, List.length_drop]
    omega

theorem answer
    {codec : BytesCodec}
    (notRaw : codec.raw = false)
    (src : Bytes) :
    codec.Answer src := by
  cases state : codec.state with
  | head => exact answer_of_head notRaw state src
  | data n => exact answer_of_data notRaw state src

/-- A raw codec hands over the whole buffer. -/
theorem decode_raw_frame
    {codec next : BytesCodec}
    {src frame rest : Bytes}
    (isRaw : codec.raw = true)
    (frameGiven : codec.decode src = (.ok (some frame), next, rest)) :
    size next rest < size codec src := by
  simp only [decode, isRaw, if_true] at frameGiven
  split at frameGiven
  · next nonempty =>
      cases frameGiven
      have positive : 0 < src.length := by
        apply List.length_pos_of_ne_nil
        simpa using nonempty
      cases state : codec.state with
      | head =>
          simp only [size, state, List.length_drop]
          omega
      | data n =>
          simp only [size, state, List.length_drop]
          omega
  · cases frameGiven

/-- Frames make the buffer smaller. -/
theorem decode_frame_size
    {codec next : BytesCodec}
    {src frame rest : Bytes}
    (frameGiven : codec.decode src = (.ok (some frame), next, rest)) :
    size next rest < size codec src := by
  cases isRaw : codec.raw with
  | true => exact decode_raw_frame isRaw frameGiven
  | false =>
      cases answer isRaw src with
      | waits waiting remaining now stays later =>
          rw [now] at frameGiven
          cases frameGiven
      | gives given remaining smaller now later =>
          rw [now] at frameGiven
          cases frameGiven
          exact smaller
      | fails now later =>
          rw [now] at frameGiven
          cases frameGiven

/-- `BytesCodec` as a decoder of bytes. -/
def decoder : Lib.Decoder BytesCodec UInt8 Bytes IoError where
  decode := decode
  size := size
  size_lt := decode_frame_size

@[simp] theorem decoder_decode : decoder.decode = decode := rfl

/-- A codec that is not raw may be suspended anywhere. -/
theorem decoder_resumable :
    decoder.Resumable fun codec => codec.raw = false where
  valid_next := by
    intro codec src notRaw
    rw [decoder_decode]
    cases answer notRaw src with
    | waits next rest now stays later => rw [now]; exact stays
    | gives frame rest smaller now later => rw [now]; exact notRaw
    | fails now later => rw [now]; exact notRaw
  frame_append := by
    intro codec src frame next rest more notRaw frameGiven
    rw [decoder_decode] at frameGiven ⊢
    cases answer notRaw src with
    | waits waiting remaining now stays later =>
        rw [now] at frameGiven
        cases frameGiven
    | gives given remaining smaller now later =>
        rw [now] at frameGiven
        cases frameGiven
        exact later more
    | fails now later =>
        rw [now] at frameGiven
        cases frameGiven
  error_append := by
    intro codec src failure more notRaw failed
    rw [decoder_decode] at failed ⊢
    cases answer notRaw src with
    | waits waiting remaining now stays later =>
        rw [now] at failed
        cases failed
    | gives given remaining smaller now later =>
        rw [now] at failed
        cases failed
    | fails now later =>
        rw [now] at failed
        rw [later]
        exact failed
  wait_append := by
    intro codec src next rest more notRaw waited
    rw [decoder_decode] at waited ⊢
    cases answer notRaw src with
    | waits waiting remaining now stays later =>
        rw [now] at waited
        cases waited
        exact later more
    | gives given remaining smaller now later =>
        rw [now] at waited
        cases waited
    | fails now later =>
        rw [now] at waited
        cases waited

/-! ## Headers -/

/-- Or with a number shifted above the other one is addition. -/
theorem or_shifted
    {low width : Nat}
    (fits : low < 2 ^ width)
    (high : Nat) :
    low ||| high <<< width = low + high * 2 ^ width := by
  rw [Nat.lor_comm, ← Nat.shiftLeft_add_eq_or_of_lt fits, Nat.shiftLeft_eq]
  omega

/-- A width below four in the two bits a shifted length leaves free. -/
theorem shifted_or_tag
    (length : Nat)
    {tag : Nat}
    (low : tag < 4) :
    length <<< 2 ||| tag = 4 * length + tag := by
  have tagFits : tag < 2 ^ 2 := low
  rw [← Nat.shiftLeft_add_eq_or_of_lt tagFits, Nat.shiftLeft_eq]
  omega

theorem tagged16
    {length : Nat}
    (fits : length ≤ 0x3FFF) :
    (UInt16.ofNat (length <<< 2) ||| 0x1).toNat = 4 * length + 1 := by
  have shiftedFits : length <<< 2 < 2 ^ 16 := by
    rw [Nat.shiftLeft_eq]
    omega
  rw [UInt16.toNat_or, UInt16.toNat_ofNat', Nat.mod_eq_of_lt shiftedFits]
  exact shifted_or_tag length (by decide)

theorem tagged32
    {length : Nat}
    {tag : UInt32}
    (fits : length ≤ 0x3FFFFFFF)
    (low : tag.toNat < 4) :
    (UInt32.ofNat (length <<< 2) ||| tag).toNat = 4 * length + tag.toNat := by
  have shiftedFits : length <<< 2 < 2 ^ 32 := by
    rw [Nat.shiftLeft_eq]
    omega
  rw [UInt32.toNat_or, UInt32.toNat_ofNat', Nat.mod_eq_of_lt shiftedFits]
  exact shifted_or_tag length low

theorem headLen_eq (first : UInt8) :
    ((first &&& 0x3) + 1).toNat = first.toNat % 4 + 1 := by
  have masked : first.toNat &&& 3 = first.toNat % 4 :=
    Nat.and_two_pow_sub_one_eq_mod first.toNat 2
  rw [UInt8.toNat_add, UInt8.toNat_and, UInt8.toNat_one]
  change ((first.toNat &&& 3) + 1) % 256 = first.toNat % 4 + 1
  omega

/-- The bytes before a payload: their number is in the low bits of the first,
and the length of the payload in the others. -/
def Announces (head : Bytes) (length : Nat) : Prop :=
  ∃ first tail, head = first :: tail ∧
    ((first &&& 0x3) + 1).toNat = head.length ∧
    ∀ rest, headNumber head.length (head ++ rest) = length

theorem announces_one
    {length : Nat}
    {b0 : UInt8}
    (number : b0.toNat = 4 * length) :
    Announces [b0] length := by
  refine ⟨b0, [], rfl, ?_, ?_⟩
  · rw [headLen_eq, List.length_singleton]
    omega
  · intro rest
    change b0.toNat >>> 2 = length
    rw [Nat.shiftRight_eq_div_pow, number]
    omega

theorem announces_two
    {length : Nat}
    {b0 b1 : UInt8}
    (number : b0.toNat + b1.toNat * 2 ^ 8 = 4 * length + 1) :
    Announces [b0, b1] length := by
  refine ⟨b0, [b1], rfl, ?_, ?_⟩
  · rw [headLen_eq, List.length_cons, List.length_singleton]
    omega
  · intro rest
    change (b0.toNat ||| b1.toNat <<< 8) >>> 2 = length
    rw [or_shifted b0.toNat_lt, number, Nat.shiftRight_eq_div_pow]
    omega

theorem announces_three
    {length : Nat}
    {b0 b1 b2 : UInt8}
    (number : b0.toNat + b1.toNat * 2 ^ 8 + b2.toNat * 2 ^ 16 = 4 * length + 2) :
    Announces [b0, b1, b2] length := by
  have bound0 := b0.toNat_lt
  have bound1 := b1.toNat_lt
  have bound : b0.toNat + b1.toNat * 2 ^ 8 < 2 ^ 16 := by omega
  refine ⟨b0, [b1, b2], rfl, ?_, ?_⟩
  · rw [headLen_eq, List.length_cons, List.length_cons, List.length_singleton]
    omega
  · intro rest
    change (b0.toNat ||| b1.toNat <<< 8 ||| b2.toNat <<< 16) >>> 2 = length
    rw [or_shifted bound0, or_shifted bound, number, Nat.shiftRight_eq_div_pow]
    omega

theorem announces_four
    {length : Nat}
    {b0 b1 b2 b3 : UInt8}
    (number : b0.toNat + b1.toNat * 2 ^ 8 + b2.toNat * 2 ^ 16 +
      b3.toNat * 2 ^ 24 = 4 * length + 3) :
    Announces [b0, b1, b2, b3] length := by
  have bound0 := b0.toNat_lt
  have bound1 := b1.toNat_lt
  have bound2 := b2.toNat_lt
  have bound01 : b0.toNat + b1.toNat * 2 ^ 8 < 2 ^ 16 := by omega
  have bound : b0.toNat + b1.toNat * 2 ^ 8 + b2.toNat * 2 ^ 16 < 2 ^ 24 := by
    omega
  refine ⟨b0, [b1, b2, b3], rfl, ?_, ?_⟩
  · rw [headLen_eq, List.length_cons, List.length_cons, List.length_cons,
      List.length_singleton]
    omega
  · intro rest
    change (b0.toNat ||| b1.toNat <<< 8 ||| b2.toNat <<< 16 |||
      b3.toNat <<< 24) >>> 2 = length
    rw [or_shifted bound0, or_shifted bound01, or_shifted bound, number,
      Nat.shiftRight_eq_div_pow]
    omega

theorem littleEndian16 (value : UInt16) :
    value.toUInt8.toNat + (value >>> 8).toUInt8.toNat * 2 ^ 8 = value.toNat := by
  have bound := value.toNat_lt
  have high : (value >>> 8).toNat = value.toNat / 2 ^ 8 := by
    rw [UInt16.toNat_shiftRight]
    exact Nat.shiftRight_eq_div_pow _ 8
  rw [UInt16.toNat_toUInt8, UInt16.toNat_toUInt8, high]
  omega

theorem littleEndian32 (value : UInt32) :
    value.toUInt8.toNat + (value >>> 8).toUInt8.toNat * 2 ^ 8 +
      (value >>> 16).toUInt8.toNat * 2 ^ 16 +
      (value >>> 24).toUInt8.toNat * 2 ^ 24 = value.toNat := by
  have bound := value.toNat_lt
  have second : (value >>> 8).toNat = value.toNat / 2 ^ 8 := by
    rw [UInt32.toNat_shiftRight]
    exact Nat.shiftRight_eq_div_pow _ 8
  have third : (value >>> 16).toNat = value.toNat / 2 ^ 16 := by
    rw [UInt32.toNat_shiftRight]
    exact Nat.shiftRight_eq_div_pow _ 16
  have fourth : (value >>> 24).toNat = value.toNat / 2 ^ 24 := by
    rw [UInt32.toNat_shiftRight]
    exact Nat.shiftRight_eq_div_pow _ 24
  rw [UInt32.toNat_toUInt8, UInt32.toNat_toUInt8, UInt32.toNat_toUInt8,
    UInt32.toNat_toUInt8, second, third, fourth]
  omega

/-- The split `encode` makes of a header of three bytes. -/
theorem littleEndian24
    {value : UInt32}
    (fits : value.toNat < 2 ^ 24) :
    (value &&& 0xFFFF).toUInt16.toUInt8.toNat +
      ((value &&& 0xFFFF).toUInt16 >>> 8).toUInt8.toNat * 2 ^ 8 +
      (value >>> 16).toUInt8.toNat * 2 ^ 16 = value.toNat := by
  have low : (value &&& 0xFFFF).toUInt16.toNat = value.toNat % 2 ^ 16 := by
    rw [UInt32.toNat_toUInt16, UInt32.toNat_and]
    change (value.toNat &&& 2 ^ 16 - 1) % 2 ^ 16 = value.toNat % 2 ^ 16
    rw [Nat.and_two_pow_sub_one_eq_mod, Nat.mod_mod]
  have high : (value >>> 16).toNat = value.toNat / 2 ^ 16 := by
    rw [UInt32.toNat_shiftRight]
    exact Nat.shiftRight_eq_div_pow _ 16
  rw [littleEndian16, low, UInt32.toNat_toUInt8, high]
  omega

/-- Every payload short enough is written behind a header that announces it. -/
theorem encode_announces
    {codec : BytesCodec}
    {data : Bytes}
    (notRaw : codec.raw = false)
    (fits : data.length ≤ maxPayload) :
    ∃ head, Announces head data.length ∧
      ∀ buf, codec.encode data buf = (.ok (), buf ++ (head ++ data)) := by
  have bound : data.length ≤ 0x3FFFFFFF := fits
  simp only [encode, notRaw, Bool.false_eq_true, if_false]
  by_cases one : data.length ≤ 0x3F
  · refine ⟨[UInt8.ofNat (data.length <<< 2)], announces_one ?_, ?_⟩
    · rw [UInt8.toNat_ofNat', Nat.shiftLeft_eq]
      omega
    · intro buf
      rw [if_pos one, List.append_assoc]
  simp only [if_neg one]
  by_cases two : data.length ≤ 0x3FFF
  · refine ⟨putU16Le [] (UInt16.ofNat (data.length <<< 2) ||| 0x1),
      announces_two ?_, ?_⟩
    · rw [littleEndian16, tagged16 two]
    · intro buf
      rw [if_pos two, putU16Le, putU16Le, List.nil_append, List.append_assoc]
  simp only [if_neg two]
  by_cases three : data.length ≤ 0x3FFFFF
  · have value : (UInt32.ofNat (data.length <<< 2) ||| 0x2).toNat =
        4 * data.length + 2 := tagged32 bound (by decide)
    refine ⟨putU16Le []
        ((UInt32.ofNat (data.length <<< 2) ||| 0x2) &&& 0xFFFF).toUInt16 ++
          [((UInt32.ofNat (data.length <<< 2) ||| 0x2) >>> 16).toUInt8],
      announces_three ?_, ?_⟩
    · rw [littleEndian24 (by omega), value]
    · intro buf
      rw [if_pos three]
      simp only [putU16Le, List.nil_append, List.append_assoc]
  simp only [if_neg three, if_pos bound]
  have value : (UInt32.ofNat (data.length <<< 2) ||| 0x3).toNat =
      4 * data.length + 3 := tagged32 bound (by decide)
  refine ⟨putU32Le [] (UInt32.ofNat (data.length <<< 2) ||| 0x3),
    announces_four ?_, ?_⟩
  · rw [littleEndian32, value]
  · intro buf
    rw [putU32Le, putU32Le, List.nil_append, List.append_assoc]

/-- A payload behind its header comes out as one frame. -/
theorem decode_announced
    {codec : BytesCodec}
    {head data : Bytes}
    (notRaw : codec.raw = false)
    (state : codec.state = .head)
    (announces : Announces head data.length)
    (allowed : data.length ≤ codec.maxPacketLength)
    (rest : Bytes) :
    codec.decode (head ++ data ++ rest) = (.ok (some data), codec, rest) := by
  obtain ⟨first, tail, rfl, headLen, number⟩ := announces
  have header : codec.decodeHead (first :: tail ++ (data ++ rest)) =
      (.ok (some data.length), data ++ rest) := by
    have whole : ¬(first :: tail ++ (data ++ rest)).length <
        (first :: tail).length := by
      rw [List.length_append]
      omega
    have numberHere := number (data ++ rest)
    have dropped : (first :: tail ++ (data ++ rest)).drop (first :: tail).length =
        data ++ rest := List.drop_left
    simp only [List.cons_append] at whole numberHere dropped ⊢
    simp only [decodeHead, headLen]
    rw [if_neg whole, numberHere, if_neg (Nat.not_lt.mpr allowed), dropped]
  have body : decodeBody { codec with state := .data data.length } data.length
      (data ++ rest) = (.ok (some data), codec, rest) := by
    have whole : ¬(data ++ rest).length < data.length := by
      rw [List.length_append]
      omega
    simp only [decodeBody, decodeData, if_neg whole, List.take_left,
      List.drop_left, ← state]
  rw [List.append_assoc, decode_head notRaw state, header]
  exact body

/-- Payloads encoded into one stream come out of it again, and nothing is left. -/
theorem encodeAll_drain
    (codec : BytesCodec)
    (notRaw : codec.raw = false)
    (state : codec.state = .head)
    (encoder : BytesCodec)
    (encoderNotRaw : encoder.raw = false)
    (payloads : List Bytes)
    (fit : ∀ data ∈ payloads,
      data.length ≤ maxPayload ∧ data.length ≤ codec.maxPacketLength) :
    ∃ stream, (∀ buf, encoder.encodeAll payloads buf = (.ok (), buf ++ stream)) ∧
      decoder.drain codec stream = (payloads, .ok (codec, [])) := by
  induction payloads with
  | nil =>
      refine ⟨[], fun buf => ?_, Lib.Decoder.drain_of_wait ?_⟩
      · rw [encodeAll, List.append_nil]
      · simp only [decoder_decode, decode, notRaw, Bool.false_eq_true, if_false,
          state, decodeHead]
  | cons data payloads inductionHypothesis =>
      obtain ⟨stream, encoded, drained⟩ := inductionHypothesis
        fun other member => fit other (List.mem_cons_of_mem data member)
      obtain ⟨lengthFits, allowed⟩ := fit data List.mem_cons_self
      obtain ⟨head, announces, written⟩ := encode_announces encoderNotRaw lengthFits
      refine ⟨head ++ data ++ stream, fun buf => ?_, ?_⟩
      · rw [encodeAll, written]
        simp only [encoded, List.append_assoc]
      · have frame := decode_announced notRaw state announces allowed stream
        rw [Lib.Decoder.drain_of_frame frame, drained]

/-! ## Streams and their pieces -/

/-- A codec at a header with an empty buffer waits. -/
theorem drain_nil
    {codec : BytesCodec}
    (notRaw : codec.raw = false)
    (state : codec.state = .head) :
    decoder.drain codec [] = ([], .ok (codec, [])) := by
  apply Lib.Decoder.drain_of_wait
  rw [decoder_decode, decode_head notRaw state, decodeHead]

/-- From a header on, what comes out depends on the bytes alone. -/
theorem feed_eq_drain
    {codec : BytesCodec}
    (notRaw : codec.raw = false)
    (state : codec.state = .head)
    (chunks : List Bytes) :
    decoder.feed codec [] chunks = decoder.drain codec chunks.flatten :=
  decoder_resumable.feed_eq_drain chunks codec [] notRaw (drain_nil notRaw state)

/-- The only failure of a codec that is not raw. -/
theorem drain_error
    {codec : BytesCodec}
    {src : Bytes}
    {failure : IoError}
    (notRaw : codec.raw = false)
    (failed : (decoder.drain codec src).2 = .error failure) :
    failure = tooBigPacket := by
  refine decoder_resumable.drain_error (fun failure => failure = tooBigPacket) ?_
    codec src notRaw failure failed
  intro codec src failure notRaw failed
  rw [decoder_decode] at failed
  cases answer notRaw src with
  | waits next rest now stays later =>
      rw [now] at failed
      cases failed
  | gives frame rest smaller now later =>
      rw [now] at failed
      cases failed
  | fails now later =>
      rw [now] at failed
      cases failed
      rfl

/-- A payload too long for any header is refused without touching the output. -/
theorem encode_of_lt
    {codec : BytesCodec}
    {data : Bytes}
    (notRaw : codec.raw = false)
    (long : maxPayload < data.length)
    (buf : Bytes) :
    codec.encode data buf = (.error overflowError, buf) := by
  unfold maxPayload at long
  have notOne : ¬data.length ≤ 0x3F := by omega
  have notTwo : ¬data.length ≤ 0x3FFF := by omega
  have notThree : ¬data.length ≤ 0x3FFFFF := by omega
  have notFour : ¬data.length ≤ 0x3FFFFFFF := by omega
  simp only [encode, notRaw, Bool.false_eq_true, if_false, if_neg notOne,
    if_neg notTwo, if_neg notThree, if_neg notFour]

/-- Payloads that fit survive the stream however it is cut, and a payload too long
for any header is refused without touching the output. -/
theorem streaming_round_trip
    (encoder : BytesCodec)
    (encoderNotRaw : encoder.raw = false)
    (maxPacketLength : Nat)
    (payloads : List Bytes)
    (fit : ∀ data ∈ payloads,
      data.length ≤ 0x3FFFFFFF ∧ data.length ≤ maxPacketLength) :
    (∃ stream, encoder.encodeAll payloads [] = (.ok (), stream) ∧
      ∀ chunks, chunks.flatten = stream →
        decoder.feed (new.setMaxPacketLength maxPacketLength) [] chunks =
          (payloads, .ok (⟨.head, false, maxPacketLength⟩, []))) ∧
    ∀ data buf, 0x3FFFFFFF < data.length →
      encoder.encode data buf = (.error overflowError, buf) := by
  constructor
  · obtain ⟨stream, encoded, drained⟩ := encodeAll_drain
      (new.setMaxPacketLength maxPacketLength) rfl rfl encoder encoderNotRaw
      payloads fit
    refine ⟨stream, encoded [], ?_⟩
    rintro chunks rfl
    rw [feed_eq_drain rfl rfl, drained]
    rfl
  · intro data buf long
    exact encode_of_lt encoderNotRaw long buf

/-- Two payloads, the second one empty. -/
theorem streaming_round_trip_two :
    (∃ stream, new.encodeAll [[7, 8], []] [] = (.ok (), stream) ∧
      ∀ chunks, chunks.flatten = stream →
        decoder.feed (new.setMaxPacketLength 2) [] chunks =
          ([[7, 8], []], .ok (⟨.head, false, 2⟩, []))) ∧
    ∀ data buf, 0x3FFFFFFF < data.length →
      new.encode data buf = (.error overflowError, buf) :=
  streaming_round_trip new rfl 2 [[7, 8], []] (by decide)

/-- Two ways of cutting the same bytes give the same frames and the same outcome,
and only a packet that is too big stops the decoder. -/
theorem decoding_ignores_cuts
    (maxPacketLength : Nat)
    (stream : Bytes)
    (left right : List Bytes)
    (leftCut : left.flatten = stream)
    (rightCut : right.flatten = stream) :
    decoder.feed (new.setMaxPacketLength maxPacketLength) [] left =
        decoder.feed (new.setMaxPacketLength maxPacketLength) [] right ∧
      ∀ failure,
        (decoder.feed (new.setMaxPacketLength maxPacketLength) [] left).2 =
            .error failure →
          failure = tooBigPacket := by
  have notRaw : (new.setMaxPacketLength maxPacketLength).raw = false := rfl
  have state : (new.setMaxPacketLength maxPacketLength).state = .head := rfl
  constructor
  · rw [feed_eq_drain notRaw state, feed_eq_drain notRaw state, leftCut, rightCut]
  · intro failure failed
    rw [feed_eq_drain notRaw state] at failed
    exact drain_error notRaw failed

/-- A header cut in two against the same header whole. -/
theorem decoding_ignores_cuts_header :
    decoder.feed (new.setMaxPacketLength 3) [] [[0x11], [0x00, 0x05]] =
        decoder.feed (new.setMaxPacketLength 3) [] [[0x11, 0x00, 0x05]] ∧
      ∀ failure,
        (decoder.feed (new.setMaxPacketLength 3) [] [[0x11], [0x00, 0x05]]).2 =
            .error failure →
          failure = tooBigPacket :=
  decoding_ignores_cuts 3 [0x11, 0x00, 0x05] _ _ rfl rfl

end BytesCodec
end Stream
end OneDesk
