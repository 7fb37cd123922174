import OneDesk.Lib.Run
import OneDesk.Lib.Tally

/-!
# Negotiation of the codec

`Encoder::update` keeps what every viewer can decode and chooses the format for all
of them: the one most of them prefer among the usable ones, or else an automatic
one.  VP9 counts as usable without a look at what the viewers announce.
-/

namespace OneDesk
namespace Video

/-- `CodecFormat`. -/
inductive CodecFormat
  | vp8
  | vp9
  | av1
  | h264
  | h265
  | unknown
  deriving DecidableEq

/-- `PreferCodec`. -/
inductive PreferCodec
  | auto
  | vp9
  | h264
  | h265
  | vp8
  | av1
  deriving DecidableEq

/-- Number of a preference on the wire. -/
def PreferCodec.value : PreferCodec → Int
  | .auto => 0
  | .vp9 => 1
  | .h264 => 2
  | .h265 => 3
  | .vp8 => 4
  | .av1 => 5

/-- `enum_value_or(PreferCodec::Auto)`. -/
def PreferCodec.ofValue (value : Int) : PreferCodec :=
  if value = 1 then .vp9
  else if value = 2 then .h264
  else if value = 3 then .h265
  else if value = 4 then .vp8
  else if value = 5 then .av1
  else .auto

/-- `SupportedDecoding`, without chroma.  The preference is a number. -/
structure SupportedDecoding where
  abilityVp9 : Int
  abilityH264 : Int
  abilityH265 : Int
  prefer : Int
  abilityVp8 : Int
  abilityAv1 : Int
  deriving DecidableEq

/-- `SupportedDecoding::default`. -/
def SupportedDecoding.default : SupportedDecoding where
  abilityVp9 := 0
  abilityH264 := 0
  abilityH265 := 0
  prefer := 0
  abilityVp8 := 0
  abilityAv1 := 0

/-- What a viewer announces for a format. -/
def SupportedDecoding.ability (decoding : SupportedDecoding) : CodecFormat → Int
  | .vp8 => decoding.abilityVp8
  | .vp9 => decoding.abilityVp9
  | .av1 => decoding.abilityAv1
  | .h264 => decoding.abilityH264
  | .h265 => decoding.abilityH265
  | .unknown => 0

/-- A viewer announces that it decodes a format. -/
def SupportedDecoding.Announces
    (decoding : SupportedDecoding)
    (format : CodecFormat) : Prop :=
  0 < decoding.ability format

/-- `SupportedEncoding`, without chroma. -/
structure SupportedEncoding where
  vp8 : Bool
  av1 : Bool
  h264 : Bool
  h265 : Bool
  deriving DecidableEq

/-- An order in which a `HashMap` may be iterated. -/
structure MapOrder (Entry : Type) where
  iter : List Entry → List Entry
  perm : ∀ entries, (iter entries).Perm entries

/-- What `Encoder::update` asks the machine for. -/
structure Machine where
  /-- The feature `vram`. -/
  vram : Bool
  /-- The feature `hwcodec`. -/
  hwcodec : Bool
  /-- `disable_av1`. -/
  disableAv1 : Bool
  /-- `enable_vram_option(true)`. -/
  enableVramOption : Bool
  /-- `enable_hwcodec_option`. -/
  enableHwcodecOption : Bool
  /-- The length of `VRamEncoder::available`. -/
  vramAvailable : CodecFormat → Nat
  /-- The name of `HwRamEncoder::try_get`. -/
  hwTryGet : CodecFormat → Option String
  /-- The option `av1-test`. -/
  av1Test : String
  /-- `System::total_memory`. -/
  totalMemory : Nat
  /-- How the recorded viewers are iterated. -/
  order : MapOrder (Int × SupportedDecoding)

/-- `PEER_DECODINGS`: no connection is recorded twice. -/
structure PeerDecodings where
  entries : List (Int × SupportedDecoding)
  nodup : (entries.map Prod.fst).Nodup

/-- `EncodingUpdate`. -/
inductive EncodingUpdate
  | update (id : Int) (decoding : SupportedDecoding)
  | remove (id : Int)
  | newOnlyVp9 (id : Int)
  | check
  deriving DecidableEq

namespace PeerDecodings

/-- `HashMap::remove`. -/
def remove (decodings : PeerDecodings) (id : Int) : PeerDecodings where
  entries := decodings.entries.filter fun entry => entry.1 ≠ id
  nodup := (List.filter_sublist.map Prod.fst).nodup decodings.nodup

/-- `HashMap::insert`. -/
def insert (decodings : PeerDecodings) (id : Int) (decoding : SupportedDecoding) :
    PeerDecodings where
  entries := (id, decoding) :: (decodings.remove id).entries
  nodup := by
    rw [List.map_cons, List.nodup_cons]
    refine ⟨?_, (decodings.remove id).nodup⟩
    intro member
    obtain ⟨entry, kept, isId⟩ := List.mem_map.mp member
    exact absurd isId (by simpa using (List.mem_filter.mp kept).2)

/-- The viewers recorded after an update. -/
def record (decodings : PeerDecodings) : EncodingUpdate → PeerDecodings
  | .update id decoding => decodings.insert id decoding
  | .remove id => decodings.remove id
  | .newOnlyVp9 id => decodings.insert id { SupportedDecoding.default with abilityVp9 := 1 }
  | .check => decodings

/-- What the recorded viewers announce. -/
def peers (decodings : PeerDecodings) : List SupportedDecoding :=
  decodings.entries.map Prod.snd

end PeerDecodings

/-- The three global values of the negotiation. -/
structure Negotiation where
  peerDecodings : PeerDecodings
  encodeCodecFormat : CodecFormat
  usableEncoding : Option SupportedEncoding

/-- The values a process begins with. -/
def Negotiation.new : Negotiation where
  peerDecodings := ⟨[], List.nodup_nil⟩
  encodeCodecFormat := .vp9
  usableEncoding := none

namespace Machine

variable (machine : Machine) (peers : List SupportedDecoding)

/-- Every viewer announces the format, and there is one. -/
def allSupport (format : CodecFormat) : Bool :=
  decide (0 < peers.length) && peers.all fun decoding => decide (0 < decoding.ability format)

/-- `h264vram_encoding` and `h265vram_encoding`. -/
def vramEncoding (format : CodecFormat) : Bool :=
  machine.vram && machine.enableVramOption && allSupport peers format &&
    decide (0 < machine.vramAvailable format)

/-- `h264hw_encoding` and `h265hw_encoding`. -/
def hwEncoding (format : CodecFormat) : Option String :=
  if machine.hwcodec && machine.enableHwcodecOption && allSupport peers format then
    machine.hwTryGet format
  else none

/-- An encoder for H.264 or H.265 is there. -/
def hardwareEncoding (format : CodecFormat) : Bool :=
  machine.vramEncoding peers format || (machine.hwEncoding peers format).isSome

/-- `vp8_useable`. -/
def vp8Useable : Bool := allSupport peers .vp8

/-- `av1_useable`. -/
def av1Useable : Bool := allSupport peers .av1 && !machine.disableAv1

/-- `h264_useable`. -/
def h264Useable : Bool := allSupport peers .h264 && machine.hardwareEncoding peers .h264

/-- `h265_useable`. -/
def h265Useable : Bool := allSupport peers .h265 && machine.hardwareEncoding peers .h265

/-- The preference of a viewer counts. -/
def counted (decoding : SupportedDecoding) : Bool :=
  decoding.prefer == PreferCodec.vp9.value ||
    decoding.prefer == PreferCodec.vp8.value && vp8Useable peers ||
    decoding.prefer == PreferCodec.av1.value && machine.av1Useable peers ||
    decoding.prefer == PreferCodec.h264.value && machine.h264Useable peers ||
    decoding.prefer == PreferCodec.h265.value && machine.h265Useable peers

/-- The preferences that count. -/
def preferences : List Int :=
  (peers.filter (machine.counted peers)).map (·.prefer)

/-- The most frequent preference, `Auto` if none counts. -/
def preference : PreferCodec :=
  .ofValue ((Lib.mostFrequent (machine.preferences peers)).getD PreferCodec.auto.value)

/-- The format without a preference: H.265, then H.264, then AV1 or VP9, and VP8
instead of these on a machine with little memory. -/
def autoCodec : CodecFormat :=
  let autoCodec :=
    if machine.av1Useable peers && machine.av1Test != "N" then CodecFormat.av1 else .vp9
  let autoCodec := if machine.h264Useable peers then .h264 else autoCodec
  let autoCodec := if machine.h265Useable peers then .h265 else autoCodec
  if (autoCodec == .vp9 || autoCodec == .av1) && vp8Useable peers &&
      decide (machine.totalMemory ≤ 4 * 1024 * 1024 * 1024) then
    .vp8
  else autoCodec

/-- The negotiated format. -/
def format : CodecFormat :=
  match machine.preference peers with
  | .vp8 => .vp8
  | .vp9 => .vp9
  | .av1 => .av1
  | .h264 =>
      if machine.hardwareEncoding peers .h264 then .h264 else machine.autoCodec peers
  | .h265 =>
      if machine.hardwareEncoding peers .h265 then .h265 else machine.autoCodec peers
  | .auto => machine.autoCodec peers

end Machine

/-- `Encoder::update`. -/
def Negotiation.update
    (negotiation : Negotiation)
    (machine : Machine)
    (update : EncodingUpdate) :
    Negotiation :=
  let decodings := negotiation.peerDecodings.record update
  let peers := (machine.order.iter decodings.entries).map Prod.snd
  { peerDecodings := decodings
    encodeCodecFormat := machine.format peers
    usableEncoding := some {
      vp8 := Machine.vp8Useable peers
      av1 := machine.av1Useable peers
      h264 := machine.h264Useable peers
      h265 := machine.h265Useable peers } }

/-! ## Serving every viewer -/

/-- The preference for a format. -/
def CodecFormat.prefer : CodecFormat → PreferCodec
  | .vp8 => .vp8
  | .vp9 => .vp9
  | .av1 => .av1
  | .h264 => .h264
  | .h265 => .h265
  | .unknown => .auto

/-- The format can be encoded here. -/
def Machine.canEncode (machine : Machine) : CodecFormat → Bool
  | .vp8 => true
  | .vp9 => true
  | .av1 => !machine.disableAv1
  | .h264 => machine.vram && machine.enableVramOption &&
        decide (0 < machine.vramAvailable .h264) ||
      machine.hwcodec && machine.enableHwcodecOption && (machine.hwTryGet .h264).isSome
  | .h265 => machine.vram && machine.enableVramOption &&
        decide (0 < machine.vramAvailable .h265) ||
      machine.hwcodec && machine.enableHwcodecOption && (machine.hwTryGet .h265).isSome
  | .unknown => false

/-- Every viewer announces the format, and it can be encoded here. -/
def Suits (machine : Machine) (peers : List SupportedDecoding) (format : CodecFormat) :
    Prop :=
  (∀ decoding ∈ peers, decoding.Announces format) ∧ machine.canEncode format = true

/-- How many viewers prefer a format. -/
def preferring (peers : List SupportedDecoding) (format : CodecFormat) : Nat :=
  (peers.map (·.prefer)).count format.prefer.value

/-- The negotiation serves every viewer that is recorded. -/
structure Serves (machine : Machine) (negotiation : Negotiation) : Prop where
  /-- If some format suits all of them, the negotiated one does. -/
  suits : (∃ format, Suits machine negotiation.peerDecodings.peers format) →
    Suits machine negotiation.peerDecodings.peers negotiation.encodeCodecFormat
  /-- What is shown as usable is announced by all of them. -/
  usable : ∀ usable, negotiation.usableEncoding = some usable →
    ∀ decoding ∈ negotiation.peerDecodings.peers,
      (usable.vp8 = true → decoding.Announces .vp8) ∧
      (usable.av1 = true → decoding.Announces .av1) ∧
      (usable.h264 = true → decoding.Announces .h264) ∧
      (usable.h265 = true → decoding.Announces .h265)
  /-- If the format somebody prefers suits all of them, none that does is preferred
  by more than the negotiated one. -/
  majority : (∃ decoding ∈ negotiation.peerDecodings.peers, ∃ format,
      decoding.prefer = format.prefer.value ∧
        Suits machine negotiation.peerDecodings.peers format) →
    ∀ format, Suits machine negotiation.peerDecodings.peers format →
      preferring negotiation.peerDecodings.peers format ≤
        preferring negotiation.peerDecodings.peers negotiation.encodeCodecFormat

/-- A format whose preference counts: one that suits all viewers, or VP9. -/
def Counts (machine : Machine) (peers : List SupportedDecoding) (format : CodecFormat) :
    Prop :=
  format = .vp9 ∨ Suits machine peers format

/-- VP9 is preferred by most: by no fewer viewers than any format that counts, and
by more than those that a viewer before the first of them prefers. -/
def Vp9Leads (machine : Machine) (decodings : PeerDecodings) : Prop :=
  ∃ before decoding after,
    (machine.order.iter decodings.entries).map Prod.snd = before ++ decoding :: after ∧
    decoding.prefer = PreferCodec.vp9.value ∧
    (∀ format, Counts machine decodings.peers format →
      preferring decodings.peers format ≤ preferring decodings.peers .vp9) ∧
    ∀ earlier ∈ before, ∀ format, earlier.prefer = format.prefer.value →
      Counts machine decodings.peers format →
        preferring decodings.peers format < preferring decodings.peers .vp9

/-- VP9 is what is left: no preference counts, and neither H.265 nor H.264, nor AV1
with its test passed, nor VP8 on a machine with little memory suits the viewers. -/
def Vp9Remains (machine : Machine) (decodings : PeerDecodings) : Prop :=
  (∀ decoding ∈ decodings.peers, ∀ format, decoding.prefer = format.prefer.value →
    ¬Counts machine decodings.peers format) ∧
  ¬Suits machine decodings.peers .h264 ∧ ¬Suits machine decodings.peers .h265 ∧
  ¬(Suits machine decodings.peers .av1 ∧ machine.av1Test ≠ "N") ∧
  ¬(Suits machine decodings.peers .vp8 ∧
    machine.totalMemory ≤ 4 * 1024 * 1024 * 1024)

/-- VP9 is not chosen for viewers that do not all announce it while another format
suits them all. -/
def Vp9Fits (machine : Machine) (decodings : PeerDecodings) : Prop :=
  Vp9Leads machine decodings ∨ Vp9Remains machine decodings →
    (∃ format, Suits machine decodings.peers format) →
      ∀ decoding ∈ decodings.peers, decoding.Announces .vp9

section Chosen

variable {machine : Machine} {peers : List SupportedDecoding}

theorem allSupport_iff
    (nonempty : peers ≠ [])
    (format : CodecFormat) :
    Machine.allSupport peers format = true ↔
      ∀ decoding ∈ peers, decoding.Announces format := by
  simp [Machine.allSupport, SupportedDecoding.Announces, List.length_pos_iff, nonempty]

theorem vp8Useable_iff (nonempty : peers ≠ []) :
    Machine.vp8Useable peers = true ↔ Suits machine peers .vp8 := by
  rw [Machine.vp8Useable, allSupport_iff nonempty, Suits]
  simp [Machine.canEncode]

theorem av1Useable_iff (nonempty : peers ≠ []) :
    machine.av1Useable peers = true ↔ Suits machine peers .av1 := by
  rw [Machine.av1Useable, Bool.and_eq_true, allSupport_iff nonempty, Suits,
    Machine.canEncode]

/-- H.264 and H.265 are useable if there is an encoder for them. -/
theorem hardwareUseable_iff
    (nonempty : peers ≠ [])
    {format : CodecFormat}
    (hardware : format = .h264 ∨ format = .h265) :
    (Machine.allSupport peers format && machine.hardwareEncoding peers format) = true ↔
      Suits machine peers format := by
  rw [Bool.and_eq_true, Suits, allSupport_iff nonempty]
  refine and_congr_right fun announced => ?_
  have support := (allSupport_iff nonempty format).mpr announced
  rcases hardware with rfl | rfl <;>
    simp [Machine.hardwareEncoding, Machine.vramEncoding, Machine.hwEncoding, support,
      Machine.canEncode, apply_ite Option.isSome]

theorem h264Useable_iff (nonempty : peers ≠ []) :
    machine.h264Useable peers = true ↔ Suits machine peers .h264 :=
  hardwareUseable_iff nonempty (.inl rfl)

theorem h265Useable_iff (nonempty : peers ≠ []) :
    machine.h265Useable peers = true ↔ Suits machine peers .h265 :=
  hardwareUseable_iff nonempty (.inr rfl)

/-- Nothing suits as an unknown format. -/
theorem not_suits_unknown : ¬Suits machine peers .unknown := by
  rintro ⟨_, encodes⟩
  cases encodes

/-- A format that counts suits all viewers, if it is not VP9. -/
theorem Counts.suits
    {format : CodecFormat}
    (counts : Counts machine peers format)
    (notVp9 : format ≠ .vp9) :
    Suits machine peers format :=
  counts.resolve_left notVp9

/-- A preference counts if it is for a format that does. -/
theorem counted_iff
    (nonempty : peers ≠ [])
    (decoding : SupportedDecoding) :
    machine.counted peers decoding = true ↔
      ∃ format : CodecFormat, decoding.prefer = format.prefer.value ∧
        Counts machine peers format := by
  simp only [Machine.counted, Bool.or_eq_true, Bool.and_eq_true, beq_iff_eq,
    @vp8Useable_iff machine _ nonempty, av1Useable_iff nonempty,
    h264Useable_iff nonempty, h265Useable_iff nonempty]
  constructor
  · rintro ((((isVp9 | ⟨isVp8, suits⟩) | ⟨isAv1, suits⟩) | ⟨isH264, suits⟩) |
      ⟨isH265, suits⟩)
    · exact ⟨.vp9, isVp9, .inl rfl⟩
    · exact ⟨.vp8, isVp8, .inr suits⟩
    · exact ⟨.av1, isAv1, .inr suits⟩
    · exact ⟨.h264, isH264, .inr suits⟩
    · exact ⟨.h265, isH265, .inr suits⟩
  · rintro ⟨format, prefers, isVp9 | suits⟩
    · subst isVp9
      exact .inl (.inl (.inl (.inl prefers)))
    · cases format with
      | vp9 => exact .inl (.inl (.inl (.inl prefers)))
      | vp8 => exact .inl (.inl (.inl (.inr ⟨prefers, suits⟩)))
      | av1 => exact .inl (.inl (.inr ⟨prefers, suits⟩))
      | h264 => exact .inl (.inr ⟨prefers, suits⟩)
      | h265 => exact .inr ⟨prefers, suits⟩
      | unknown => exact absurd suits not_suits_unknown

/-- All preferences for a format that counts are counted. -/
theorem count_preferences
    (nonempty : peers ≠ [])
    {format : CodecFormat}
    (counts : Counts machine peers format) :
    (machine.preferences peers).count format.prefer.value = preferring peers format := by
  rw [Machine.preferences, preferring, List.count_eq_countP, List.count_eq_countP,
    List.countP_map, List.countP_map, List.countP_filter]
  apply List.countP_congr
  intro decoding _
  simp only [Function.comp_apply, beq_iff_eq, Bool.and_eq_true]
  constructor
  · exact fun both => both.1
  · exact fun prefers => ⟨prefers, (counted_iff nonempty decoding).mpr
      ⟨format, prefers, counts⟩⟩

/-- The format of the preference that leads is the negotiated one. -/
theorem format_of_leads
    (nonempty : peers ≠ [])
    {format : CodecFormat}
    (counts : Counts machine peers format)
    (leads : Lib.Leads (machine.preferences peers) format.prefer.value) :
    machine.format peers = format := by
  have chosen := Lib.mostFrequent_eq_some_iff.mpr leads
  cases format with
  | vp8 => simp [Machine.format, Machine.preference, chosen, CodecFormat.prefer,
      PreferCodec.value, PreferCodec.ofValue]
  | vp9 => simp [Machine.format, Machine.preference, chosen, CodecFormat.prefer,
      PreferCodec.value, PreferCodec.ofValue]
  | av1 => simp [Machine.format, Machine.preference, chosen, CodecFormat.prefer,
      PreferCodec.value, PreferCodec.ofValue]
  | h264 =>
      have useable := (h264Useable_iff nonempty).mpr (counts.suits nofun)
      rw [Machine.h264Useable, Bool.and_eq_true] at useable
      simp [Machine.format, Machine.preference, chosen, CodecFormat.prefer,
        PreferCodec.value, PreferCodec.ofValue, useable.2]
  | h265 =>
      have useable := (h265Useable_iff nonempty).mpr (counts.suits nofun)
      rw [Machine.h265Useable, Bool.and_eq_true] at useable
      simp [Machine.format, Machine.preference, chosen, CodecFormat.prefer,
        PreferCodec.value, PreferCodec.ofValue, useable.2]
  | unknown => exact absurd (counts.suits nofun) not_suits_unknown

/-- Without a preference that counts the negotiated format is the automatic one. -/
theorem format_of_no_preference
    (none : machine.preferences peers = []) :
    machine.format peers = machine.autoCodec peers := by
  have chosen := Lib.mostFrequent_eq_none_iff.mpr none
  simp [Machine.format, Machine.preference, chosen, PreferCodec.value,
    PreferCodec.ofValue]

/-- The automatic format is VP9 when nothing it would rather take suits. -/
theorem autoCodec_eq_vp9_iff (nonempty : peers ≠ []) :
    machine.autoCodec peers = .vp9 ↔
      ¬Suits machine peers .h264 ∧ ¬Suits machine peers .h265 ∧
        ¬(Suits machine peers .av1 ∧ machine.av1Test ≠ "N") ∧
        ¬(Suits machine peers .vp8 ∧
          machine.totalMemory ≤ 4 * 1024 * 1024 * 1024) := by
  rw [← vp8Useable_iff nonempty, ← av1Useable_iff nonempty, ← h264Useable_iff nonempty,
    ← h265Useable_iff nonempty,
    ← decide_eq_true_iff (p := machine.totalMemory ≤ 4 * 1024 * 1024 * 1024)]
  unfold Machine.autoCodec
  cases machine.h265Useable peers <;> cases machine.h264Useable peers <;>
    cases machine.av1Useable peers <;> cases Machine.vp8Useable peers <;>
      cases decide (machine.totalMemory ≤ 4 * 1024 * 1024 * 1024) <;>
        by_cases test : machine.av1Test = "N" <;> simp [test]

theorem autoCodec_suits
    (nonempty : peers ≠ [])
    (notVp9 : machine.autoCodec peers ≠ .vp9) :
    Suits machine peers (machine.autoCodec peers) := by
  rcases h265 : machine.h265Useable peers with _ | _
  · rcases h264 : machine.h264Useable peers with _ | _
    · rcases small : Machine.vp8Useable peers &&
          decide (machine.totalMemory ≤ 4 * 1024 * 1024 * 1024) with _ | _
      · rcases av1 : machine.av1Useable peers with _ | _
        · simp [Machine.autoCodec, h265, h264, av1, small] at notVp9
        · have isAv1 : machine.autoCodec peers = .av1 := by
            by_cases test : machine.av1Test = "N"
            · simp [Machine.autoCodec, h265, h264, av1, test, small]
                at notVp9
            · simp [Machine.autoCodec, h265, h264, av1, test, small]
          rw [isAv1]
          exact (av1Useable_iff nonempty).mp av1
      · rw [Bool.and_eq_true] at small
        have suits := (@vp8Useable_iff machine _ nonempty).mp small.1
        have isVp8 : machine.autoCodec peers = .vp8 := by
          unfold Machine.autoCodec
          rw [h265, h264, small.1, small.2]
          split <;> rfl
        rwa [isVp8]
    · have isH264 : machine.autoCodec peers = .h264 := by
        simp [Machine.autoCodec, h265, h264]
      rw [isH264]
      exact (h264Useable_iff nonempty).mp h264
  · have isH265 : machine.autoCodec peers = .h265 := by
      simp [Machine.autoCodec, h265]
    rw [isH265]
    exact (h265Useable_iff nonempty).mp h265

end Chosen

section Negotiated

variable {machine : Machine} {decodings : PeerDecodings}

/-- The viewers in the order in which they are iterated. -/
def Machine.iterated (machine : Machine) (decodings : PeerDecodings) :
    List SupportedDecoding :=
  (machine.order.iter decodings.entries).map Prod.snd

theorem iterated_perm : (machine.iterated decodings).Perm decodings.peers :=
  (machine.order.perm decodings.entries).map Prod.snd

theorem suits_iterated {format : CodecFormat} :
    Suits machine (machine.iterated decodings) format ↔
      Suits machine decodings.peers format := by
  simp only [Suits, iterated_perm.mem_iff]

theorem counts_iterated {format : CodecFormat} :
    Counts machine (machine.iterated decodings) format ↔
      Counts machine decodings.peers format := by
  rw [Counts, Counts, suits_iterated]

theorem preferring_iterated (format : CodecFormat) :
    preferring (machine.iterated decodings) format =
      preferring decodings.peers format :=
  (iterated_perm.map _).count_eq _

theorem iterated_ne_nil (nonempty : decodings.peers ≠ []) :
    machine.iterated decodings ≠ [] := by
  intro empty
  have perm : (machine.iterated decodings).Perm decodings.peers := iterated_perm
  rw [empty] at perm
  exact nonempty perm.nil_eq.symm

/-- A preference leads, for a format that counts, or none counts. -/
theorem leads_or_none (nonempty : decodings.peers ≠ []) :
    (∃ format, Counts machine decodings.peers format ∧
      Lib.Leads (machine.preferences (machine.iterated decodings))
        format.prefer.value) ∨
      machine.preferences (machine.iterated decodings) = [] := by
  rcases chosen : Lib.mostFrequent (machine.preferences (machine.iterated decodings))
    with _ | value
  · exact .inr (Lib.mostFrequent_eq_none_iff.mp chosen)
  · have leads := Lib.mostFrequent_eq_some_iff.mp chosen
    obtain ⟨_, decoding, _, _, counts, isValue, _⟩ := Lib.leads_map_filter_iff.mp leads
    obtain ⟨format, prefers, formatCounts⟩ :=
      (counted_iff (iterated_ne_nil nonempty) decoding).mp counts
    refine .inl ⟨format, counts_iterated.mp formatCounts, ?_⟩
    rw [← prefers, isValue]
    exact leads

/-- The preferences of a list name formats that count. -/
theorem count_preferences_le
    (nonempty : decodings.peers ≠ [])
    {leader : CodecFormat}
    (counts : Counts machine decodings.peers leader)
    (most : ∀ format, Counts machine decodings.peers format →
      preferring decodings.peers format ≤ preferring decodings.peers leader)
    (value : Int) :
    (machine.preferences (machine.iterated decodings)).count value ≤
      (machine.preferences (machine.iterated decodings)).count leader.prefer.value := by
  by_cases member : value ∈ machine.preferences (machine.iterated decodings)
  · obtain ⟨decoding, isCounted, rfl⟩ := List.mem_map.mp member
    obtain ⟨format, prefers, formatCounts⟩ :=
      (counted_iff (iterated_ne_nil nonempty) decoding).mp (List.mem_filter.mp isCounted).2
    rw [prefers, count_preferences (iterated_ne_nil nonempty) formatCounts,
      count_preferences (iterated_ne_nil nonempty) (counts_iterated.mpr counts),
      preferring_iterated, preferring_iterated]
    exact most format (counts_iterated.mp formatCounts)
  · rw [List.count_eq_zero.mpr member]
    exact Nat.zero_le _

theorem vp9Leads_iff (nonempty : decodings.peers ≠ []) :
    Vp9Leads machine decodings ↔
      Lib.Leads (machine.preferences (machine.iterated decodings))
        CodecFormat.vp9.prefer.value := by
  have someone := @iterated_ne_nil machine _ nonempty
  have count_eq : ∀ format, Counts machine decodings.peers format →
      (machine.preferences (machine.iterated decodings)).count format.prefer.value =
        preferring decodings.peers format := by
    intro format counts
    rw [count_preferences someone (counts_iterated.mpr counts), preferring_iterated]
  have vp9Counts : Counts machine decodings.peers .vp9 := .inl rfl
  rw [Machine.preferences, Lib.leads_map_filter_iff, ← Machine.preferences]
  constructor
  · rintro ⟨before, decoding, after, split, prefers, most, earlier⟩
    refine ⟨before, decoding, after, split, ?_, prefers,
      count_preferences_le nonempty vp9Counts most, ?_⟩
    · exact (counted_iff someone decoding).mpr ⟨.vp9, prefers, .inl rfl⟩
    · intro other occurs counted
      obtain ⟨format, otherPrefers, counts⟩ := (counted_iff someone other).mp counted
      have formatCounts := counts_iterated.mp counts
      rw [otherPrefers, count_eq format formatCounts, count_eq .vp9 vp9Counts]
      exact earlier other occurs format otherPrefers formatCounts
  · rintro ⟨before, decoding, after, split, _, prefers, most, earlier⟩
    refine ⟨before, decoding, after, split, prefers, ?_, ?_⟩
    · intro format counts
      rw [← count_eq format counts, ← count_eq .vp9 vp9Counts]
      exact most _
    · intro other occurs format otherPrefers counts
      rw [← count_eq format counts, ← count_eq .vp9 vp9Counts, ← otherPrefers]
      exact earlier other occurs ((counted_iff someone other).mpr
        ⟨format, otherPrefers, counts_iterated.mpr counts⟩)

theorem vp9Remains_iff (nonempty : decodings.peers ≠ []) :
    Vp9Remains machine decodings ↔
      machine.preferences (machine.iterated decodings) = [] ∧
        machine.autoCodec (machine.iterated decodings) = .vp9 := by
  have someone := @iterated_ne_nil machine _ nonempty
  rw [autoCodec_eq_vp9_iff someone]
  simp only [suits_iterated, Vp9Remains]
  refine and_congr_left fun _ => ?_
  rw [Machine.preferences, List.map_eq_nil_iff, List.filter_eq_nil_iff]
  constructor
  · intro none decoding member isCounted
    obtain ⟨format, prefers, counts⟩ := (counted_iff someone decoding).mp isCounted
    exact none decoding (iterated_perm.mem_iff.mp member) format prefers
      (counts_iterated.mp counts)
  · intro none decoding member format prefers counts
    exact none decoding (iterated_perm.mem_iff.mpr member)
      ((counted_iff someone decoding).mpr
        ⟨format, prefers, counts_iterated.mpr counts⟩)

/-- Formats that count have their own preferences. -/
theorem eq_vp9_of_value
    {format : CodecFormat}
    (same : format.prefer.value = CodecFormat.vp9.prefer.value) :
    format = .vp9 := by
  cases format <;> first | rfl | cases same

/-- VP9 is negotiated if it leads or remains. -/
theorem format_eq_vp9_iff (nonempty : decodings.peers ≠ []) :
    machine.format (machine.iterated decodings) = .vp9 ↔
      Vp9Leads machine decodings ∨ Vp9Remains machine decodings := by
  rw [vp9Leads_iff nonempty, vp9Remains_iff nonempty]
  rcases @leads_or_none machine _ nonempty with ⟨format, counts, leads⟩ | none
  · rw [format_of_leads (iterated_ne_nil nonempty) (counts_iterated.mpr counts) leads]
    constructor
    · rintro rfl
      exact .inl leads
    · rintro (vp9Leads | ⟨none, _⟩)
      · exact eq_vp9_of_value (leads.unique vp9Leads)
      · obtain ⟨before, after, split, _⟩ := leads
        simp [none] at split
  · rw [format_of_no_preference none]
    constructor
    · intro remains
      exact .inr ⟨none, remains⟩
    · rintro (⟨before, after, split, _⟩ | ⟨_, remains⟩)
      · simp [none] at split
      · exact remains

/-- Any other negotiated format suits all viewers. -/
theorem format_suits
    (nonempty : decodings.peers ≠ [])
    (notVp9 : machine.format (machine.iterated decodings) ≠ .vp9) :
    Suits machine decodings.peers (machine.format (machine.iterated decodings)) := by
  rcases leads_or_none nonempty with ⟨format, counts, leads⟩ | none
  · have isFormat := format_of_leads (iterated_ne_nil nonempty)
      (counts_iterated.mpr counts) leads
    rw [isFormat] at notVp9 ⊢
    exact counts.resolve_left notVp9
  · have isAuto := format_of_no_preference none
    rw [isAuto] at notVp9 ⊢
    exact suits_iterated.mp (autoCodec_suits (iterated_ne_nil nonempty) notVp9)

/-- The format most viewers prefer, among those that suit all of them, is no more
preferred than the negotiated one. -/
theorem preferring_le_format
    (nonempty : decodings.peers ≠ [])
    {decoding : SupportedDecoding}
    {preferred : CodecFormat}
    (member : decoding ∈ decodings.peers)
    (prefers : decoding.prefer = preferred.prefer.value)
    (preferredSuits : Suits machine decodings.peers preferred)
    {format : CodecFormat}
    (suits : Suits machine decodings.peers format) :
    preferring decodings.peers format ≤
      preferring decodings.peers (machine.format (machine.iterated decodings)) := by
  have someone := @iterated_ne_nil machine _ nonempty
  rcases leads_or_none nonempty with ⟨leader, counts, leads⟩ | none
  · rw [format_of_leads someone (counts_iterated.mpr counts) leads]
    obtain ⟨_, _, _, most, _⟩ := leads
    have bound := most format.prefer.value
    rwa [count_preferences someone (counts_iterated.mpr (.inr suits)),
      count_preferences someone (counts_iterated.mpr counts), preferring_iterated,
      preferring_iterated] at bound
  · have isCounted := (counted_iff someone decoding).mpr
      ⟨preferred, prefers, counts_iterated.mpr (.inr preferredSuits)⟩
    rw [Machine.preferences, List.map_eq_nil_iff, List.filter_eq_nil_iff] at none
    exact absurd isCounted (none decoding (iterated_perm.mem_iff.mpr member))

end Negotiated

namespace Negotiation

variable (negotiation : Negotiation) (machine : Machine) (update : EncodingUpdate)

/-- What is shown as usable is announced by every viewer. -/
theorem update_usable
    (nonempty : (negotiation.peerDecodings.record update).peers ≠ [])
    {usable : SupportedEncoding}
    (shown : (negotiation.update machine update).usableEncoding = some usable)
    {decoding : SupportedDecoding}
    (member : decoding ∈ (negotiation.peerDecodings.record update).peers) :
    (usable.vp8 = true → decoding.Announces .vp8) ∧
      (usable.av1 = true → decoding.Announces .av1) ∧
      (usable.h264 = true → decoding.Announces .h264) ∧
      (usable.h265 = true → decoding.Announces .h265) := by
  have someone := @iterated_ne_nil machine _ nonempty
  have occurs := (@iterated_perm machine _).mem_iff.mpr member
  cases shown
  refine ⟨fun useable => ?_, fun useable => ?_, fun useable => ?_, fun useable => ?_⟩
  · exact ((@vp8Useable_iff machine _ someone).mp useable).1 decoding occurs
  · exact ((av1Useable_iff someone).mp useable).1 decoding occurs
  · exact ((h264Useable_iff someone).mp useable).1 decoding occurs
  · exact ((h265Useable_iff someone).mp useable).1 decoding occurs

/-- An update serves every viewer if and only if VP9 is not taken for viewers that do
not all announce it while another format suits them. -/
theorem serves_iff
    (nonempty : (negotiation.peerDecodings.record update).peers ≠ []) :
    Serves machine (negotiation.update machine update) ↔
      Vp9Fits machine (negotiation.peerDecodings.record update) := by
  constructor
  · intro serves chosen suitable decoding member
    have suits := serves.suits suitable
    have isVp9 : (negotiation.update machine update).encodeCodecFormat = .vp9 :=
      (format_eq_vp9_iff nonempty).mpr chosen
    rw [isVp9] at suits
    exact suits.1 decoding member
  · intro fits
    refine ⟨?_, ?_, ?_⟩
    · intro suitable
      by_cases isVp9 : machine.format
          (machine.iterated (negotiation.peerDecodings.record update)) = .vp9
      · have announced := fits ((format_eq_vp9_iff nonempty).mp isVp9) suitable
        show Suits machine _ (machine.format (machine.iterated _))
        rw [isVp9]
        exact ⟨announced, rfl⟩
      · exact format_suits nonempty isVp9
    · intro usable shown decoding member
      exact update_usable negotiation machine update nonempty shown member
    · rintro ⟨decoding, member, preferred, prefers, preferredSuits⟩ format suits
      exact preferring_le_format nonempty member prefers preferredSuits suits

end Negotiation

/-- One call of `Encoder::update`, with the machine as it is then. -/
structure Call where
  machine : Machine
  update : EncodingUpdate

/-- The negotiation after a call. -/
def Negotiation.step (negotiation : Negotiation) (call : Call) : Negotiation :=
  negotiation.update call.machine call.update

/-- After every call that leaves a viewer recorded all viewers are served, if and
only if VP9 fits the viewers whenever it is taken. -/
theorem served_iff_vp9Fits (calls : List Call) :
    Lib.Along Negotiation.step
        (fun negotiation call =>
          (negotiation.step call).peerDecodings.peers ≠ [] →
            Serves call.machine (negotiation.step call))
        .new calls ↔
      Lib.Along Negotiation.step
        (fun negotiation call =>
          (negotiation.peerDecodings.record call.update).peers ≠ [] →
            Vp9Fits call.machine (negotiation.peerDecodings.record call.update))
        .new calls := by
  rw [Lib.along_iff_forall_split, Lib.along_iff_forall_split]
  refine forall₄_congr fun before call after _ => ?_
  exact forall_congr' fun nonempty =>
    Negotiation.serves_iff _ call.machine call.update nonempty

/-! ## What a viewer announces -/

/-- What `Decoder::supported_decodings` asks the machine of a viewer for. -/
structure ViewerMachine where
  /-- `disable_av1`. -/
  disableAv1 : Bool
  /-- The feature `hwcodec`, and whether `HwRamDecoder::try_get` finds a decoder. -/
  hwcodec : Bool
  hwTryGet : CodecFormat → Bool
  /-- The feature `vram`, `enable_vram_option(false)` and the length of
  `VRamDecoder::available`. -/
  vram : Bool
  enableVramOption : Bool
  vramAvailable : CodecFormat → Nat
  /-- The feature `mediacodec`, `enable_hwcodec_option` and the decoders it finds. -/
  mediacodec : Bool
  enableHwcodecOption : Bool
  h264DecoderSupport : Bool
  h265DecoderSupport : Bool

/-- An ability as a number. -/
def abilityOf (able : Bool) : Int :=
  if able then 1 else 0

/-- Mark a format as unsupported. -/
def SupportedDecoding.mark (decoding : SupportedDecoding) :
    CodecFormat → SupportedDecoding
  | .vp8 => { decoding with abilityVp8 := 0 }
  | .vp9 => { decoding with abilityVp9 := 0 }
  | .av1 => { decoding with abilityAv1 := 0 }
  | .h264 => { decoding with abilityH264 := 0 }
  | .h265 => { decoding with abilityH265 := 0 }
  | .unknown => decoding

/-- The ability of a viewer to decode H.264 or H.265, before marks. -/
def ViewerMachine.hardwareAbility
    (machine : ViewerMachine)
    (useTextureRender : Bool)
    (format : CodecFormat)
    (decoderSupport : Bool) :
    Int :=
  if machine.mediacodec && machine.enableHwcodecOption then abilityOf decoderSupport
  else
    abilityOf (machine.hwcodec && machine.hwTryGet format ||
      machine.vram && machine.enableVramOption && useTextureRender &&
        decide (0 < machine.vramAvailable format))

/-- `Decoder::supported_decodings`, with the preference that is configured. -/
def supportedDecodings
    (machine : ViewerMachine)
    (prefer : PreferCodec)
    (useTextureRender : Bool)
    (markUnsupported : List CodecFormat) :
    SupportedDecoding :=
  markUnsupported.foldl SupportedDecoding.mark {
    abilityVp8 := 1
    abilityVp9 := 1
    abilityAv1 := if machine.disableAv1 then 0 else 1
    abilityH264 := machine.hardwareAbility useTextureRender .h264
      machine.h264DecoderSupport
    abilityH265 := machine.hardwareAbility useTextureRender .h265
      machine.h265DecoderSupport
    prefer := prefer.value }

/-- A host without hardware encoders and with eight gibibytes of memory. -/
def Machine.plain : Machine where
  vram := false
  hwcodec := false
  disableAv1 := false
  enableVramOption := false
  enableHwcodecOption := false
  vramAvailable := fun _ => 0
  hwTryGet := fun _ => none
  av1Test := ""
  totalMemory := 8 * 1024 * 1024 * 1024
  order := ⟨id, fun entries => List.Perm.refl entries⟩

/-- A viewer without hardware decoders. -/
def ViewerMachine.plain : ViewerMachine where
  disableAv1 := false
  hwcodec := false
  hwTryGet := fun _ => false
  vram := false
  enableVramOption := false
  vramAvailable := fun _ => 0
  mediacodec := false
  enableHwcodecOption := false
  h264DecoderSupport := false
  h265DecoderSupport := false

/-- A viewer that prefers VP9 and has marked it as unsupported. -/
def vp9Marked : SupportedDecoding :=
  supportedDecodings .plain .vp9 false [.vp9]

/-- A viewer that decodes VP8 and AV1 is served VP9, which it does not decode. -/
theorem serves_marked_format :
    ¬Lib.Along Negotiation.step
      (fun negotiation call =>
        (negotiation.step call).peerDecodings.peers ≠ [] →
          Serves call.machine (negotiation.step call))
      .new [⟨.plain, .update 1 vp9Marked⟩] := by
  rintro ⟨serves, _⟩
  have vp8Suits : Suits .plain [vp9Marked] .vp8 := by
    refine ⟨?_, rfl⟩
    intro decoding member
    rw [List.mem_singleton.mp member]
    show (0 : Int) < 1
    decide
  have suits := (serves (List.cons_ne_nil _ _)).suits ⟨.vp8, vp8Suits⟩
  have announced : vp9Marked.Announces .vp9 := suits.1 vp9Marked List.mem_cons_self
  exact absurd announced (lt_irrefl 0)

end Video
end OneDesk
