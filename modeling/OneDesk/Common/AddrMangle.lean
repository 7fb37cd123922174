import Mathlib.Data.List.DropRight
import OneDesk.Lib.Checked
import OneDesk.Lib.LittleEndian

/-!
# Mangled addresses

Routers rewrite addresses that they find in a packet, so a socket address is sent
in disguise.  `AddrMangle` of `libs/hbb_common/src/lib.rs` adds the clock to an
IPv4 address and its port and packs the three into one number, whose trailing
zero bytes are dropped.  Numbers of type `u128` wrap around, and a wrapped sum or
difference is noted as a fault.
-/

namespace OneDesk
namespace Common

open Lib Checked

/-- An IPv4 address. -/
structure Ipv4Addr where
  octets : List UInt8
  length_octets : octets.length = 4
  deriving DecidableEq

/-- An IPv6 address. -/
structure Ipv6Addr where
  octets : List UInt8
  length_octets : octets.length = 16
  deriving DecidableEq

/-- An address with a port. -/
inductive SocketAddr where
  | v4 (ip : Ipv4Addr) (port : UInt16)
  | v6 (ip : Ipv6Addr) (port : UInt16) (flowinfo scopeId : UInt32)
  deriving DecidableEq

/-- What an operation on numbers of type `u128` can do wrong. -/
inductive AddrFault where
  | addOverflow
  | subUnderflow
  deriving DecidableEq

/-- Addition of numbers of type `u128`. -/
def addU128 (left right : Nat) : Checked AddrFault Nat :=
  ensure (left + right < 2 ^ 128) .addOverflow ((left + right) % 2 ^ 128)

/-- Subtraction of numbers of type `u128`. -/
def subU128 (left right : Nat) : Checked AddrFault Nat :=
  ensure (right ≤ left) .subUnderflow ((left + 2 ^ 128 - right) % 2 ^ 128)

/-- Shift of a number of type `u128` to the left: the bits above are lost. -/
def shlU128 (number count : Nat) : Nat :=
  (number <<< count) % 2 ^ 128

namespace Ipv6Addr

/-- `::1`. -/
def isLoopback (ip : Ipv6Addr) : Bool :=
  ip.octets == List.replicate 15 0 ++ [1]

/-- `Ipv6Addr::to_ipv4`: the last octets of `::a.b.c.d` and of `::ffff:a.b.c.d`. -/
def toIpv4 (ip : Ipv6Addr) : Option Ipv4Addr :=
  if ip.octets.take 12 = List.replicate 12 0 ∨
      ip.octets.take 12 = List.replicate 10 0 ++ [255, 255] then
    some ⟨ip.octets.drop 12, by simp [ip.length_octets]⟩
  else none

end Ipv6Addr

/-- The IPv4 address that an IPv6 address stands for, unless it is the loopback. -/
def tryIntoV4 (addr : SocketAddr) : SocketAddr :=
  match addr with
  | .v6 ip port _ _ =>
      if !ip.isLoopback then
        match ip.toIpv4 with
        | some v4 => .v4 v4 port
        | none => addr
      else addr
  | .v4 _ _ => addr

namespace AddrMangle

/-- How many zero bytes a byte string ends in. -/
def nPadding (bytes : List UInt8) : Nat :=
  (bytes.rtakeWhile (· == 0)).length

/-- `AddrMangle::encode` at a time: microseconds, as many as fit in 32 bits. -/
def encode (time : UInt32) (addr : SocketAddr) : Checked AddrFault (List UInt8) :=
  match tryIntoV4 addr with
  | .v4 ip port => do
      let tm := time.toNat
      let sum ← addU128 (fromLittleEndian ip.octets) tm
      let low ← addU128 port.toNat (tm &&& 0xFFFF)
      let v := shlU128 sum 49 ||| shlU128 tm 17 ||| low
      let bytes := littleEndian 16 v
      return bytes.take (16 - nPadding bytes)
  | .v6 ip port _ _ => return ip.octets ++ littleEndian 2 port.toNat

/-- `Config::get_any_listen_addr`. -/
def getAnyListenAddr (isIpv4 : Bool) : SocketAddr :=
  if isIpv4 then .v4 ⟨List.replicate 4 0, rfl⟩ 0
  else .v6 ⟨List.replicate 16 0, rfl⟩ 0 0 0

/-- The number that at most sixteen bytes stand for. -/
def numberOf (bytes : List UInt8) : Nat :=
  fromLittleEndian (bytes ++ List.replicate (16 - bytes.length) 0)

/-- `AddrMangle::decode`. -/
def decode (bytes : List UInt8) : Checked AddrFault SocketAddr :=
  if 16 < bytes.length then
    if sized : bytes.length = 18 then
      return .v6 ⟨bytes.take 16, by simp [sized]⟩
        (UInt16.ofNat (fromLittleEndian (bytes.drop 16))) 0 0
    else return getAnyListenAddr false
  else do
    let number := numberOf bytes
    let tm := (number >>> 17) &&& 0xFFFFFFFF
    let ip ← subU128 (number >>> 49) tm
    let port ← subU128 (number &&& 0xFFFFFF) (tm &&& 0xFFFF)
    return .v4 ⟨littleEndian 4 ip, length_littleEndian 4 ip⟩ (UInt16.ofNat port)

/-- A byte string is what is left of it, and its zeros at the end. -/
theorem take_append_padding (bytes : List UInt8) :
    bytes.take (bytes.length - nPadding bytes) ++ List.replicate (nPadding bytes) 0 = bytes := by
  have split := List.rdropWhile_append_rtakeWhile (p := (· == 0)) (l := bytes)
  have zeros : bytes.rtakeWhile (· == 0) = List.replicate (nPadding bytes) 0 := by
    refine List.eq_replicate_iff.mpr ⟨rfl, fun byte member => ?_⟩
    simpa using List.mem_rtakeWhile_imp member
  have length := congrArg List.length split
  rw [List.length_append] at length
  have front : bytes.take (bytes.length - nPadding bytes) = bytes.rdropWhile (· == 0) := by
    rw [← length, nPadding, Nat.add_sub_cancel]
    exact (List.prefix_iff_eq_take.mp (List.rdropWhile_prefix _ bytes)).symm
  rw [front, ← zeros, split]

/-- Nothing is lost with the zero bytes at the end. -/
theorem numberOf_stripped (number : Nat) (fits : number < 2 ^ 128) :
    numberOf ((littleEndian 16 number).take (16 - nPadding (littleEndian 16 number))) =
      number := by
  have stripped := take_append_padding (littleEndian 16 number)
  rw [length_littleEndian] at stripped
  rw [numberOf, fromLittleEndian_append_zeros, ← fromLittleEndian_append_zeros _
    (nPadding (littleEndian 16 number)), stripped, fromLittleEndian_of_fits fits]

/-- The lowest bits of a number. -/
theorem and_mask (number : Nat) :
    number &&& 0xFFFF = number % 2 ^ 16 ∧ number &&& 0xFFFFFF = number % 2 ^ 24 ∧
      number &&& 0xFFFFFFFF = number % 2 ^ 32 :=
  ⟨Nat.and_two_pow_sub_one_eq_mod number 16, Nat.and_two_pow_sub_one_eq_mod number 24,
    Nat.and_two_pow_sub_one_eq_mod number 32⟩

/-- The three fields do not overlap. -/
theorem packed_eq
    {sum tm low : Nat}
    (sum_lt : sum < 2 ^ 33)
    (tm_lt : tm < 2 ^ 32)
    (low_lt : low < 2 ^ 17) :
    shlU128 sum 49 ||| shlU128 tm 17 ||| low = sum * 2 ^ 49 + tm * 2 ^ 17 + low := by
  have sumShift : shlU128 sum 49 = sum <<< 49 := by
    rw [shlU128, Nat.shiftLeft_eq]
    omega
  have tmShift : shlU128 tm 17 = tm <<< 17 := by
    rw [shlU128, Nat.shiftLeft_eq]
    omega
  have tmFits : tm <<< 17 < 2 ^ 49 := by
    rw [Nat.shiftLeft_eq]
    omega
  have upper : sum <<< 49 ||| tm <<< 17 = (sum * 2 ^ 32 + tm) <<< 17 := by
    rw [← Nat.shiftLeft_add_eq_or_of_lt tmFits]
    simp only [Nat.shiftLeft_eq]
    omega
  rw [sumShift, tmShift, upper, ← Nat.shiftLeft_add_eq_or_of_lt low_lt, Nat.shiftLeft_eq]
  omega

/-- The fields are found where they were put. -/
theorem fields_of_packed
    {number sum tm low : Nat}
    (tm_lt : tm < 2 ^ 32)
    (low_lt : low < 2 ^ 17)
    (packed : number = sum * 2 ^ 49 + tm * 2 ^ 17 + low) :
    number / 2 ^ 49 = sum ∧ number / 2 ^ 17 % 2 ^ 32 = tm ∧
      number % 2 ^ 24 = tm % 2 ^ 7 * 2 ^ 17 + low := by
  have upper : number / 2 ^ 17 = sum * 2 ^ 32 + tm := by
    have regrouped : number = 2 ^ 17 * (sum * 2 ^ 32 + tm) + low := by omega
    rw [regrouped, Nat.mul_add_div (by omega), Nat.div_eq_of_lt low_lt, Nat.add_zero]
  refine ⟨?_, by omega, by omega⟩
  rw [show (2 : Nat) ^ 49 = 2 ^ 17 * 2 ^ 32 from Nat.pow_add 2 17 32,
    ← Nat.div_div_eq_div_mul, upper]
  omega

/-- What an encoded IPv4 address packs. -/
theorem encode_v4
    (time : UInt32)
    (ip : Ipv4Addr)
    (port : UInt16) :
    ∃ packed,
      packed = (fromLittleEndian ip.octets + time.toNat) * 2 ^ 49 + time.toNat * 2 ^ 17 +
        (port.toNat + time.toNat % 2 ^ 16) ∧
      (encode time (.v4 ip port)).faults = [] ∧
      (encode time (.v4 ip port)).value =
        (littleEndian 16 packed).take (16 - nPadding (littleEndian 16 packed)) := by
  have ip_lt := fromLittleEndian_lt ip.octets
  rw [ip.length_octets] at ip_lt
  have time_lt := time.toNat_lt
  have port_lt := port.toNat_lt
  have value : ∀ left right, left + right < 2 ^ 128 → (addU128 left right).value = left + right :=
    fun left right fits => Nat.mod_eq_of_lt fits
  refine ⟨_, rfl, ?_, ?_⟩
  · simp only [encode, tryIntoV4, faults_bind, faults_pure, List.append_nil, addU128,
      faults_ensure_eq_nil, List.append_eq_nil_iff, (and_mask _).1]
    omega
  · simp only [encode, tryIntoV4, value_bind, value_pure, (and_mask _).1]
    rw [value _ _ (by omega), value _ _ (by omega), packed_eq (by omega) time_lt (by omega)]

/-- The clock that a number has in its middle. -/
def clockOf (number : Nat) : Nat :=
  number / 2 ^ 17 % 2 ^ 32

/-- A number is taken apart without a fault if its clock can be taken off both fields. -/
theorem decode_faults
    {bytes : List UInt8}
    (short : bytes.length ≤ 16) :
    (decode bytes).faults = [] ↔
      clockOf (numberOf bytes) ≤ numberOf bytes / 2 ^ 49 ∧
        clockOf (numberOf bytes) % 2 ^ 16 ≤ numberOf bytes % 2 ^ 24 := by
  simp only [decode, if_neg (Nat.not_lt.mpr short), faults_bind, faults_pure, List.append_nil,
    List.append_eq_nil_iff, subU128, faults_ensure_eq_nil, and_mask, Nat.shiftRight_eq_div_pow,
    value_ensure, clockOf]

/-- An address that was packed is unpacked. -/
theorem decode_packed
    {bytes : List UInt8}
    {ip : Ipv4Addr}
    {port : UInt16}
    {tm : Nat}
    (short : bytes.length ≤ 16)
    (tm_lt : tm < 2 ^ 32)
    (packed : numberOf bytes =
      (fromLittleEndian ip.octets + tm) * 2 ^ 49 + tm * 2 ^ 17 + (port.toNat + tm % 2 ^ 16)) :
    (decode bytes).faults = [] ∧ (decode bytes).value = .v4 ip port := by
  have ip_lt := fromLittleEndian_lt ip.octets
  rw [ip.length_octets] at ip_lt
  have port_lt := port.toNat_lt
  obtain ⟨upper, middle, lower⟩ := fields_of_packed tm_lt (by omega) packed
  refine ⟨(decode_faults short).mpr ?_, ?_⟩
  · rw [clockOf, upper, middle, lower]
    omega
  · have ipBack : (subU128 (numberOf bytes / 2 ^ 49) tm).value = fromLittleEndian ip.octets := by
      simp only [subU128, value_ensure, upper]
      omega
    have portBack :
        UInt16.ofNat (subU128 (numberOf bytes % 2 ^ 24) (tm % 2 ^ 16)).value = port := by
      rw [← UInt16.toNat_inj]
      simp only [subU128, value_ensure, lower, UInt16.toNat_ofNat']
      omega
    have octets : littleEndian 4 (fromLittleEndian ip.octets) = ip.octets := by
      have written := littleEndian_fromLittleEndian ip.octets
      rwa [ip.length_octets] at written
    simp only [decode, if_neg (Nat.not_lt.mpr short), value_bind, value_pure, and_mask,
      Nat.shiftRight_eq_div_pow, middle, ipBack, portBack, octets]

/-- An address comes back as another one, with no fault on the way. -/
structure RoundTrips (time : UInt32) (addr back : SocketAddr) : Prop where
  encodes : (encode time addr).faults = []
  decodes : (decode (encode time addr).value).faults = []
  value : (decode (encode time addr).value).value = back

theorem roundTrips_v4
    (time : UInt32)
    (ip : Ipv4Addr)
    (port : UInt16) :
    RoundTrips time (.v4 ip port) (.v4 ip port) := by
  obtain ⟨packed, isPacked, encodes, value⟩ := encode_v4 time ip port
  have ip_lt := fromLittleEndian_lt ip.octets
  rw [ip.length_octets] at ip_lt
  have time_lt := time.toNat_lt
  have port_lt := port.toNat_lt
  have short : ((littleEndian 16 packed).take (16 - nPadding (littleEndian 16 packed))).length ≤
      16 := by
    rw [List.length_take, length_littleEndian]
    omega
  have read := numberOf_stripped packed (by omega)
  obtain ⟨decodes, back⟩ := decode_packed short time_lt (read.trans isPacked)
  refine ⟨encodes, ?_, ?_⟩
  · rw [value]
    exact decodes
  · rw [value]
    exact back

/-- Eighteen bytes are an IPv6 address and its port. -/
theorem roundTrips_v6
    {addr : SocketAddr}
    {ip : Ipv6Addr}
    {port : UInt16}
    {flowinfo scopeId : UInt32}
    (time : UInt32)
    (stays : tryIntoV4 addr = .v6 ip port flowinfo scopeId) :
    RoundTrips time addr (.v6 ip port 0 0) := by
  have encoded : encode time addr = pure (ip.octets ++ littleEndian 2 port.toNat) := by
    rw [encode, stays]
  have length : (ip.octets ++ littleEndian 2 port.toNat).length = 18 := by
    rw [List.length_append, ip.length_octets, length_littleEndian]
  have portBack : fromLittleEndian (littleEndian 2 port.toNat) = port.toNat :=
    fromLittleEndian_of_fits port.toNat_lt
  have decoded : decode (ip.octets ++ littleEndian 2 port.toNat) = pure (.v6 ip port 0 0) := by
    have isLong : 16 < (ip.octets ++ littleEndian 2 port.toNat).length := by omega
    rw [decode, if_pos isLong, dif_pos length]
    simp only [List.take_left' ip.length_octets, List.drop_left' ip.length_octets, portBack,
      UInt16.ofNat_toNat]
  refine ⟨?_, ?_, ?_⟩
  · rw [encoded, faults_pure]
  · rw [encoded, value_pure, decoded, faults_pure]
  · rw [encoded, value_pure, decoded, value_pure]

/-- An IPv6 address stands for an IPv4 address or stays what it is. -/
theorem tryIntoV4_v6
    (ip : Ipv6Addr)
    (port : UInt16)
    (flowinfo scopeId : UInt32) :
    (∃ v4, tryIntoV4 (.v6 ip port flowinfo scopeId) = .v4 v4 port) ∨
      tryIntoV4 (.v6 ip port flowinfo scopeId) = .v6 ip port flowinfo scopeId := by
  cases loopback : ip.isLoopback with
  | true => exact .inr (by simp [tryIntoV4, loopback])
  | false =>
      cases stands : ip.toIpv4 with
      | none => exact .inr (by simp [tryIntoV4, loopback, stands])
      | some v4 => exact .inl ⟨v4, by simp [tryIntoV4, loopback, stands]⟩

/-- An IPv4 address is mangled the same way when it comes as an IPv6 address. -/
theorem RoundTrips.of_v4
    {time : UInt32}
    {addr back : SocketAddr}
    {v4 : Ipv4Addr}
    {port : UInt16}
    (stands : tryIntoV4 addr = .v4 v4 port)
    (trip : RoundTrips time (.v4 v4 port) back) :
    RoundTrips time addr back := by
  have same : encode time addr = encode time (.v4 v4 port) := by
    rw [encode, stands]
    rfl
  exact ⟨same ▸ trip.encodes, same ▸ trip.decodes, same ▸ trip.value⟩

/-- Every IPv4 address comes back, and every IPv6 address without flow information and scope
comes back as the IPv4 address it stands for, if any. -/
theorem decode_encode_addr (time : UInt32) :
    (∀ ip port, RoundTrips time (.v4 ip port) (.v4 ip port)) ∧
      (∀ ip port, RoundTrips time (.v6 ip port 0 0) (tryIntoV4 (.v6 ip port 0 0))) ∧
      (∀ addr, (encode time addr).faults = [] ∧
        (decode (encode time addr).value).faults = []) := by
  refine ⟨roundTrips_v4 time, fun ip port => ?_, fun addr => ?_⟩
  · rcases tryIntoV4_v6 ip port 0 0 with ⟨v4, stands⟩ | stays
    · rw [stands]
      exact (roundTrips_v4 time v4 port).of_v4 stands
    · rw [stays]
      exact roundTrips_v6 time stays
  · cases addr with
    | v4 ip port =>
        have trip := roundTrips_v4 time ip port
        exact ⟨trip.encodes, trip.decodes⟩
    | v6 ip port flowinfo scopeId =>
        rcases tryIntoV4_v6 ip port flowinfo scopeId with ⟨v4, stands⟩ | stays
        · have trip := (roundTrips_v4 time v4 port).of_v4 stands
          exact ⟨trip.encodes, trip.decodes⟩
        · have trip := roundTrips_v6 time stays
          exact ⟨trip.encodes, trip.decodes⟩

/-- The clock does not exceed the field above it, and its lowest bits are not all zero or it
does not exceed the field below it. -/
def Separable (number : Nat) : Prop :=
  clockOf number ≤ number / 2 ^ 49 ∧
    (clockOf number % 2 ^ 7 ≠ 0 ∨ clockOf number % 2 ^ 16 ≤ number % 2 ^ 17)

/-- Bytes from the network are decoded without a fault exactly if there are more than sixteen
of them or their number can be taken apart. -/
theorem decode_sound (bytes : List UInt8) :
    (decode bytes).faults = [] ↔ 16 < bytes.length ∨ Separable (numberOf bytes) := by
  by_cases short : bytes.length ≤ 16
  · have notLong : ¬16 < bytes.length := by omega
    rw [decode_faults short, Separable, clockOf]
    omega
  · have isLong : 16 < bytes.length := by omega
    refine ⟨fun _ => .inl isLong, fun _ => ?_⟩
    rw [decode, if_pos isLong]
    split <;> rfl

/-- A clock of one and an address of zero: the difference underflows. -/
theorem decode_underflows : (decode [0, 0, 2]).faults = [.subUnderflow] := by
  decide

end AddrMangle
end Common
end OneDesk
