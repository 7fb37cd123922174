import OneDesk.Common.Decimal
import OneDesk.Lib.Regex
import OneDesk.Lib.Split

/-!
# Hosts and ports

`check_port`, `increase_port` and `split_host_port` each decide by the pattern
of `is_ipv6_str` how a text is to be read.  The pattern also matches a short
hexadecimal name with a short port, and there the three disagree.
-/

namespace OneDesk
namespace Common

open OneDesk.Lib

/-- A string as its characters. -/
abbrev Text := List Char

/-- The characters that `\d` accepts in a pattern: decimal numbers of any script. -/
structure DecimalNumbers where
  accepts : Char → Bool
  digit : ∀ char, char.isDigit = true → accepts char = true

/-- `[a-fA-F0-9]` -/
def isHex (char : Char) : Bool :=
  'a' ≤ char && char ≤ 'f' || 'A' ≤ char && char ≤ 'F' || '0' ≤ char && char ≤ '9'

/-- A pattern of one character. -/
def exactly (char : Char) : Regex Char :=
  .one (· == char)

/-- `[a-fA-F0-9]{1,4}` -/
def hexGroup : Regex Char :=
  .oneTo (.one isHex) 4

/-- `[a-fA-F0-9]{1,4}:{1,2}` -/
def colonGroup : Regex Char :=
  .seq hexGroup (.oneTo (exactly ':') 2)

/-- `([a-fA-F0-9]{1,4}:{1,2})+[a-fA-F0-9]{1,4}` -/
def bareIpv6 : Regex Char :=
  .seq (.oneOrMore colonGroup) hexGroup

/-- The pattern of `is_ipv6_str`. -/
def ipv6 (numbers : DecimalNumbers) : Regex Char :=
  .either bareIpv6
    (.seq (exactly '[')
      (.seq bareIpv6
        (.seq (exactly ']')
          (.seq (exactly ':') (.oneOrMore (.one numbers.accepts))))))

/-- `str::parse::<i32>`: an optional sign, then digits, in range. -/
def parseI32 (chars : Text) : Option Int32 :=
  ((parseSigned chars).filter fun number =>
    -(2 ^ 31) ≤ number ∧ number < 2 ^ 31).map Int32.ofInt

/-- A number as `format!` writes it. -/
def i32Text (number : Int32) : Text :=
  if number.toInt < 0 then '-' :: Nat.toDigits 10 number.toInt.natAbs
  else Nat.toDigits 10 number.toInt.natAbs

section Helpers

variable (numbers : DecimalNumbers)

/-- `is_ipv6_str` -/
def isIpv6Str (id : Text) : Bool :=
  (ipv6 numbers).isMatch id

/-- `check_port` -/
def checkPort (host : Text) (port : Int32) : Text :=
  if isIpv6Str numbers host then
    if ['['] <+: host then host
    else '[' :: host ++ ']' :: ':' :: i32Text port
  else if ':' ∉ host then host ++ ':' :: i32Text port
  else host

/-- `increase_port` -/
def increasePort (host : Text) (offset : Int32) : Text :=
  if isIpv6Str numbers host then
    if ['['] <+: host then
      match splitOnPair ']' ':' host with
      | [name, number] =>
          let port := (parseI32 number).getD 0
          if port > 0 then name ++ ']' :: ':' :: i32Text (port + offset) else host
      | _ => host
    else host
  else if ':' ∈ host then
    match host.splitOn ':' with
    | [name, number] =>
        let port := (parseI32 number).getD 0
        if port > 0 then name ++ ':' :: i32Text (port + offset) else host
    | _ => host
  else host

/-- `split_host_port` -/
def splitHostPort (host : Text) : Option (Text × Int32) :=
  if isIpv6Str numbers host then
    if ['['] <+: host then
      match splitOnPair ']' ':' host with
      | [name, number] =>
          let port := (parseI32 number).getD 0
          if port > 0 then some (name ++ [']'], port) else none
      | _ => none
    else none
  else if ':' ∈ host then
    match host.splitOn ':' with
    | [name, number] =>
        let port := (parseI32 number).getD 0
        if port > 0 then some (name, port) else none
    | _ => none
  else none

end Helpers

/-- The digits of ASCII and no others. -/
def asciiDigits : DecimalNumbers where
  accepts := Char.isDigit
  digit _ isDigit := isDigit

example : checkPort asciiDigits "1:2".toList 32 = "[1:2]:32".toList := by decide

example : increasePort asciiDigits "1:13".toList 4 = "1:13".toList := by decide

example : increasePort asciiDigits "z1:2".toList 1 = "z1:3".toList := by decide

/-! ## What the pattern matches -/

/-- One to four hexadecimal digits. -/
def HexGroup (text : Text) : Prop :=
  text ≠ [] ∧ text.length ≤ 4 ∧ ∀ char ∈ text, isHex char = true

theorem mem_hexGroup_iff (text : Text) :
    text ∈ hexGroup.language ↔ HexGroup text :=
  Regex.mem_oneTo_iff isHex (by decide) text

theorem HexGroup.not_mem_colon {text : Text} (isGroup : HexGroup text) : ':' ∉ text :=
  fun member => absurd (isGroup.2.2 ':' member) (by decide)

theorem mem_exactly_mul_iff
    {char : Char}
    {second : Language Char}
    {text : Text} :
    text ∈ (exactly char).language * second ↔
      ∃ rest, text = char :: rest ∧ rest ∈ second := by
  rw [exactly, Regex.mem_one_mul_iff]
  simp

theorem mem_colonGroup_iff (text : Text) :
    text ∈ colonGroup.language ↔
      ∃ hexes colons, HexGroup hexes ∧ (colons = [] ∨ colons = [':']) ∧
        text = hexes ++ ':' :: colons := by
  rw [colonGroup, Regex.language, Language.mem_mul]
  constructor
  · rintro ⟨hexes, isGroup, run, isRun, rfl⟩
    obtain ⟨given, short, each⟩ :=
      (Regex.mem_oneTo_iff (· == ':') (by decide) run).mp isRun
    have colons : run = List.replicate run.length ':' :=
      List.eq_replicate_iff.mpr ⟨rfl, fun char member => by simpa using each char member⟩
    have positive := List.length_pos_iff.mpr given
    rcases (by omega : run.length = 1 ∨ run.length = 2) with one | two
    · exact ⟨hexes, [], (mem_hexGroup_iff hexes).mp isGroup, .inl rfl, by rw [colons, one]; rfl⟩
    · exact ⟨hexes, [':'], (mem_hexGroup_iff hexes).mp isGroup, .inr rfl,
        by rw [colons, two]; rfl⟩
  · rintro ⟨hexes, colons, isGroup, areColons, rfl⟩
    refine ⟨hexes, (mem_hexGroup_iff hexes).mpr isGroup, ':' :: colons, ?_, rfl⟩
    refine (Regex.mem_oneTo_iff (· == ':') (by decide) _).mpr ?_
    rcases areColons with rfl | rfl
    · simp
    · simp

/-- Groups with colons are nothing, or have a colon. -/
theorem colon_mem_of_groups
    {text : Text}
    (areGroups : text ∈ (Regex.many colonGroup).language)
    (given : text ≠ []) :
    ':' ∈ text := by
  obtain ⟨pieces, rfl, each⟩ := Language.mem_kstar.mp areGroups
  cases pieces with
  | nil => exact absurd rfl given
  | cons piece pieces =>
      obtain ⟨hexes, colons, -, -, piece_eq⟩ :=
        (mem_colonGroup_iff piece).mp (each piece List.mem_cons_self)
      simp [piece_eq]

/-- Groups with colons are made of hexadecimal digits and colons. -/
theorem isHex_or_colon_of_groups
    {text : Text}
    (areGroups : text ∈ (Regex.many colonGroup).language)
    {char : Char}
    (member : char ∈ text) :
    isHex char = true ∨ char = ':' := by
  obtain ⟨pieces, rfl, each⟩ := Language.mem_kstar.mp areGroups
  obtain ⟨piece, pieceIn, charIn⟩ := List.mem_flatten.mp member
  obtain ⟨hexes, colons, isGroup, areColons, rfl⟩ :=
    (mem_colonGroup_iff piece).mp (each piece pieceIn)
  rcases List.mem_append.mp charIn with inHexes | inColons
  · exact .inl (isGroup.2.2 char inHexes)
  · right
    rcases areColons with rfl | rfl <;> simpa using inColons

/-- An address without brackets has a first group, a colon, and a last group. -/
theorem mem_bareIpv6_iff_groups (text : Text) :
    text ∈ bareIpv6.language ↔
      ∃ hexes colons groups last, HexGroup hexes ∧ (colons = [] ∨ colons = [':']) ∧
        groups ∈ (Regex.many colonGroup).language ∧ HexGroup last ∧
        text = hexes ++ ':' :: (colons ++ (groups ++ last)) := by
  constructor
  · intro isBare
    obtain ⟨start, startIn, last, isLast, rfl⟩ := Language.mem_mul.mp isBare
    obtain ⟨first, isFirst, groups, areGroups, rfl⟩ := Language.mem_mul.mp startIn
    obtain ⟨hexes, colons, isGroup, areColons, rfl⟩ := (mem_colonGroup_iff first).mp isFirst
    exact ⟨hexes, colons, groups, last, isGroup, areColons, areGroups,
      (mem_hexGroup_iff last).mp isLast, by simp⟩
  · rintro ⟨hexes, colons, groups, last, isGroup, areColons, areGroups, isLast, rfl⟩
    have isFirst := (mem_colonGroup_iff _).mpr ⟨hexes, colons, isGroup, areColons, rfl⟩
    have joined : _ ∈ bareIpv6.language :=
      Language.append_mem_mul (Language.append_mem_mul isFirst areGroups)
        ((mem_hexGroup_iff last).mpr isLast)
    simpa using joined

/-- An address without brackets is made of hexadecimal digits and colons. -/
theorem isHex_or_colon_of_bareIpv6
    {text : Text}
    (isBare : text ∈ bareIpv6.language)
    {char : Char}
    (member : char ∈ text) :
    isHex char = true ∨ char = ':' := by
  obtain ⟨hexes, colons, groups, last, isGroup, areColons, areGroups, isLast, rfl⟩ :=
    (mem_bareIpv6_iff_groups text).mp isBare
  rcases List.mem_append.mp member with inHexes | inRest
  · exact .inl (isGroup.2.2 char inHexes)
  rcases List.mem_cons.mp inRest with isColon | inRest
  · exact .inr isColon
  rcases List.mem_append.mp inRest with inColons | inRest
  · right
    rcases areColons with rfl | rfl
    · cases inColons
    · exact List.mem_singleton.mp inColons
  rcases List.mem_append.mp inRest with inGroups | inLast
  · exact isHex_or_colon_of_groups areGroups inGroups
  · exact .inl (isLast.2.2 char inLast)

theorem colon_mem_of_bareIpv6
    {text : Text}
    (isBare : text ∈ bareIpv6.language) :
    ':' ∈ text := by
  obtain ⟨hexes, colons, groups, last, -, -, -, -, rfl⟩ :=
    (mem_bareIpv6_iff_groups text).mp isBare
  simp

/-- With a single colon, an address is two groups of hexadecimal digits. -/
theorem mem_bareIpv6_iff
    {name number : Text}
    (noColon : ':' ∉ name)
    (single : ':' ∉ number) :
    name ++ ':' :: number ∈ bareIpv6.language ↔ HexGroup name ∧ HexGroup number := by
  rw [mem_bareIpv6_iff_groups]
  constructor
  · rintro ⟨hexes, colons, groups, last, isGroup, areColons, areGroups, isLast, same⟩
    obtain ⟨rfl, -, rfl⟩ := (List.append_cons_inj_of_notMem noColon single).mp same
    rw [List.mem_append, List.mem_append, not_or, not_or] at single
    obtain rfl : groups = [] := by
      by_contra given
      exact single.2.1 (colon_mem_of_groups areGroups given)
    rcases areColons with rfl | rfl
    · exact ⟨isGroup, isLast⟩
    · exact absurd List.mem_cons_self single.1
  · rintro ⟨isGroup, isLast⟩
    exact ⟨name, [], [], number, isGroup, .inl rfl, Language.nil_mem_kstar _, isLast, rfl⟩

/-- The pattern matches an address, or one in brackets with a port. -/
theorem isIpv6Str_iff (numbers : DecimalNumbers) (id : Text) :
    isIpv6Str numbers id = true ↔
      id ∈ bareIpv6.language ∨
        ∃ host port, id = '[' :: (host ++ ']' :: ':' :: port) ∧
          host ∈ bareIpv6.language ∧ port ≠ [] ∧
          ∀ char ∈ port, numbers.accepts char = true := by
  rw [isIpv6Str, Regex.isMatch_iff, ipv6, Regex.language, Language.mem_add]
  apply or_congr_right
  simp only [Regex.language.eq_4]
  rw [mem_exactly_mul_iff]
  constructor
  · rintro ⟨rest, rfl, restIn⟩
    obtain ⟨host, isBare, tail, tailIn, rfl⟩ := Language.mem_mul.mp restIn
    obtain ⟨colonIn, rfl, fromColon⟩ := mem_exactly_mul_iff.mp tailIn
    obtain ⟨port, rfl, portIn⟩ := mem_exactly_mul_iff.mp fromColon
    obtain ⟨given, each⟩ := (Regex.mem_oneOrMore_iff numbers.accepts port).mp portIn
    exact ⟨host, port, rfl, isBare, given, each⟩
  · rintro ⟨host, port, rfl, isBare, given, each⟩
    exact ⟨_, rfl, Language.append_mem_mul isBare
      (mem_exactly_mul_iff.mpr ⟨_, rfl, mem_exactly_mul_iff.mpr ⟨_, rfl,
        (Regex.mem_oneOrMore_iff numbers.accepts port).mpr ⟨given, each⟩⟩⟩)⟩

/-! ## Ports as they are written -/

/-- The port of a socket. -/
def IsPort (port : Int32) : Prop :=
  1 ≤ port.toInt ∧ port.toInt ≤ 65535

variable {port : Int32}

theorem IsPort.i32Text_eq (isPort : IsPort port) :
    i32Text port = (Decimal.ofNat port.toInt.natAbs).digits := by
  have positive := isPort.1
  rw [i32Text, if_neg (by omega)]
  rfl

/-- A port is read as it was written. -/
theorem IsPort.parseI32_i32Text (isPort : IsPort port) :
    parseI32 (i32Text port) = some port := by
  obtain ⟨positive, small⟩ := isPort
  have value : ((Decimal.ofNat port.toInt.natAbs).value : Int) = port.toInt :=
    Int.natAbs_of_nonneg (by omega)
  have fits : -(2 ^ 31) ≤ port.toInt ∧ port.toInt < 2 ^ 31 := by omega
  rw [parseI32, IsPort.i32Text_eq ⟨positive, small⟩, Decimal.parseSigned_digits, value,
    Option.filter_some, if_pos (by simpa using fits), Option.map_some, Int32.ofInt_toInt]

theorem IsPort.pos (isPort : IsPort port) : port > 0 := by
  have positive := isPort.1
  rw [gt_iff_lt, Int32.lt_iff_toInt_lt, Int32.toInt_zero]
  omega

theorem IsPort.isDigit_of_mem
    (isPort : IsPort port)
    {char : Char}
    (member : char ∈ i32Text port) :
    char.isDigit = true :=
  Decimal.isDigit_of_mem _ (isPort.i32Text_eq ▸ member)

theorem IsPort.not_mem
    (isPort : IsPort port)
    {char : Char}
    (other : char.isDigit = false) :
    char ∉ i32Text port :=
  isPort.i32Text_eq ▸ Decimal.not_mem _ other

theorem IsPort.ne_nil (isPort : IsPort port) : i32Text port ≠ [] :=
  isPort.i32Text_eq ▸ Decimal.ne_nil _

theorem isHex_of_isDigit {char : Char} (digit : char.isDigit = true) : isHex char = true := by
  have bounds : '0' ≤ char ∧ char ≤ '9' := by
    simpa [Char.isDigit, Char.le_def] using digit
  simp [isHex, bounds]

/-- A port is a group of hexadecimal digits if it has at most four. -/
theorem IsPort.hexGroup_iff (isPort : IsPort port) :
    HexGroup (i32Text port) ↔ port.toInt < 10000 := by
  have positive := isPort.1
  have length : (i32Text port).length ≤ 4 ↔ port.toInt.natAbs < 10 ^ 4 :=
    isPort.i32Text_eq ▸ Nat.length_toDigits_le_iff (by decide) (by decide)
  rw [HexGroup, length]
  constructor
  · intro isGroup
    omega
  · intro short
    exact ⟨isPort.ne_nil, by omega,
      fun char member => isHex_of_isDigit (isPort.isDigit_of_mem member)⟩

/-! ## Where the helpers agree -/

/-- A domain name, a host name or an IPv4 literal. -/
def PlainHost (host : Text) : Prop :=
  ':' ∉ host ∧ '[' ∉ host ∧ ']' ∉ host

/-- An IPv6 literal without brackets. -/
def BareLiteral (numbers : DecimalNumbers) (host : Text) : Prop :=
  isIpv6Str numbers host = true ∧ ¬['['] <+: host

/-- The host as it stands in front of a port. -/
def bracketed (numbers : DecimalNumbers) (host : Text) : Text :=
  if isIpv6Str numbers host then '[' :: host ++ [']'] else host

/-- One to four hexadecimal digits with a port of at most four: `h:p` is taken for an
IPv6 literal. -/
def Ambiguous (host : Text) (port : Int32) : Prop :=
  HexGroup host ∧ port.toInt < 10000

/-- The three helpers agree on a host and a port. -/
structure Agree (numbers : DecimalNumbers) (host : Text) (port : Int32) : Prop where
  split_check :
    splitHostPort numbers (checkPort numbers host port) =
      some (bracketed numbers host, port)
  check_check : ∀ other,
    checkPort numbers (checkPort numbers host port) other = checkPort numbers host port
  increase_check : ∀ offset,
    1 ≤ port.toInt + offset.toInt → port.toInt + offset.toInt ≤ 65535 →
      increasePort numbers (checkPort numbers host port) offset =
        checkPort numbers host (port + offset)

variable {numbers : DecimalNumbers} {host : Text}

/-- A text that does not begin with a bracket is matched as an address only. -/
theorem isIpv6Str_iff_of_unbracketed
    (unbracketed : ¬['['] <+: host) :
    isIpv6Str numbers host = true ↔ host ∈ bareIpv6.language := by
  rw [isIpv6Str_iff]
  refine or_iff_left ?_
  rintro ⟨inner, port, rfl, -⟩
  exact unbracketed ⟨_, rfl⟩

theorem PlainHost.unbracketed (plain : PlainHost host) (rest : Text) :
    ¬['['] <+: host ++ ':' :: rest := by
  rintro ⟨tail, same⟩
  cases host with
  | nil => simp at same
  | cons first others =>
      obtain ⟨rfl, -⟩ := List.cons_eq_cons.mp same
      exact plain.2.1 List.mem_cons_self

/-- A plain host is no IPv6 literal. -/
theorem PlainHost.isIpv6Str_eq_false (plain : PlainHost host) :
    isIpv6Str numbers host = false := by
  rw [Bool.eq_false_iff]
  intro matched
  rcases (isIpv6Str_iff numbers host).mp matched with isBare | ⟨inner, port, rfl, -⟩
  · exact plain.1 (colon_mem_of_bareIpv6 isBare)
  · exact plain.2.1 List.mem_cons_self

theorem PlainHost.checkPort_eq (plain : PlainHost host) (port : Int32) :
    checkPort numbers host port = host ++ ':' :: i32Text port := by
  rw [checkPort, plain.isIpv6Str_eq_false, if_neg Bool.false_ne_true, if_pos plain.1]

/-- With a port, it is taken for one exactly if both are short. -/
theorem PlainHost.isIpv6Str_checkPort
    (plain : PlainHost host)
    (isPort : IsPort port) :
    isIpv6Str numbers (host ++ ':' :: i32Text port) = true ↔ Ambiguous host port := by
  rw [isIpv6Str_iff_of_unbracketed (plain.unbracketed _),
    mem_bareIpv6_iff plain.1 (isPort.not_mem rfl), isPort.hexGroup_iff, Ambiguous]

theorem PlainHost.agree
    (plain : PlainHost host)
    (isPort : IsPort port)
    (clear : ¬Ambiguous host port) :
    Agree numbers host port := by
  have unmatched : ¬isIpv6Str numbers (host ++ ':' :: i32Text port) = true :=
    (plain.isIpv6Str_checkPort isPort).not.mpr clear
  have colon : ':' ∈ host ++ ':' :: i32Text port := by simp
  have pieces : (host ++ ':' :: i32Text port).splitOn ':' = [host, i32Text port] := by
    rw [splitOn_append_cons _ plain.1, splitOn_of_not_mem (isPort.not_mem rfl)]
  constructor
  · rw [plain.checkPort_eq, splitHostPort, if_neg unmatched, if_pos colon, pieces]
    simp only [isPort.parseI32_i32Text, Option.getD_some, if_pos isPort.pos, bracketed,
      plain.isIpv6Str_eq_false, if_neg Bool.false_ne_true]
  · intro other
    rw [plain.checkPort_eq, checkPort, if_neg unmatched, if_neg (not_not.mpr colon)]
  · intro offset _ _
    rw [plain.checkPort_eq, plain.checkPort_eq, increasePort, if_neg unmatched,
      if_pos colon, pieces]
    simp only [isPort.parseI32_i32Text, Option.getD_some, if_pos isPort.pos]

/-- A host and a port that are both short are not split again. -/
theorem PlainHost.splitHostPort_checkPort_of_ambiguous
    (plain : PlainHost host)
    (isPort : IsPort port)
    (ambiguous : Ambiguous host port) :
    splitHostPort numbers (checkPort numbers host port) = none := by
  rw [plain.checkPort_eq, splitHostPort,
    if_pos ((plain.isIpv6Str_checkPort isPort).mpr ambiguous),
    if_neg (plain.unbracketed _)]

theorem BareLiteral.mem (bare : BareLiteral numbers host) : host ∈ bareIpv6.language :=
  (isIpv6Str_iff_of_unbracketed bare.2).mp bare.1

theorem BareLiteral.not_ambiguous (bare : BareLiteral numbers host) (port : Int32) :
    ¬Ambiguous host port :=
  fun ambiguous => ambiguous.1.not_mem_colon (colon_mem_of_bareIpv6 bare.mem)

theorem BareLiteral.checkPort_eq (bare : BareLiteral numbers host) (port : Int32) :
    checkPort numbers host port = '[' :: host ++ ']' :: ':' :: i32Text port := by
  rw [checkPort, if_pos bare.1, if_neg bare.2]

theorem BareLiteral.agree
    (bare : BareLiteral numbers host)
    (isPort : IsPort port) :
    Agree numbers host port := by
  have matched :
      isIpv6Str numbers ('[' :: host ++ ']' :: ':' :: i32Text port) = true :=
    (isIpv6Str_iff numbers _).mpr (.inr ⟨host, i32Text port, rfl, bare.mem, isPort.ne_nil,
      fun char member => numbers.digit char (isPort.isDigit_of_mem member)⟩)
  have bracket : ['['] <+: '[' :: host ++ ']' :: ':' :: i32Text port := ⟨_, rfl⟩
  have noBracket : ']' ∉ '[' :: host := by
    rw [List.mem_cons, not_or]
    refine ⟨by decide, fun member => ?_⟩
    rcases isHex_or_colon_of_bareIpv6 bare.mem member with hex | colon
    · exact absurd hex (by decide)
    · exact absurd colon (by decide)
  have pieces : splitOnPair ']' ':' ('[' :: host ++ ']' :: ':' :: i32Text port) =
      ['[' :: host, i32Text port] := by
    rw [splitOnPair_append _ noBracket, splitOnPair_of_not_mem (isPort.not_mem rfl)]
  constructor
  · rw [bare.checkPort_eq, splitHostPort, if_pos matched, if_pos bracket, pieces]
    simp only [isPort.parseI32_i32Text, Option.getD_some, if_pos isPort.pos, bracketed,
      if_pos bare.1]
  · intro other
    rw [bare.checkPort_eq, checkPort, if_pos matched, if_pos bracket]
  · intro offset _ _
    rw [bare.checkPort_eq, bare.checkPort_eq, increasePort, if_pos matched,
      if_pos bracket, pieces]
    simp only [isPort.parseI32_i32Text, Option.getD_some, if_pos isPort.pos]

/-- The helpers agree on a plain host or a bare literal with a port, except where the
host is a short hexadecimal name and the port is short. -/
theorem agree_iff_not_ambiguous
    (numbers : DecimalNumbers)
    (host : Text)
    (port : Int32)
    (given : PlainHost host ∨ BareLiteral numbers host)
    (isPort : IsPort port) :
    Agree numbers host port ↔ ¬Ambiguous host port := by
  rcases given with plain | bare
  · refine ⟨fun agree ambiguous => ?_, plain.agree isPort⟩
    have split := agree.split_check
    rw [plain.splitHostPort_checkPort_of_ambiguous isPort ambiguous] at split
    cases split
  · exact ⟨fun _ => bare.not_ambiguous port, fun _ => bare.agree isPort⟩

theorem agree_iff_not_ambiguous_domain :
    Agree asciiDigits "test.com".toList 32 :=
  (agree_iff_not_ambiguous asciiDigits "test.com".toList 32
    (.inl ⟨by decide, by decide, by decide⟩) ⟨by decide, by decide⟩).mpr
    fun ambiguous => absurd ambiguous.1.2.1 (by decide)

/-- The host `1` with the port 13 is taken for an address, and then has no port. -/
theorem short_name_taken_for_address :
    (PlainHost "1".toList ∧ IsPort 13) ∧ ¬Agree asciiDigits "1".toList 13 := by
  refine ⟨⟨⟨by decide, by decide, by decide⟩, by decide, by decide⟩, fun agree => ?_⟩
  exact absurd (agree.increase_check 4 (by decide) (by decide)) (by decide)

end Common
end OneDesk
