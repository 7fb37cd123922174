import Mathlib.Data.List.Basic
import Mathlib.Data.List.DropRight

/-!
# Uniform resource identifiers

The generic syntax of an identifier with an authority: a scheme, user information, a host, a
port, a path, a query and a fragment.  Every part is kept as it is written.
-/

namespace OneDesk
namespace Lib

namespace UriSyntax

/-- The digits of an encoded byte. -/
def isHexDigit (char : Char) : Bool :=
  char.isDigit || "abcdefABCDEF".toList.contains char

/-- The characters that never need an encoding. -/
def isUnreserved (char : Char) : Bool :=
  char.isAlphanum || "-._~".toList.contains char

/-- The delimiters inside a part. -/
def isSubDelim (char : Char) : Bool :=
  "!$&'()*+,;=".toList.contains char

/-- The characters of user information. -/
def isUserinfoChar (char : Char) : Bool :=
  isUnreserved char || isSubDelim char || char == ':'

/-- The characters of a name of a host. -/
def isNameChar (char : Char) : Bool :=
  isUnreserved char || isSubDelim char

/-- The characters of a path. -/
def isPathChar (char : Char) : Bool :=
  isUserinfoChar char || char == '@' || char == '/'

/-- The characters of a query or a fragment. -/
def isQueryChar (char : Char) : Bool :=
  isPathChar char || char == '?'

/-- Allowed characters and encoded bytes. -/
def encoded (allowed : Char → Bool) : List Char → Bool
  | [] => true
  | '%' :: first :: second :: rest => isHexDigit first && isHexDigit second && encoded allowed rest
  | char :: rest => allowed char && encoded allowed rest

/-- The characters that an encoded text may have. -/
theorem of_mem_encoded
    {allowed : Char → Bool}
    {text : List Char}
    (isEncoded : encoded allowed text = true)
    {char : Char}
    (member : char ∈ text) :
    allowed char = true ∨ char = '%' ∨ isHexDigit char = true := by
  induction text using encoded.induct with
  | case1 => cases member
  | case2 first second rest inductionHypothesis =>
      simp only [encoded, Bool.and_eq_true] at isEncoded
      obtain ⟨⟨isFirst, isSecond⟩, isRest⟩ := isEncoded
      rcases List.mem_cons.mp member with rfl | member
      · exact .inr (.inl rfl)
      · rcases List.mem_cons.mp member with rfl | member
        · exact .inr (.inr isFirst)
        · rcases List.mem_cons.mp member with rfl | member
          · exact .inr (.inr isSecond)
          · exact inductionHypothesis isRest member
  | case3 head rest notPercent inductionHypothesis =>
      rw [encoded, Bool.and_eq_true] at isEncoded
      · rcases List.mem_cons.mp member with rfl | member
        · exact .inl isEncoded.1
        · exact inductionHypothesis isEncoded.2 member
      · exact notPercent

/-- A scheme begins with a letter. -/
def isScheme : List Char → Bool
  | [] => false
  | first :: rest =>
      first.isAlpha && rest.all fun char => char.isAlphanum || "+-.".toList.contains char

/-- A host is a name or an address in brackets. -/
def isHost (host : List Char) : Bool :=
  encoded isNameChar host ||
    match host with
    | '[' :: rest => rest.getLast? == some ']' && encoded isUserinfoChar rest.dropLast
    | _ => false

/-- A path that follows an authority. -/
def isPath (path : List Char) : Bool :=
  encoded isPathChar path && (path.isEmpty || path.head? == some '/')

end UriSyntax

/-- An identifier with an authority, by its parts. -/
structure Uri where
  scheme : List Char
  userinfo : Option (List Char)
  host : List Char
  port : Option (List Char)
  path : List Char
  query : Option (List Char)
  fragment : Option (List Char)
  isScheme : UriSyntax.isScheme scheme = true
  isUserinfo : userinfo.all (UriSyntax.encoded UriSyntax.isUserinfoChar) = true
  isHost : UriSyntax.isHost host = true
  isPort : port.all (fun digits => digits.all Char.isDigit) = true
  isPath : UriSyntax.isPath path = true
  isQuery : query.all (UriSyntax.encoded UriSyntax.isQueryChar) = true
  isFragment : fragment.all (UriSyntax.encoded UriSyntax.isQueryChar) = true

namespace Uri

open UriSyntax (encoded isUserinfoChar isHexDigit of_mem_encoded)

variable (uri : Uri)

/-- The host with the port. -/
def hostPort : List Char :=
  uri.host ++ (uri.port.map fun digits => ':' :: digits).getD []

/-- What is behind the authority. -/
def behind : List Char :=
  uri.path ++ (uri.query.map fun query => '?' :: query).getD [] ++
    (uri.fragment.map fun fragment => '#' :: fragment).getD []

/-- What is before the host. -/
def before : List Char :=
  (uri.userinfo.map fun userinfo => userinfo ++ ['@']).getD []

/-- The identifier as it is written. -/
def text : List Char :=
  uri.scheme ++ "://".toList ++ (uri.before ++ uri.hostPort ++ uri.behind)

/-- The characters of a host with a port. -/
def isHostPortChar (char : Char) : Bool :=
  isUserinfoChar char || isHexDigit char || "%[]".toList.contains char

theorem isHostPortChar_of_encoded
    {allowed : Char → Bool}
    (narrow : ∀ char, allowed char = true → isUserinfoChar char = true)
    {text : List Char}
    (isEncoded : encoded allowed text = true) :
    ∀ char ∈ text, isHostPortChar char = true := by
  intro char member
  rw [isHostPortChar, Bool.or_eq_true, Bool.or_eq_true]
  rcases of_mem_encoded isEncoded member with isAllowed | rfl | isHex
  · exact .inl (.inl (narrow char isAllowed))
  · exact .inr rfl
  · exact .inl (.inr isHex)

theorem isHostPortChar_of_mem_host
    {char : Char}
    (member : char ∈ uri.host) :
    isHostPortChar char = true := by
  have isHost := uri.isHost
  unfold UriSyntax.isHost at isHost
  rw [Bool.or_eq_true] at isHost
  rcases isHost with name | literal
  · refine isHostPortChar_of_encoded (fun other isName => ?_) name char member
    rw [UriSyntax.isUserinfoChar, Bool.or_eq_true]
    exact .inl isName
  · split at literal
    · next rest isRest =>
        rw [Bool.and_eq_true, beq_iff_eq] at literal
        obtain ⟨isLast, isEncoded⟩ := literal
        rw [isRest] at member
        rcases List.mem_cons.mp member with rfl | inner
        · decide
        · rw [← List.dropLast_append_getLast? _ isLast] at inner
          rcases List.mem_append.mp inner with inner | isBracket
          · exact isHostPortChar_of_encoded (fun _ => id) isEncoded char inner
          · rw [List.mem_singleton.mp isBracket]
            decide
    · cases literal

theorem isHostPortChar_of_mem
    {char : Char}
    (member : char ∈ uri.hostPort) :
    isHostPortChar char = true := by
  rcases List.mem_append.mp member with inHost | inPort
  · exact uri.isHostPortChar_of_mem_host inHost
  · have digits := uri.isPort
    cases isPort : uri.port with
    | none =>
        rw [isPort] at inPort
        cases inPort
    | some port =>
        rw [isPort, Option.all_some, List.all_eq_true] at digits
        rw [isPort, Option.map_some, Option.getD_some] at inPort
        rcases List.mem_cons.mp inPort with rfl | inner
        · decide
        · simp [isHostPortChar, isHexDigit, digits char inner]

/-- A character that no host and no port has. -/
theorem not_mem_hostPort
    {char : Char}
    (other : isHostPortChar char = false) :
    char ∉ uri.hostPort := by
  intro member
  rw [uri.isHostPortChar_of_mem member] at other
  cases other

/-- A scheme has no colon. -/
theorem not_mem_scheme : ':' ∉ uri.scheme := by
  have isScheme := uri.isScheme
  intro member
  unfold UriSyntax.isScheme at isScheme
  split at isScheme
  · cases isScheme
  · next first rest is =>
      rw [is] at member
      rw [Bool.and_eq_true, List.all_eq_true] at isScheme
      rcases List.mem_cons.mp member with rfl | inner
      · exact absurd isScheme.1 (by decide)
      · exact absurd (isScheme.2 ':' inner) (by decide)

end Uri

end Lib
end OneDesk
