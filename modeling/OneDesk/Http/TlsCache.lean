import Mathlib.Logic.Function.Basic
import OneDesk.Lib.Run
import OneDesk.Lib.Since
import OneDesk.Lib.Uri

/-!
# The cache of decisions about certificates

How a server was reached is remembered under the host and the port of its URL, which are cut out
of the text of the URL.  The user information is cut off at the last `@` of the whole text, and
the end is looked for behind it.
-/

namespace OneDesk
namespace Http

open OneDesk.Lib

inductive TlsType
  | plain
  | nativeTls
  | rustls
  deriving DecidableEq

/-- `is_plain` -/
def isPlain (url : List Char) : Bool :=
  "ws://".toList.isPrefixOf url || "http://".toList.isPrefixOf url

/-- What is behind the first `://`. -/
def afterScheme : List Char → Option (List Char)
  | ':' :: '/' :: '/' :: rest => some rest
  | _ :: rest => afterScheme rest
  | [] => none

/-- Whether a character ends a domain. -/
def endsDomain (char : Char) : Bool :=
  char == '/' || char == '?'

/-- `get_domain_and_port_from_url` -/
def getDomainAndPortFromUrl (url : List Char) : List Char :=
  let url2 := (afterScheme url).getD url
  -- If userinfo is present, the domain is after the last '@'.
  let afterAt := url2.rtakeWhile (· != '@')
  afterAt.takeWhile fun char => !endsDomain char

/-- `URL_TLS_TYPE` and `URL_TLS_DANGER_ACCEPT_INVALID_CERTS`. -/
structure TlsCache where
  tlsType : List Char → Option TlsType
  dangerAcceptInvalidCerts : List Char → Option Bool

namespace TlsCache

/-- The empty cache. -/
def empty : TlsCache := ⟨fun _ => none, fun _ => none⟩

variable (cache : TlsCache)

/-- `upsert_tls_cache` -/
def upsert
    (url : List Char)
    (tlsType : TlsType)
    (dangerAcceptInvalidCert : Bool) : TlsCache :=
  if isPlain url then cache
  else
    let domainPort := getDomainAndPortFromUrl url
    { tlsType := Function.update cache.tlsType domainPort (some tlsType)
      dangerAcceptInvalidCerts := Function.update cache.dangerAcceptInvalidCerts domainPort
        (some dangerAcceptInvalidCert) }

/-- `reset_tls_cache` -/
def reset (_ : TlsCache) : TlsCache := empty

/-- `get_cached_tls_type` -/
def getTlsType (url : List Char) : Option TlsType :=
  if isPlain url then some .plain else cache.tlsType (getDomainAndPortFromUrl url)

/-- `get_cached_tls_accept_invalid_cert`, with `allow_insecure_tls_fallback`. -/
def getAcceptInvalidCert (allowInsecureTlsFallback : Bool) (url : List Char) : Option Bool :=
  if !allowInsecureTlsFallback then some false
  else if isPlain url then some false
  else cache.dangerAcceptInvalidCerts (getDomainAndPortFromUrl url)

end TlsCache

/-! ## URLs with a secure scheme -/

/-- A URL whose scheme is https or wss. -/
structure SecureUrl extends Uri where
  isSecure : scheme.map Char.toLower = "https".toList ∨ scheme.map Char.toLower = "wss".toList

/-- The calls that change the cache. -/
inductive CacheCall
  | upsert (url : SecureUrl) (tlsType : TlsType) (dangerAcceptInvalidCert : Bool)
  | reset

/-- One call. -/
def TlsCache.step (cache : TlsCache) : CacheCall → TlsCache
  | .upsert url tlsType danger => cache.upsert url.text tlsType danger
  | .reset => cache.reset

/-- The cache after some calls. -/
def cached (calls : List CacheCall) : TlsCache :=
  run TlsCache.step .empty calls

/-- A call accepts the certificates of a host. -/
def Accepts (hostPort : List Char) (call : CacheCall) : Prop :=
  ∃ url tlsType, call = .upsert url tlsType true ∧ url.hostPort = hostPort

/-- A call ends what was decided for a host. -/
def Redecides (hostPort : List Char) (call : CacheCall) : Prop :=
  call = .reset ∨ ∃ url tlsType danger, call = .upsert url tlsType danger ∧ url.hostPort = hostPort

/-- The last call for a host since the last reset accepts its certificates. -/
def LastAccepts (hostPort : List Char) (calls : List CacheCall) : Prop :=
  Since (Accepts hostPort) (Redecides hostPort) calls

/-! ## Where a URL is cut -/

/-- A text is empty or begins with a character that ends a domain. -/
def Ends (text : List Char) : Prop :=
  ∀ char, text.head? = some char → endsDomain char = true

/-- The cut is right: either no `@` is behind the authority and a fragment does not follow it
directly, or the text behind the last `@` begins with the host and port and an end. -/
def CutRight (url : Uri) : Prop :=
  ('@' ∉ url.behind ∧ (url.path ≠ [] ∨ url.query ≠ none ∨ url.fragment = none)) ∨
    ('@' ∈ url.behind ∧
      ∃ rest, url.behind.rtakeWhile (· != '@') = url.hostPort ++ rest ∧ Ends rest)

theorem afterScheme_append
    {scheme : List Char}
    (noColon : ':' ∉ scheme)
    (rest : List Char) :
    afterScheme (scheme ++ "://".toList ++ rest) = some rest := by
  induction scheme with
  | nil => rfl
  | cons char scheme inductionHypothesis =>
      rw [List.mem_cons, not_or] at noColon
      rw [List.cons_append, List.cons_append, afterScheme, inductionHypothesis noColon.2]
      intro _ isColon
      exact absurd isColon.symm noColon.1

/-- What is before the last `@` does not matter. -/
theorem rtakeWhile_append_of_mem
    (front : List Char)
    {back : List Char}
    (member : '@' ∈ back) :
    (front ++ back).rtakeWhile (· != '@') = back.rtakeWhile (· != '@') := by
  induction back using List.reverseRecOn with
  | nil => cases member
  | append_singleton back last inductionHypothesis =>
      rw [← List.append_assoc, List.rtakeWhile_concat, List.rtakeWhile_concat]
      split
      · next other =>
          rcases List.mem_append.mp member with inner | isLast
          · rw [inductionHypothesis inner]
          · rw [← List.mem_singleton.mp isLast] at other
            cases other
      · rfl

/-- The cut is at the end of a text without ends exactly if an end follows it. -/
theorem takeWhile_eq_iff
    {domain text : List Char}
    (inside : ∀ char ∈ domain, endsDomain char = false) :
    (text.takeWhile fun char => !endsDomain char) = domain ↔
      ∃ rest, text = domain ++ rest ∧ Ends rest := by
  constructor
  · rintro rfl
    refine ⟨text.dropWhile fun char => !endsDomain char, List.takeWhile_append_dropWhile.symm, ?_⟩
    intro char isHead
    have stops := List.head?_dropWhile_not (fun char => !endsDomain char) text
    rw [isHead] at stops
    simpa using stops
  · rintro ⟨rest, rfl, ends⟩
    rw [List.takeWhile_append_of_pos (fun char member => by simp [inside char member])]
    cases rest with
    | nil => simp
    | cons char rest => simp [ends char rfl]

variable (url : Uri)

theorem not_endsDomain_of_mem_hostPort : ∀ char ∈ url.hostPort, endsDomain char = false := by
  intro char member
  rw [endsDomain, Bool.or_eq_false_iff, beq_eq_false_iff_ne, beq_eq_false_iff_ne]
  constructor
  · rintro rfl
    exact url.not_mem_hostPort (by decide) member
  · rintro rfl
    exact url.not_mem_hostPort (by decide) member

/-- Without another one behind it, an `@` is the last. -/
theorem rtakeWhile_append_cons
    (front : List Char)
    {back : List Char}
    (absent : '@' ∉ back) :
    (front ++ '@' :: back).rtakeWhile (· != '@') = back := by
  induction back using List.reverseRecOn with
  | nil => exact List.rtakeWhile_concat_neg _ _ _ (by decide)
  | append_singleton back last inductionHypothesis =>
      rw [List.mem_append, List.mem_singleton, not_or] at absent
      have other : (last != '@') = true := bne_iff_ne.mpr fun same => absent.2 same.symm
      rw [← List.cons_append, ← List.append_assoc, List.rtakeWhile_concat, if_pos other,
        inductionHypothesis absent.1]

/-- What is behind the last `@` of a URL without its scheme. -/
theorem rtakeWhile_text :
    (url.before ++ url.hostPort ++ url.behind).rtakeWhile (· != '@') =
      if '@' ∈ url.behind then url.behind.rtakeWhile (· != '@')
      else url.hostPort ++ url.behind := by
  split
  · next member => exact rtakeWhile_append_of_mem _ member
  · next behindHas =>
      have absent : '@' ∉ url.hostPort ++ url.behind := by
        rw [List.mem_append, not_or]
        exact ⟨url.not_mem_hostPort (by decide), behindHas⟩
      unfold Uri.before
      cases url.userinfo with
      | none =>
          rw [Option.map_none, Option.getD_none, List.nil_append, List.rtakeWhile_eq_self_iff]
          rintro char member
          rw [bne_iff_ne]
          rintro rfl
          exact absent member
      | some userinfo =>
          rw [Option.map_some, Option.getD_some, List.append_assoc, List.append_assoc,
            List.singleton_append]
          exact rtakeWhile_append_cons userinfo absent

/-- What is behind the authority begins with an end unless a fragment does. -/
theorem ends_behind_iff :
    Ends url.behind ↔ url.path ≠ [] ∨ url.query ≠ none ∨ url.fragment = none := by
  have isPath := url.isPath
  unfold Ends Uri.behind
  cases path : url.path with
  | cons char path =>
      rw [path, UriSyntax.isPath, Bool.and_eq_true] at isPath
      simp only [List.isEmpty_cons, List.head?_cons, Bool.false_or, beq_iff_eq,
        Option.some.injEq] at isPath
      simp [isPath.2, endsDomain]
  | nil =>
      cases url.query with
      | some query => simp [endsDomain]
      | none =>
          cases url.fragment with
          | some fragment => simp [endsDomain]
          | none => simp

/-- Exactly the URLs that are cut right have their host and port. -/
theorem getDomainAndPortFromUrl_eq_iff :
    getDomainAndPortFromUrl url.text = url.hostPort ↔ CutRight url := by
  have inside := not_endsDomain_of_mem_hostPort url
  unfold getDomainAndPortFromUrl Uri.text
  dsimp only
  rw [afterScheme_append url.not_mem_scheme, Option.getD_some, rtakeWhile_text,
    takeWhile_eq_iff inside]
  unfold CutRight
  by_cases member : '@' ∈ url.behind
  · simp [member]
  · rw [if_neg member, ← ends_behind_iff]
    simp only [member, not_false_eq_true, true_and, false_and, or_false]
    constructor
    · rintro ⟨rest, same, ends⟩
      rwa [List.append_cancel_left same]
    · intro ends
      exact ⟨url.behind, rfl, ends⟩

/-! ## What is remembered -/

/-- A secure URL is not taken for a plain one. -/
theorem isPlain_eq_false (url : SecureUrl) : isPlain url.text = false := by
  have first : ∀ scheme : List Char, ':' ∉ scheme → ∀ rest,
      (scheme ++ "://".toList ++ rest).takeWhile (· != ':') = scheme := by
    intro scheme noColon rest
    rw [List.append_assoc, List.takeWhile_append_of_pos]
    · simp
    · intro char member
      rw [bne_iff_ne]
      rintro rfl
      exact noColon member
  have other : ∀ scheme : List Char, ':' ∉ scheme → scheme.map Char.toLower ≠ "https".toList →
      scheme.map Char.toLower ≠ "wss".toList →
      (scheme ++ "://".toList).isPrefixOf url.text = false := by
    intro scheme noColon notHttps notWss
    rw [Bool.eq_false_iff, ne_eq, List.isPrefixOf_iff_prefix]
    rintro ⟨rest, same⟩
    have schemes := congrArg (List.takeWhile (· != ':')) same
    unfold Uri.text at schemes
    rw [first scheme noColon, first url.scheme url.not_mem_scheme] at schemes
    rw [schemes] at notHttps notWss
    rcases url.isSecure with https | wss
    · exact notHttps https
    · exact notWss wss
  rw [isPlain, Bool.or_eq_false_iff]
  exact ⟨other "ws".toList (by decide) (by decide) (by decide),
    other "http".toList (by decide) (by decide) (by decide)⟩

/-- The URLs of a call are cut right. -/
def CacheCall.CutsRight : CacheCall → Prop
  | .upsert url _ _ => CutRight url.toUri
  | .reset => True

/-- If all URLs are cut right, a host is accepted exactly if the last call for it did so. -/
theorem cached_eq_some_true_iff
    (calls : List CacheCall)
    (cutRight : ∀ call ∈ calls, call.CutsRight)
    (hostPort : List Char) :
    (cached calls).dangerAcceptInvalidCerts hostPort = some true ↔ LastAccepts hostPort calls := by
  induction calls using List.reverseRecOn with
  | nil =>
      constructor
      · intro accepted
        cases accepted
      · intro accepts
        exact absurd accepts (not_since_nil _ _)
  | append_singleton calls call inductionHypothesis =>
      have earlier := inductionHypothesis fun other member =>
        cutRight other (List.mem_append_left _ member)
      have here := cutRight call (by simp)
      unfold cached LastAccepts at earlier ⊢
      rw [run_concat, since_concat]
      cases call with
      | reset =>
          simp [TlsCache.step, TlsCache.reset, TlsCache.empty, Accepts, Redecides]
      | upsert url tlsType danger =>
          have cut := (getDomainAndPortFromUrl_eq_iff url.toUri).mpr here
          simp only [TlsCache.step, TlsCache.upsert, isPlain_eq_false, Bool.false_eq_true,
            if_false, cut]
          by_cases same : url.hostPort = hostPort
          · subst same
            rw [Function.update_self]
            cases danger <;> simp [Accepts, Redecides]
          · rw [Function.update_of_ne (Ne.symm same), earlier]
            simp [Accepts, Redecides, same]

/-- A URL gives its host and port exactly if it is cut right; and if all URLs are, then invalid
certificates are accepted only where the last call for the same host and port accepted them. -/
theorem tlsCache_spec (url : SecureUrl) :
    (getDomainAndPortFromUrl url.text = url.hostPort ↔ CutRight url.toUri) ∧
    ∀ allowInsecureTlsFallback calls,
      (∀ call ∈ calls, call.CutsRight) → CutRight url.toUri →
        (cached calls).getAcceptInvalidCert allowInsecureTlsFallback url.text = some true →
          LastAccepts url.hostPort calls := by
  refine ⟨getDomainAndPortFromUrl_eq_iff url.toUri, ?_⟩
  intro allow calls cutRight urlCut accepted
  rw [← cached_eq_some_true_iff calls cutRight]
  have cut := (getDomainAndPortFromUrl_eq_iff url.toUri).mpr urlCut
  unfold TlsCache.getAcceptInvalidCert at accepted
  split at accepted
  · cases accepted
  · split at accepted
    · cases accepted
    · rwa [cut] at accepted

/-- A URL of a host and a path. -/
def pathUrl
    (host path : List Char)
    (isHost : UriSyntax.isHost host = true)
    (isPath : UriSyntax.isPath path = true) : SecureUrl where
  scheme := "https".toList
  userinfo := none
  host := host
  port := none
  path := path
  query := none
  fragment := none
  isScheme := by decide
  isUserinfo := rfl
  isHost := isHost
  isPort := rfl
  isPath := isPath
  isQuery := rfl
  isFragment := rfl
  isSecure := .inl (by decide)

/-- A URL with another host behind an `@` in its path. -/
def misleading : SecureUrl :=
  pathUrl "a.com".toList "/@b.com".toList (by decide) (by decide)

/-- The other host. -/
def misled : SecureUrl :=
  pathUrl "b.com".toList [] (by decide) (by decide)

/-- A URL that was accepted last. -/
theorem tlsCache_spec_misled : LastAccepts misled.hostPort [.upsert misled .rustls true] := by
  have cutRight : CutRight misled.toUri := .inl ⟨by decide, .inr (.inr rfl)⟩
  refine (tlsCache_spec misled).2 true [.upsert misled .rustls true] ?_ cutRight (by decide)
  intro call member
  rw [List.mem_singleton.mp member]
  exact cutRight

/-- The decision for one host is used for another. -/
theorem misleading_is_cut_wrong :
    getDomainAndPortFromUrl misleading.text ≠ misleading.hostPort ∧
      (cached [.upsert misleading .rustls true]).getAcceptInvalidCert true misled.text =
        some true ∧
      ¬LastAccepts misled.hostPort [.upsert misleading .rustls true] := by
  refine ⟨by decide, by decide, ?_⟩
  intro accepts
  obtain ⟨call, member, url, tlsType, isUpsert, same⟩ := accepts.exists_mem
  rw [List.mem_singleton.mp member] at isUpsert
  cases isUpsert
  exact absurd same (by decide)

end Http
end OneDesk
