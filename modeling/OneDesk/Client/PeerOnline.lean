import OneDesk.Client.SecureTcp
import OneDesk.Lib.BitString
import Mathlib.Data.List.Zip

/-!
# Which peers are online

A rendezvous server is asked for some peers and answers with a string of bits, one for each peer
in the order of the question.  The place of a bit comes from the question and the length of the
string from the answer, so a short answer is indexed outside.
-/

namespace OneDesk
namespace Client

open OneDesk.Common OneDesk.Lib OneDesk.Stream

/-! ## Two reads for a message -/

section Reads

variable {Message : Type} (parse : Bytes → Option Message) (isKeyExchange : Message → Bool)

/-- The loop of `get_next_nonkeyexchange_msg`, with the reads that it leaves. -/
def readNonkeyexchange :
    Nat → List (Option (Except IoError Bytes)) →
      Option Message × List (Option (Except IoError Bytes))
  | tries + 1, some (.ok bytes) :: reads =>
      match parse bytes with
      | some message =>
          if isKeyExchange message then readNonkeyexchange tries reads else (some message, reads)
      | none => (none, reads)
  | _ + 1, _ :: reads => (none, reads)
  | _, reads => (none, reads)

/-- `get_next_nonkeyexchange_msg` on what the calls of `next_timeout` return. -/
def nextNonkeyexchangeMsg (reads : List (Option (Except IoError Bytes))) :
    Option Message × List (Option (Except IoError Bytes)) :=
  readNonkeyexchange parse isKeyExchange 2 reads

end Reads

/-! ## The question -/

/-- The union of a `RendezvousMessage`, as far as the answer is looked for in it. -/
inductive OnlineAnswer
  | empty
  | keyExchange (keys : List Bytes)
  | onlineResponse (states : Bytes)
  | other
  deriving DecidableEq

/-- Whether a message is a key exchange. -/
def OnlineAnswer.isKeyExchange : OnlineAnswer → Bool
  | .keyExchange _ => true
  | _ => false

/-- Why there is no stream for a question. -/
inductive OnlineStreamError
  | bail (text : String)
  | parseInt
  | connect (error : IoError)
  deriving DecidableEq

/-- `str::parse::<u16>` -/
def parseU16 (chars : Text) : Option UInt16 :=
  ((parseU64 chars).filter fun number => number < 2 ^ 16).map UInt16.ofNat

/-- `create_online_stream`, with the address of the rendezvous server. -/
def createOnlineStream
    (rendezvousServer : Text)
    (connectTcp : Text → Except IoError Unit) :
    Except OnlineStreamError Unit :=
  let invalid : OnlineStreamError :=
    .bail ("Invalid server address: " ++ String.ofList rendezvousServer)
  match rendezvousServer.splitOn ':' with
  | [host, number] =>
      match parseU16 number with
      | none => .error .parseInt
      | some port =>
          if port = 0 then .error invalid
          else
            match connectTcp (host ++ ':' :: (port.toNat - 1).repr.toList) with
            | .error error => .error (.connect error)
            | .ok () => .ok ()
  | _ => .error invalid

/-- What the network does with a question. -/
structure OnlineWire where
  /-- The address of the rendezvous server, with its port. -/
  rendezvousServer : Text
  connectTcp : Text → Except IoError Unit
  sent : Except IoError Unit
  /-- What the calls of `next_timeout` return. -/
  reads : List (Option (Except IoError Bytes))

/-- The mask for a peer; the bits of a byte are counted from left to right. -/
def bitValue (i : Nat) : UInt8 :=
  1 <<< UInt8.ofNat (7 - i % 8)

/-- The body of the loop over the peers; nothing when the states are indexed outside. -/
def sortPeer
    (states : Bytes)
    (lists : List String × List String)
    (peer : String × Nat) :
    Option (List String × List String) :=
  match states[peer.2 / 8]? with
  | none => none
  | some byte =>
      if byte &&& bitValue peer.2 = bitValue peer.2 then some (lists.1 ++ [peer.1], lists.2)
      else some (lists.1, lists.2 ++ [peer.1])

/-- The loop over the peers. -/
def sortPeers (states : Bytes) (ids : List String) : Option (List String × List String) :=
  ids.zipIdx.foldlM (sortPeer states) ([], [])

/-- The states of the response, if one of some reads of messages gives it. -/
def onlineStates
    (parse : Bytes → Option OnlineAnswer) :
    Nat → List (Option (Except IoError Bytes)) → Except String Bytes
  | 0, _ => .error "Failed to query online states, no online response"
  | tries + 1, reads =>
      match nextNonkeyexchangeMsg parse OnlineAnswer.isKeyExchange reads with
      | (some (.onlineResponse states), _) => .ok states
      | (some _, rest) => onlineStates parse tries rest
      | (none, _) => .error "Online stream receives None"

section Query

variable (parse : Bytes → Option OnlineAnswer) (wire : OnlineWire) (ids : List String)

/-- `query_online_states_`, the peers that are online first; nothing when it panics. -/
def queryOnlineStates_ : Option (Except String (List String × List String)) :=
  match createOnlineStream wire.rendezvousServer wire.connectTcp with
  | .error _ => some (.ok ([], ids))
  | .ok () =>
      match wire.sent with
      | .error _ => some (.ok ([], ids))
      | .ok () =>
          match onlineStates parse 2 wire.reads with
          | .error error => some (.error error)
          | .ok states => (sortPeers states ids).map .ok

/-- `query_online_states`: what its callback is called with. -/
def queryOnlineStates : Option (Option (List String × List String)) :=
  (queryOnlineStates_ parse wire ids).map Except.toOption

/-- The question is sent and a response with these states is taken. -/
structure Responds (states : Bytes) : Prop where
  created : createOnlineStream wire.rendezvousServer wire.connectTcp = .ok ()
  sent : wire.sent = .ok ()
  taken : onlineStates parse 2 wire.reads = .ok states

end Query

/-! ## The two lists -/

/-- The peers are online whose bit is set, and each peer is in one of the lists. -/
structure PartitionBy
    (states : Bytes)
    (ids : List String)
    (lists : List String × List String) : Prop where
  onlines : lists.1 = ((ids.zip (bits states)).filter Prod.snd).map Prod.fst
  offlines : lists.2 = ((ids.zip (bits states)).filter fun peer => !peer.2).map Prod.fst
  together : (lists.1 ++ lists.2).Perm ids

variable
  {parse : Bytes → Option OnlineAnswer}
  {wire : OnlineWire}

theorem sortPeer_eq
    (states : Bytes)
    (lists : List String × List String)
    (id : String)
    (i : Nat) :
    sortPeer states lists (id, i) =
      (bits states)[i]?.map fun bit =>
        if bit then (lists.1 ++ [id], lists.2) else (lists.1, lists.2 ++ [id]) := by
  have inside : 7 - i % 8 < 8 := by omega
  rw [sortPeer, getElem?_bits]
  dsimp only
  cases states[i / 8]? with
  | none => rfl
  | some byte =>
      simp only [bitValue, and_shiftLeft_eq_iff byte inside, Option.map_some]
      split <;> rfl

/-- The loop goes through if there are bits for the peers that are left. -/
theorem foldlM_sortPeer
    (states : Bytes)
    (ids : List String)
    (lists : List String × List String)
    (start : Nat) :
    (ids.zipIdx start).foldlM (sortPeer states) lists =
      if ids.length ≤ ((bits states).drop start).length then
        some
          (lists.1 ++ ((ids.zip ((bits states).drop start)).filter Prod.snd).map Prod.fst,
            lists.2 ++
              ((ids.zip ((bits states).drop start)).filter fun peer => !peer.2).map Prod.fst)
      else none := by
  induction ids generalizing lists start with
  | nil => simp
  | cons id ids inductionHypothesis =>
      rw [List.zipIdx_cons, List.foldlM_cons, sortPeer_eq]
      cases left : (bits states).drop start with
      | nil =>
          have none : (bits states)[start]? = none := by
            rw [← List.head?_drop, left, List.head?_nil]
          rw [none]
          rfl
      | cons bit rest =>
          have here : (bits states)[start]? = some bit := by
            rw [← List.head?_drop, left, List.head?_cons]
          have next : (bits states).drop (start + 1) = rest := by
            rw [← List.tail_drop, left, List.tail_cons]
          rw [here, Option.map_some, Option.bind_eq_bind, Option.bind_some, inductionHypothesis,
            next]
          simp only [List.length_cons, Nat.add_le_add_iff_right]
          cases bit <;> simp

theorem sortPeers_eq (states : Bytes) (ids : List String) :
    sortPeers states ids =
      if ids.length ≤ 8 * states.length then
        some (((ids.zip (bits states)).filter Prod.snd).map Prod.fst,
          ((ids.zip (bits states)).filter fun peer => !peer.2).map Prod.fst)
      else none := by
  rw [sortPeers, foldlM_sortPeer, List.drop_zero, length_bits]
  rfl

/-- With a bit for each peer the lists are a partition. -/
theorem partitionBy_of_le
    {states : Bytes}
    {ids : List String}
    (enough : ids.length ≤ 8 * states.length) :
    PartitionBy states ids
      (((ids.zip (bits states)).filter Prod.snd).map Prod.fst,
        ((ids.zip (bits states)).filter fun peer => !peer.2).map Prod.fst) := by
  refine ⟨rfl, rfl, ?_⟩
  have both := (List.filter_append_perm Prod.snd (ids.zip (bits states))).map Prod.fst
  rw [List.map_append, List.map_fst_zip (by rwa [length_bits])] at both
  exact both

/-- A response decides what a question ends with. -/
theorem Responds.query
    {states : Bytes}
    (responds : Responds parse wire states)
    (ids : List String) :
    queryOnlineStates_ parse wire ids = (sortPeers states ids).map .ok := by
  rw [queryOnlineStates_, responds.created]
  dsimp only
  rw [responds.sent]
  dsimp only
  rw [responds.taken]

/-- A question without a response does not panic. -/
theorem query_ne_none_of_no_response
    (unanswered : ∀ states, ¬Responds parse wire states)
    (ids : List String) :
    queryOnlineStates_ parse wire ids ≠ none := by
  unfold queryOnlineStates_
  cases created : createOnlineStream wire.rendezvousServer wire.connectTcp with
  | error error => exact Option.some_ne_none _
  | ok done =>
      cases sent : wire.sent with
      | error error => exact Option.some_ne_none _
      | ok done =>
          cases taken : onlineStates parse 2 wire.reads with
          | error error => exact Option.some_ne_none _
          | ok states => exact absurd ⟨created, sent, taken⟩ (unanswered states)

/-- A question never indexes outside the states, and what it returns for a response is the
partition of the peers by its bits. -/
def SortsPeers
    (parse : Bytes → Option OnlineAnswer)
    (wire : OnlineWire)
    (ids : List String) : Prop :=
  queryOnlineStates_ parse wire ids ≠ none ∧
    ∀ states lists, Responds parse wire states →
      queryOnlineStates_ parse wire ids = some (.ok lists) → PartitionBy states ids lists

/-- Exactly the responses with too few bits end in a panic; all others sort the peers. -/
theorem sortsPeers_iff
    (parse : Bytes → Option OnlineAnswer)
    (wire : OnlineWire)
    (ids : List String) :
    SortsPeers parse wire ids ↔
      ∀ states, Responds parse wire states → ids.length ≤ 8 * states.length := by
  constructor
  · intro sorts states responds
    by_contra short
    apply sorts.1
    rw [responds.query, sortPeers_eq, if_neg short]
    rfl
  · intro enough
    constructor
    · by_cases answered : ∃ states, Responds parse wire states
      · obtain ⟨states, responds⟩ := answered
        rw [responds.query, sortPeers_eq, if_pos (enough states responds)]
        exact Option.some_ne_none _
      · exact query_ne_none_of_no_response (not_exists.mp answered) ids
    · intro states lists responds returned
      rw [responds.query, sortPeers_eq, if_pos (enough states responds)] at returned
      cases returned
      exact partitionBy_of_le (enough states responds)

/-- A server that answers with no states. -/
def tersely : OnlineWire where
  rendezvousServer := "a:2".toList
  connectTcp := fun _ => .ok ()
  sent := .ok ()
  reads := [some (.ok [])]

/-- An answer without states to a question for one peer ends in a panic. -/
theorem terse_answer_panics :
    ¬SortsPeers (fun states => some (.onlineResponse states)) tersely ["152183996"] ∧
      queryOnlineStates_ (fun states => some (.onlineResponse states)) tersely ["152183996"] =
        none := by
  have panics : queryOnlineStates_ (fun states => some (.onlineResponse states)) tersely
      ["152183996"] = none := by
    decide
  exact ⟨fun sorts => sorts.1 panics, panics⟩

end Client
end OneDesk
