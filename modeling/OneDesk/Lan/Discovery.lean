import OneDesk.Lib.Recent
import OneDesk.Lib.Run
import OneDesk.Lib.Table

/-!
# Discovery in the local network

A query is broadcast, and every socket it went out on waits for responses.  What the sockets receive
is merged into the stored list of peers: peers that respond come to the front with the addresses
they responded from.  Two peers are the same if their ids and their user names are, while what has
already responded in this discovery is told by the id alone.
-/

namespace OneDesk
namespace Lan

open OneDesk.Lib

/-- `DiscoveryPeer` -/
structure DiscoveryPeer where
  id : String
  username : String
  hostname : String
  platform : String
  online : Bool
  ipMac : Table String String

/-- What `is_same_peer` compares. -/
def DiscoveryPeer.key (peer : DiscoveryPeer) : String × String :=
  (peer.id, peer.username)

/-- `is_same_peer` -/
def DiscoveryPeer.isSamePeer (peer other : DiscoveryPeer) : Bool :=
  peer.id == other.id && peer.username == other.username

/-- `PeerDiscovery`, a message of another device. -/
structure PeerDiscovery where
  cmd : String
  mac : String
  id : String
  username : String
  hostname : String
  platform : String

/-- A response to the query, with the address it came from. -/
structure Response where
  ip : String
  discovery : PeerDiscovery

/-- The peer that is sent on for a response. -/
def Response.peer (response : Response) : DiscoveryPeer :=
  { id := response.discovery.id
    ipMac := Finmap.singleton response.ip response.discovery.mac
    username := response.discovery.username
    hostname := response.discovery.hostname
    platform := response.discovery.platform
    online := true }

/-! ## Waiting for responses -/

/-- `SocketAddr` -/
structure SocketAddr where
  ip : String
  port : Nat

/-- What one socket waits with. -/
structure Waiting where
  lastRecvTime : Nat
  /-- The hardware address of the interface, once it was looked up. -/
  mac : Option String

/-- One `recv_from`: the sender, and the message if it is a `PeerDiscovery`. -/
structure Reception where
  now : Nat
  datagram : Option (SocketAddr × Option PeerDiscovery)

section

variable (getIpaddrByPeer : SocketAddr → Option String) (getMac : String → String)
  (localAddr : Option String)

/-- The interface has to be asked for anew if the socket is bound to no address. -/
def tryGetIpByPeer : Bool :=
  localAddr.all fun ip => ip == "0.0.0.0" || ip == "::"

/-- The hardware address of the interface a message came in on. -/
def localMac (waiting : Waiting) (addr : SocketAddr) : String × Waiting :=
  if tryGetIpByPeer localAddr then
    (match getIpaddrByPeer addr with
      | some selfAddr => getMac selfAddr
      | none => "", waiting)
  else
    match waiting.mac with
    | some mac => (mac, waiting)
    | none =>
        let mac := match localAddr with
          | some ip => getMac ip
          | none => ""
        (mac, { waiting with mac := some mac })

/-- A message is a response unless it comes from this device. -/
def answer (waiting : Waiting) (addr : SocketAddr) (discovery : PeerDiscovery) :
    List DiscoveryPeer × Waiting :=
  if discovery.cmd = "pong" then
    let own := localMac getIpaddrByPeer getMac localAddr waiting addr
    (if own.1.isEmpty && discovery.mac.isEmpty || own.1 != discovery.mac then
      [Response.peer ⟨addr.ip, discovery⟩] else [], own.2)
  else ([], waiting)

/-- One pass of the loop of `wait_response`, with what is sent on. -/
def receive (waiting : Waiting) (reception : Reception) : List DiscoveryPeer × Waiting :=
  match reception.datagram with
  | some (addr, some discovery) =>
      answer getIpaddrByPeer getMac localAddr
        { waiting with lastRecvTime := reception.now } addr discovery
  | _ => ([], waiting)

/-- `wait_response`: the loop ends when nothing came for three seconds. -/
def waitResponse : Waiting → List Reception → List DiscoveryPeer
  | _, [] => []
  | waiting, reception :: later =>
      let received := receive getIpaddrByPeer getMac localAddr waiting reception
      received.1 ++
        if reception.now - received.2.lastRecvTime > 3000 then []
        else waitResponse received.2 later

/-- A socket sends on nothing but responses. -/
theorem exists_response_of_mem
    (waiting : Waiting)
    (receptions : List Reception) :
    ∀ peer ∈ waitResponse getIpaddrByPeer getMac localAddr waiting receptions,
      ∃ response : Response, peer = response.peer := by
  induction receptions generalizing waiting with
  | nil => exact fun _ absent => absurd absent List.not_mem_nil
  | cons reception later inductionHypothesis =>
      intro peer member
      unfold waitResponse at member
      rcases List.mem_append.mp member with now | further
      · unfold receive answer at now
        split at now
        · split at now
          · dsimp only at now
            split at now
            · exact ⟨_, List.mem_singleton.mp now⟩
            · cases now
          · cases now
        · cases now
      · split at further
        · cases further
        · exact inductionHypothesis _ peer further

end

/-! ## The list of peers -/

/-- `LanPeers::load`, where a file that cannot be read counts as empty. -/
def load (file : Option (List DiscoveryPeer)) : List DiscoveryPeer :=
  file.getD []

/-- What `handle_received_peers` keeps, with the lists it has stored. -/
structure Discovery where
  peers : List DiscoveryPeer
  responseSet : Finset String
  lastWriteTime : Option Nat
  stored : List (List DiscoveryPeer)

namespace Discovery

/-- Before the first response everyone is offline. -/
def start (peers : List DiscoveryPeer) : Discovery :=
  { peers := peers.map fun peer => { peer with online := false }
    responseSet := ∅
    lastWriteTime := none
    stored := [] }

/-- `LanPeers::store`, at most once in 300 milliseconds. -/
def write (now : Nat) (discovery : Discovery) : Discovery :=
  if discovery.lastWriteTime.all fun time => now - time > 300 then
    { discovery with
      stored := discovery.stored ++ [discovery.peers], lastWriteTime := some now }
  else discovery

/-- A peer is received from the channel. -/
def receive (discovery : Discovery) (received : Nat × DiscoveryPeer) : Discovery :=
  let peer := received.2
  let inResponseSet : Bool := peer.id ∈ discovery.responseSet
  let peers := match takeOut (·.isSamePeer peer) discovery.peers with
    | some (peer1, others) =>
        (if inResponseSet then
          { peer with ipMac := peer.ipMac.extend peer1.ipMac, online := true }
        else peer) :: others
    | none => peer :: discovery.peers
  { discovery with
    peers, responseSet := insert peer.id discovery.responseSet }.write received.1

end Discovery

/-- `handle_received_peers`: the lists it stores, one after another. -/
def handleReceivedPeers (file : Option (List DiscoveryPeer))
    (received : List (Nat × DiscoveryPeer)) : List (List DiscoveryPeer) :=
  let discovery := run Discovery.receive (.start (load file)) received
  discovery.stored ++ [discovery.peers]

/-! ## What is found at the end -/

/-- The key of the peer that responds. -/
def Response.key (response : Response) : String × String :=
  response.peer.key

/-- The list of a discovery as it should be: no two same peers, everyone once, online who responded
and with the addresses of this discovery. -/
structure Settled (before : List DiscoveryPeer) (responses : List Response)
    (peers : List DiscoveryPeer) : Prop where
  distinct : peers.Pairwise fun peer other => peer.isSamePeer other = false
  once : ∀ peer ∈ before ++ responses.map Response.peer,
    peers.countP (·.isSamePeer peer) = 1
  online : ∀ peer ∈ peers,
    peer.online = true ↔ ∃ response ∈ responses, response.peer.isSamePeer peer = true
  addresses : ∀ peer ∈ peers,
    (∃ response ∈ responses, response.peer.isSamePeer peer = true) →
      ∀ ip, ip ∈ peer.ipMac ↔
        ∃ response ∈ responses, response.peer.isSamePeer peer = true ∧ response.ip = ip

/-- A response is the first one of a peer, but not the first one with its id. -/
def ComesSecond (responses : List Response) (key : String × String) : Prop :=
  ∃ before response after, responses = before ++ response :: after ∧ response.key = key ∧
    (∀ earlier ∈ before, earlier.key ≠ key) ∧ ∃ earlier ∈ before, earlier.discovery.id = key.1

/-- A peer responds from all addresses it is stored with if its id responds under another user name
before. -/
def NothingStale (before : List DiscoveryPeer) (responses : List Response) : Prop :=
  ∀ peer ∈ before, ComesSecond responses peer.key →
    ∀ ip ∈ peer.ipMac, ∃ response ∈ responses, response.key = peer.key ∧ response.ip = ip

theorem DiscoveryPeer.isSamePeer_eq (peer other : DiscoveryPeer) :
    peer.isSamePeer other = decide (peer.key = other.key) := by
  simp [isSamePeer, key, Prod.ext_iff, beq_eq_decide]

theorem mem_ipMac_peer
    (response : Response)
    (ip : String) :
    ip ∈ response.peer.ipMac ↔ response.ip = ip := by
  rw [Response.peer, Finmap.mem_singleton]
  exact eq_comm

theorem comesSecond_concat
    (responses : List Response)
    (last : Response)
    (key : String × String) :
    ComesSecond (responses ++ [last]) key ↔
      ComesSecond responses key ∨
        last.key = key ∧ (∀ earlier ∈ responses, earlier.key ≠ key) ∧
          ∃ earlier ∈ responses, earlier.discovery.id = key.1 := by
  constructor
  · rintro ⟨before, response, after, split, isKey, first, second⟩
    rcases List.eq_nil_or_concat after with rfl | ⟨after, final, rfl⟩
    · obtain ⟨rfl, rfl⟩ := List.append_inj' split rfl |>.imp id List.singleton_inj.mp
      exact .inr ⟨isKey, first, second⟩
    · rw [List.concat_eq_append, ← List.cons_append, ← List.append_assoc] at split
      obtain ⟨rfl, -⟩ := List.append_inj' split rfl
      exact .inl ⟨before, response, after, rfl, isKey, first, second⟩
  · rintro (⟨before, response, after, rfl, isKey, first, second⟩ | ⟨isKey, first, second⟩)
    · exact ⟨before, response, after ++ [last], by simp, isKey, first, second⟩
    · exact ⟨responses, last, [], rfl, isKey, first, second⟩

/-- Who comes second has responded. -/
theorem ComesSecond.responded
    {responses : List Response}
    {key : String × String}
    (second : ComesSecond responses key) :
    ∃ response ∈ responses, response.key = key := by
  obtain ⟨before, response, after, rfl, isKey, -⟩ := second
  exact ⟨response, by simp, isKey⟩

namespace Discovery

@[simp] theorem peers_write
    (now : Nat)
    (discovery : Discovery) :
    (discovery.write now).peers = discovery.peers := by
  unfold write
  split <;> rfl

@[simp] theorem responseSet_write
    (now : Nat)
    (discovery : Discovery) :
    (discovery.write now).responseSet = discovery.responseSet := by
  unfold write
  split <;> rfl

/-- What is put into the list for a response. -/
def merged (discovery : Discovery) (peer : DiscoveryPeer) : DiscoveryPeer :=
  match entryOf DiscoveryPeer.key discovery.peers peer.key with
  | none => peer
  | some peer1 =>
      if peer.id ∈ discovery.responseSet then
        { peer with ipMac := peer.ipMac.extend peer1.ipMac, online := true }
      else peer

theorem key_merged
    (discovery : Discovery)
    (peer : DiscoveryPeer) :
    (discovery.merged peer).key = peer.key := by
  unfold merged
  split
  · rfl
  · split <;> rfl

theorem peers_receive
    (discovery : Discovery)
    (received : Nat × DiscoveryPeer) :
    (discovery.receive received).peers =
      renew DiscoveryPeer.key (discovery.merged received.2) discovery.peers := by
  have test : (fun peer : DiscoveryPeer => peer.isSamePeer received.2) =
      fun peer => decide (peer.key = received.2.key) :=
    funext fun peer => peer.isSamePeer_eq received.2
  unfold receive renew
  rw [peers_write, key_merged]
  simp only [takeOut_eq, test, merged, entryOf]
  cases found : discovery.peers.find? fun peer => decide (peer.key = received.2.key) with
  | none =>
      rw [List.eraseP_of_forall_not (List.find?_eq_none.mp found)]
      rfl
  | some peer1 => simp only [Option.map_some, decide_eq_true_eq]

theorem responseSet_receive
    (discovery : Discovery)
    (received : Nat × DiscoveryPeer) :
    (discovery.receive received).responseSet =
      insert received.2.id discovery.responseSet :=
  responseSet_write received.1 _

end Discovery

/-- What a discovery knows after some responses, key by key. -/
structure Tells (before : List DiscoveryPeer) (responses : List Response)
    (discovery : Discovery) : Prop where
  distinct : Distinct DiscoveryPeer.key discovery.peers
  responseSet : ∀ id, id ∈ discovery.responseSet ↔
    ∃ response ∈ responses, response.discovery.id = id
  silent : ∀ key, (∀ response ∈ responses, response.key ≠ key) →
    entryOf DiscoveryPeer.key discovery.peers key =
      (entryOf DiscoveryPeer.key before key).map fun peer => { peer with online := false }
  responded : ∀ key, (∃ response ∈ responses, response.key = key) →
    ∃ peer, entryOf DiscoveryPeer.key discovery.peers key = some peer ∧ peer.online = true ∧
      ∀ ip, ip ∈ peer.ipMac ↔
        (∃ response ∈ responses, response.key = key ∧ response.ip = ip) ∨
          ComesSecond responses key ∧
            ∃ old, entryOf DiscoveryPeer.key before key = some old ∧ ip ∈ old.ipMac

namespace Tells

variable {before : List DiscoveryPeer} {responses : List Response} {discovery : Discovery}

theorem start
    (distinct : Distinct DiscoveryPeer.key before) :
    Tells before [] (.start before) where
  distinct := by
    unfold Distinct Discovery.start at *
    rw [List.map_map]
    exact distinct
  responseSet := by simp [Discovery.start]
  silent key _ := by
    unfold entryOf Discovery.start
    rw [List.find?_map]
    rfl
  responded key answered := by simp at answered

/-- The addresses of the entry that a response brings up. -/
theorem mem_ipMac_merged
    (tells : Tells before responses discovery)
    (response : Response)
    (ip : String) :
    ip ∈ (discovery.merged response.peer).ipMac ↔
      (∃ each ∈ responses ++ [response], each.key = response.key ∧ each.ip = ip) ∨
        ComesSecond (responses ++ [response]) response.key ∧
          ∃ old, entryOf DiscoveryPeer.key before response.key = some old ∧ ip ∈ old.ipMac := by
  have inSet : response.peer.id ∈ discovery.responseSet ↔
      ∃ earlier ∈ responses, earlier.discovery.id = response.key.1 :=
    tells.responseSet response.discovery.id
  simp only [List.mem_append, List.mem_singleton, or_and_right, exists_or, exists_eq_left,
    true_and]
  by_cases answered : ∃ earlier ∈ responses, earlier.key = response.key
  · -- a further response of the same peer adds to what it responded with before
    obtain ⟨peer1, found, -, addresses⟩ := tells.responded response.key answered
    obtain ⟨earlier, member, same⟩ := answered
    have seen : response.peer.id ∈ discovery.responseSet :=
      inSet.mpr ⟨earlier, member, congrArg Prod.fst same⟩
    have second : ComesSecond (responses ++ [response]) response.key ↔
        ComesSecond responses response.key := by
      rw [comesSecond_concat]
      exact or_iff_left fun first => first.2.1 earlier member same
    unfold Discovery.merged
    rw [show entryOf DiscoveryPeer.key discovery.peers response.peer.key = _ from found]
    simp only [seen, if_true, Table.extend, Finmap.mem_union, addresses, mem_ipMac_peer, second]
    exact or_right_comm
  · -- the first response of a peer meets what was stored for it
    have none : ∀ each ∈ responses, each.key ≠ response.key :=
      fun each member same => answered ⟨each, member, same⟩
    have notEarlier : ¬∃ each ∈ responses, each.key = response.key ∧ each.ip = ip := by
      rintro ⟨each, member, same, -⟩
      exact none each member same
    have second : ComesSecond (responses ++ [response]) response.key ↔
        response.peer.id ∈ discovery.responseSet := by
      rw [comesSecond_concat, inSet]
      constructor
      · rintro (earlier | ⟨-, -, seen⟩)
        · exact absurd earlier.responded answered
        · exact seen
      · exact fun seen => .inr ⟨rfl, none, seen⟩
    have found := tells.silent response.key none
    unfold Discovery.merged
    rw [show entryOf DiscoveryPeer.key discovery.peers response.peer.key = _ from found]
    simp only [notEarlier, false_or, second]
    cases entryOf DiscoveryPeer.key before response.key with
    | none => simp [mem_ipMac_peer]
    | some old =>
        by_cases seen : response.peer.id ∈ discovery.responseSet
        · simp [seen, Table.extend, mem_ipMac_peer, or_comm]
        · simp [seen, mem_ipMac_peer]

theorem online_merged
    (discovery : Discovery)
    (response : Response) :
    (discovery.merged response.peer).online = true := by
  unfold Discovery.merged
  split
  · rfl
  · split <;> rfl

/-- A response changes what is known of its own peer only. -/
theorem receive
    (tells : Tells before responses discovery)
    (now : Nat)
    (response : Response) :
    Tells before (responses ++ [response]) (discovery.receive (now, response.peer)) := by
  have lookup (key : String × String) :
      entryOf DiscoveryPeer.key (discovery.receive (now, response.peer)).peers key =
        if response.key = key then some (discovery.merged response.peer)
        else entryOf DiscoveryPeer.key discovery.peers key := by
    rw [Discovery.peers_receive, entryOf_renew, Discovery.key_merged]
    rfl
  constructor
  · rw [Discovery.peers_receive]
    exact tells.distinct.renew _
  · intro id
    rw [Discovery.responseSet_receive, Finset.mem_insert, tells.responseSet]
    simp only [List.mem_append, List.mem_singleton, or_and_right, exists_or, exists_eq_left]
    rw [or_comm, eq_comm]
    rfl
  · intro key none
    have other : response.key ≠ key := none response (by simp)
    rw [lookup, if_neg other]
    exact tells.silent key fun each member => none each (List.mem_append_left _ member)
  · intro key answered
    by_cases same : response.key = key
    · subst same
      exact ⟨_, by rw [lookup, if_pos rfl], online_merged discovery response,
        tells.mem_ipMac_merged response⟩
    · have earlier : ∃ each ∈ responses, each.key = key := by
        obtain ⟨each, member, isKey⟩ := answered
        rcases List.mem_append.mp member with before | last
        · exact ⟨each, before, isKey⟩
        · exact absurd (List.mem_singleton.mp last ▸ isKey) same
      obtain ⟨peer, found, online, addresses⟩ := tells.responded key earlier
      refine ⟨peer, by rw [lookup, if_neg same, found], online, fun ip => ?_⟩
      rw [addresses, comesSecond_concat]
      simp [same, or_and_right, exists_or]

/-- What a discovery knows after all responses. -/
theorem run
    (distinct : Distinct DiscoveryPeer.key before)
    (responses : List (Nat × Response)) :
    Tells before (responses.map Prod.snd)
      (run Discovery.receive (.start before)
        (responses.map fun response => (response.1, response.2.peer))) := by
  induction responses using List.reverseRecOn with
  | nil => exact .start distinct
  | append_singleton responses response inductionHypothesis =>
      rw [List.map_append, List.map_append, List.map_singleton, List.map_singleton, run_concat]
      exact inductionHypothesis.receive response.1 response.2


/-- An entry of the list with what is known of it. -/
theorem entry_of_mem
    (tells : Tells before responses discovery)
    {peer : DiscoveryPeer}
    (member : peer ∈ discovery.peers) :
    entryOf DiscoveryPeer.key discovery.peers peer.key = some peer :=
  (tells.distinct.mem_iff peer).mp member

theorem online_iff
    (tells : Tells before responses discovery)
    {peer : DiscoveryPeer}
    (member : peer ∈ discovery.peers) :
    peer.online = true ↔ ∃ response ∈ responses, response.key = peer.key := by
  have found := tells.entry_of_mem member
  constructor
  · intro online
    by_contra none
    have old := tells.silent peer.key fun response among same => none ⟨response, among, same⟩
    rw [found] at old
    obtain ⟨stored, -, offline⟩ := Option.map_eq_some_iff.mp old.symm
    rw [← offline] at online
    cases online
  · intro answered
    obtain ⟨same, same_eq, online, -⟩ := tells.responded peer.key answered
    obtain rfl := Option.some_inj.mp (found.symm.trans same_eq)
    exact online

theorem isSome_entry
    (tells : Tells before responses discovery)
    {peer : DiscoveryPeer}
    (known : peer ∈ before ++ responses.map Response.peer) :
    (entryOf DiscoveryPeer.key discovery.peers peer.key).isSome := by
  by_cases answered : ∃ response ∈ responses, response.key = peer.key
  · obtain ⟨entry, found, -⟩ := tells.responded peer.key answered
    exact Option.isSome_of_mem found
  · rw [tells.silent peer.key fun response among same => answered ⟨response, among, same⟩,
      Option.isSome_map]
    rcases List.mem_append.mp known with stored | responded
    · exact List.find?_isSome.mpr ⟨peer, stored, decide_eq_true rfl⟩
    · obtain ⟨response, among, rfl⟩ := List.mem_map.mp responded
      exact absurd ⟨response, among, rfl⟩ answered

/-- Only the addresses can be wrong, and only where old ones were kept. -/
theorem settled_iff
    (tells : Tells before responses discovery)
    (distinct : Distinct DiscoveryPeer.key before) :
    Settled before responses discovery.peers ↔ NothingStale before responses := by
  constructor
  · intro settled peer stored second ip inOld
    obtain ⟨entry, found, -, addresses⟩ := tells.responded peer.key second.responded
    have isKey : entry.key = peer.key := by simpa using List.find?_some found
    have kept : ip ∈ entry.ipMac :=
      (addresses ip).mpr (.inr ⟨second, peer, (distinct.mem_iff peer).mp stored, inOld⟩)
    have exactly := settled.addresses entry (List.mem_of_find?_eq_some found)
    simp only [DiscoveryPeer.isSamePeer_eq, decide_eq_true_eq, isKey] at exactly
    exact (exactly second.responded ip).mp kept
  · intro nothingStale
    constructor
    · refine (List.pairwise_map.mp tells.distinct).imp fun different => ?_
      simpa [DiscoveryPeer.isSamePeer_eq] using different
    · intro peer known
      simp only [DiscoveryPeer.isSamePeer_eq]
      exact tells.distinct.countP_eq_one (tells.isSome_entry known)
    · intro peer member
      simp only [DiscoveryPeer.isSamePeer_eq, decide_eq_true_eq]
      exact tells.online_iff member
    · intro peer member
      simp only [DiscoveryPeer.isSamePeer_eq, decide_eq_true_eq]
      intro answered ip
      obtain ⟨same, same_eq, -, addresses⟩ := tells.responded peer.key answered
      obtain rfl := Option.some_inj.mp ((tells.entry_of_mem member).symm.trans same_eq)
      rw [addresses]
      refine or_iff_left_of_imp ?_
      rintro ⟨second, old, old_eq, inOld⟩
      have isKey : old.key = peer.key := by simpa using List.find?_some old_eq
      rw [← isKey] at second ⊢
      exact nothingStale old (List.mem_of_find?_eq_some old_eq) second ip inOld

end Tells

/-- The list that is stored at the end is as it should be exactly if every stored peer whose id
responds under another user name first responds itself from all addresses it is stored with. -/
theorem handleReceivedPeers_settled_iff
    (file : Option (List DiscoveryPeer))
    (distinct : (load file).Pairwise fun peer other => peer.isSamePeer other = false)
    (responses : List (Nat × Response)) :
    (∃ peers,
      (handleReceivedPeers file
        (responses.map fun response => (response.1, response.2.peer))).getLast? = some peers ∧
      Settled (load file) (responses.map Prod.snd) peers) ↔
    NothingStale (load file) (responses.map Prod.snd) := by
  have keys : Distinct DiscoveryPeer.key (load file) := by
    refine List.pairwise_map.mpr (distinct.imp fun different => ?_)
    simpa [DiscoveryPeer.isSamePeer_eq] using different
  rw [← (Tells.run keys responses).settled_iff keys]
  simp [handleReceivedPeers]

/-- A stored peer with an address that it has no more. -/
def moved : DiscoveryPeer :=
  { id := "152183996", username := "bob", hostname := "desk", platform := "Linux"
    online := true, ipMac := Finmap.singleton "192.168.1.7" "00:00:00:00:00:07" }

/-- A response of the same device. -/
def answerOf (ip username : String) : Response :=
  ⟨ip, { cmd := "pong", mac := "00:00:00:00:00:07", id := "152183996", username
         hostname := "desk", platform := "Linux" }⟩

/-- Without another user name before it, the old address is replaced. -/
theorem settled_moved :
    ∃ peers, (handleReceivedPeers (some [moved])
        [(0, (answerOf "192.168.1.8" "bob").peer),
          (400, (answerOf "192.168.2.8" "bob").peer)]).getLast? = some peers ∧
      Settled [moved] [answerOf "192.168.1.8" "bob", answerOf "192.168.2.8" "bob"] peers := by
  refine (handleReceivedPeers_settled_iff (some [moved]) (List.pairwise_singleton _ _)
    [(0, answerOf "192.168.1.8" "bob"), (400, answerOf "192.168.2.8" "bob")]).mpr ?_
  rintro peer stored ⟨before, response, after, split, -, first, earlier, among, -⟩
  obtain rfl := List.mem_singleton.mp stored
  have member := List.mem_append_left (response :: after) among
  rw [← split] at member
  have same : earlier.key = moved.key := by
    rcases List.mem_pair.mp member with rfl | rfl <;> rfl
  exact absurd same (first earlier among)

/-- The device responds under another user name first, and its old address stays. -/
theorem old_address_is_kept :
    ¬∃ peers, (handleReceivedPeers (some [moved])
        [(0, (answerOf "192.168.1.8" "alice").peer),
          (0, (answerOf "192.168.1.8" "bob").peer)]).getLast? = some peers ∧
      Settled [moved] [answerOf "192.168.1.8" "alice", answerOf "192.168.1.8" "bob"] peers := by
  rintro ⟨peers, isLast, settled⟩
  obtain rfl := Option.some_inj.mp isLast
  obtain ⟨response, among, -, same⟩ :=
    (settled.addresses _ List.mem_cons_self ⟨_, List.mem_cons_of_mem _ List.mem_cons_self, rfl⟩
      "192.168.1.7").mp (by decide)
  rcases List.mem_pair.mp among with rfl | rfl <;> exact absurd same (by decide)

end Lan
end OneDesk
