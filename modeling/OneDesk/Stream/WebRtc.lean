import Mathlib.Logic.Function.Basic
import OneDesk.Lib.Run

/-!
# WebRTC sessions

`libs/hbb_common/src/webrtc.rs` shares peer connections through a table under the fingerprint of
their offer.  `WebRTCStream::new` looks the table up, releases it for the negotiation and looks it
up again; a callback of every connection takes the entry under its fingerprint out when the
connection goes down.
-/

namespace OneDesk
namespace Stream
namespace WebRtc

open Lib

/-- An attribute of a session description. -/
structure Attribute where
  key : String
  value : Option String
  deriving DecidableEq

structure MediaDescription where
  media : String
  attributes : List Attribute
  deriving DecidableEq

/-- A session description, taken apart. -/
structure SessionDescription where
  attributes : List Attribute
  mediaDescriptions : List MediaDescription
  deriving DecidableEq

/-- The value of the first attribute with a key. -/
def attributeOf (key : String) (attributes : List Attribute) : Option String :=
  (attributes.find? fun found => found.key = key).bind Attribute.value

/-- `get_key_for_sdp` -/
def getKeyForSdp (sdp : SessionDescription) : Except String String :=
  match attributeOf "fingerprint" sdp.attributes with
  | some fingerprint => .ok fingerprint
  | none =>
      match sdp.mediaDescriptions.findSome? fun media =>
          if media.media = "application" then attributeOf "fingerprint" media.attributes else none with
      | some fingerprint => .ok fingerprint
      | none => .error "SDP fingerprint attribute not found"

/-- `get_key_for_sdp_json`, for an offer that can be parsed; there is none for a local offer. -/
def getKeyForOffer : Option SessionDescription → Except String String
  | none => .ok ""
  | some offer => getKeyForSdp offer

/-- The states in which a connection is down. -/
inductive PeerState
  | disconnected
  | failed
  | closed
  deriving DecidableEq

/-- A peer connection with its callback. -/
structure PeerConnection where
  /-- The call of `new` that has made it. -/
  call : Nat
  startLocalOffer : Bool
  localDescription : Option SessionDescription := none
  remoteDescription : Option SessionDescription := none
  /-- Somebody has closed it. -/
  closing : Bool := false
  /-- The states that its callback has handled. -/
  callbacks : List PeerState := []
  deriving DecidableEq

/-- `get_key_for_peer` -/
def getKeyForPeer (connection : PeerConnection) : Except String String :=
  match (if connection.startLocalOffer then connection.localDescription
    else connection.remoteDescription) with
  | none => .error "PeerConnection description is not set"
  | some description => getKeyForSdp description

/-- Where a call of `new` stands. -/
inductive CallStage
  | lookup
  | connect
  | negotiate (pc : Nat)
  | gather (pc : Nat) (sdp : SessionDescription)
  | insert (pc : Nat) (key : String)
  | returned (result : Except String Nat)
  deriving DecidableEq

/-- A call of `WebRTCStream::new`. -/
structure Call where
  remoteOffer : Option SessionDescription
  stage : CallStage
  deriving DecidableEq

/-- One step of a call or of a connection. -/
inductive Event
  | new (remoteOffer : Option SessionDescription)
  /-- The first lock. -/
  | lookup (call : Nat)
  | connect (call : Nat) (result : Except String Unit)
  /-- `create_offer` and `set_local_description` -/
  | offer (call : Nat) (result : Except String SessionDescription)
  /-- `set_remote_description` -/
  | accept (call : Nat) (result : Except String Unit)
  /-- The rest of the negotiation. -/
  | gathered (call : Nat) (result : Except String Unit)
  /-- The last lock. -/
  | insert (call : Nat)
  | close (pc : Nat)
  /-- The lock of a callback. -/
  | callback (pc : Nat) (state : PeerState)
  deriving DecidableEq

/-- `SESSIONS`, and who works with it. -/
structure Sessions where
  sessions : String → Option Nat := fun _ => none
  connections : List PeerConnection := []
  calls : List Call := []

namespace Sessions

def setStage (call : Nat) (stage : CallStage) (state : Sessions) : Sessions :=
  { state with calls := state.calls.modify call fun found => { found with stage := stage } }

def modifyConnection
    (pc : Nat)
    (change : PeerConnection → PeerConnection)
    (state : Sessions) : Sessions :=
  { state with connections := state.connections.modify pc change }

/-- A description is set, and a call goes on with it. -/
def describe
    (call pc : Nat)
    (sdp : SessionDescription)
    (change : PeerConnection → PeerConnection)
    (state : Sessions) : Sessions :=
  (state.modifyConnection pc change).setStage call (.gather pc sdp)

/-- The callback of a connection takes the entry under its key out, or its own entries if there is
no key. -/
def cleanUp (pc : Nat) (connection : PeerConnection) (sessions : String → Option Nat) :
    String → Option Nat :=
  match getKeyForPeer connection with
  | .ok key => Function.update sessions key none
  | .error _ => fun key => if sessions key = some pc then none else sessions key

/-- A callback may still come: the one for `Closed` comes after a close, and it is the last. -/
def Due (connection : PeerConnection) (state : PeerState) : Prop :=
  .closed ∉ connection.callbacks ∧ (state = .closed → connection.closing = true)

instance (connection : PeerConnection) (state : PeerState) : Decidable (Due connection state) :=
  inferInstanceAs (Decidable (_ ∧ _))

/-- One step of a call or of a connection. -/
def step (state : Sessions) : Event → Sessions
  | .new remoteOffer =>
      { state with
        calls := state.calls ++
          [⟨remoteOffer,
            match getKeyForOffer remoteOffer with
            | .ok _ => .lookup
            | .error error => .returned (.error error)⟩] }
  | .lookup call =>
      match state.calls[call]? with
      | some ⟨remoteOffer, .lookup⟩ =>
          match getKeyForOffer remoteOffer with
          | .error error => state.setStage call (.returned (.error error))
          | .ok key =>
              match state.sessions key with
              | some cached =>
                  state.setStage call (if key = "" then .connect else .returned (.ok cached))
              | none => state.setStage call .connect
      | _ => state
  | .connect call result =>
      match state.calls[call]?, result with
      | some ⟨_, .connect⟩, .error error => state.setStage call (.returned (.error error))
      | some ⟨remoteOffer, .connect⟩, .ok () =>
          { state.setStage call (.negotiate state.connections.length) with
            connections := state.connections ++ [⟨call, remoteOffer.isNone, none, none, false, []⟩] }
      | _, _ => state
  | .offer call result =>
      match state.calls[call]?, result with
      | some ⟨none, .negotiate _⟩, .error error => state.setStage call (.returned (.error error))
      | some ⟨none, .negotiate pc⟩, .ok sdp =>
          state.describe call pc sdp fun connection =>
            { connection with localDescription := some sdp }
      | _, _ => state
  | .accept call result =>
      match state.calls[call]?, result with
      | some ⟨some _, .negotiate _⟩, .error error =>
          state.setStage call (.returned (.error error))
      | some ⟨some sdp, .negotiate pc⟩, .ok () =>
          state.describe call pc sdp fun connection =>
            { connection with remoteDescription := some sdp }
      | _, _ => state
  | .gathered call result =>
      match state.calls[call]?, result with
      | some ⟨_, .gather _ _⟩, .error error => state.setStage call (.returned (.error error))
      | some ⟨_, .gather pc sdp⟩, .ok () =>
          match getKeyForSdp sdp with
          | .error error => state.setStage call (.returned (.error error))
          | .ok key => state.setStage call (.insert pc key)
      | _, _ => state
  | .insert call =>
      match state.calls[call]? with
      | some ⟨_, .insert pc key⟩ =>
          match state.sessions key with
          | some session =>
              (state.modifyConnection pc fun connection =>
                { connection with closing := true }).setStage call (.returned (.ok session))
          | none =>
              { state.setStage call (.returned (.ok pc)) with
                sessions := Function.update state.sessions key (some pc) }
      | _ => state
  | .close pc =>
      state.modifyConnection pc fun connection => { connection with closing := true }
  | .callback pc peerState =>
      match state.connections[pc]? with
      | none => state
      | some connection =>
          if Due connection peerState then
            { state.modifyConnection pc fun connection =>
                { connection with callbacks := connection.callbacks ++ [peerState] } with
              sessions := cleanUp pc connection state.sessions }
          else state

end Sessions

/-! ## Entries and their connections -/

/-- A call has returned a stream over a connection. -/
def Returned (state : Sessions) (pc : Nat) : Prop :=
  ∃ call ∈ state.calls, call.stage = .returned (.ok pc)

/-- No callback for a connection that is down has run. -/
def Unclosed (state : Sessions) (pc : Nat) : Prop :=
  ∃ connection, state.connections[pc]? = some connection ∧ connection.callbacks = []

/-- The table has the streams that are up, and nothing that is closed. -/
structure Sound (state : Sessions) : Prop where
  stays : ∀ pc, Returned state pc → Unclosed state pc →
    ∃ key, state.sessions key = some pc
  unclosed : ∀ key pc, state.sessions key = some pc →
    ∃ connection, state.connections[pc]? = some connection ∧ .closed ∉ connection.callbacks

/-- An entry is taken out by a callback of its own connection only. -/
def RemovesOwn (state : Sessions) (event : Event) : Prop :=
  ∀ key pc, state.sessions key = some pc → (state.step event).sessions key ≠ some pc →
    ∃ peerState, event = .callback pc peerState

/-- All connections that have a key are closed, and their callbacks have run. -/
def Free (state : Sessions) (sdp : SessionDescription) : Prop :=
  ∀ key, getKeyForSdp sdp = .ok key → ∀ connection ∈ state.connections,
    getKeyForPeer connection = .ok key → .closed ∈ connection.callbacks

/-- A connection gets a key only when no other one with this key can have callbacks any more, and it
is still up when it is to be inserted. -/
def Alone (state : Sessions) : Event → Prop
  | .offer call (.ok sdp) =>
      ∀ found ∈ state.calls[call]?, found.remoteOffer = none → Free state sdp
  | .accept call (.ok ()) =>
      ∀ found ∈ state.calls[call]?, ∀ sdp ∈ found.remoteOffer, Free state sdp
  | .insert call =>
      ∀ found ∈ state.calls[call]?, ∀ pc key, found.stage = .insert pc key → Unclosed state pc
  | _ => True

/-- A connection is the same but for its end. -/
def SamePeer (connection other : PeerConnection) : Prop :=
  other = { connection with closing := other.closing, callbacks := other.callbacks }

/-- A call that has a connection is the one that has made it, and knows its key. -/
def Holds (connections : List PeerConnection) (call : Nat) (found : Call) : Prop :=
  match found.stage with
  | .negotiate pc => ∃ connection, connections[pc]? = some connection ∧ connection.call = call ∧
      connection.startLocalOffer = found.remoteOffer.isNone ∧
      getKeyForPeer connection = .error "PeerConnection description is not set"
  | .gather pc sdp => ∃ connection, connections[pc]? = some connection ∧ connection.call = call ∧
      getKeyForPeer connection = getKeyForSdp sdp
  | .insert pc key => ∃ connection, connections[pc]? = some connection ∧ connection.call = call ∧
      getKeyForPeer connection = .ok key
  | _ => True

/-- Every call that has a connection goes on with it. -/
def Holding (state : Sessions) : Prop :=
  ∀ (call : Nat) found, state.calls[call]? = some found → Holds state.connections call found

/-- At most one connection with a key can still have callbacks, and an entry is one that has had
none. -/
structure Keyed (state : Sessions) : Prop where
  entries : ∀ key pc, state.sessions key = some pc →
    ∃ connection, state.connections[pc]? = some connection ∧
      getKeyForPeer connection = .ok key ∧ connection.callbacks = []
  alone : ∀ (pc other : Nat) connection otherConnection key,
    state.connections[pc]? = some connection →
    state.connections[other]? = some otherConnection →
    getKeyForPeer connection = .ok key → getKeyForPeer otherConnection = .ok key →
    .closed ∉ connection.callbacks → .closed ∉ otherConnection.callbacks → pc = other
  stays : ∀ pc, Returned state pc → pc < state.connections.length ∧
    (Unclosed state pc → ∃ key, state.sessions key = some pc)

variable {state : Sessions}

theorem Keyed.sound (keyed : Keyed state) : Sound state := by
  refine ⟨fun pc returned => (keyed.stays pc returned).2, ?_⟩
  intro key pc isEntry
  obtain ⟨connection, isConnection, _, silent⟩ := keyed.entries key pc isEntry
  exact ⟨connection, isConnection, by simp [silent]⟩

theorem SamePeer.getKeyForPeer_eq
    {connection other : PeerConnection}
    (same : SamePeer connection other) :
    getKeyForPeer other = getKeyForPeer connection := by
  rw [same]
  rfl

theorem SamePeer.call_eq
    {connection other : PeerConnection}
    (same : SamePeer connection other) :
    other.call = connection.call := by
  rw [same]

theorem SamePeer.startLocalOffer_eq
    {connection other : PeerConnection}
    (same : SamePeer connection other) :
    other.startLocalOffer = connection.startLocalOffer := by
  rw [same]

/-- A call goes on with its connection while this stays the same peer. -/
theorem Holds.of_same
    {connections after : List PeerConnection}
    {call : Nat}
    {found : Call}
    (holds : Holds connections call found)
    (kept : ∀ (pc : Nat) connection, connections[pc]? = some connection →
      connection.call = call → ∃ other, after[pc]? = some other ∧ SamePeer connection other) :
    Holds after call found := by
  unfold Holds at holds ⊢
  split
  · next pc stage =>
      simp only [stage] at holds
      obtain ⟨connection, isConnection, own, offers, undescribed⟩ := holds
      obtain ⟨other, isOther, same⟩ := kept pc connection isConnection own
      exact ⟨other, isOther, same.call_eq.trans own, same.startLocalOffer_eq.trans offers,
        same.getKeyForPeer_eq.trans undescribed⟩
  · next pc sdp stage =>
      simp only [stage] at holds
      obtain ⟨connection, isConnection, own, described⟩ := holds
      obtain ⟨other, isOther, same⟩ := kept pc connection isConnection own
      exact ⟨other, isOther, same.call_eq.trans own, same.getKeyForPeer_eq.trans described⟩
  · next pc key stage =>
      simp only [stage] at holds
      obtain ⟨connection, isConnection, own, described⟩ := holds
      obtain ⟨other, isOther, same⟩ := kept pc connection isConnection own
      exact ⟨other, isOther, same.call_eq.trans own, same.getKeyForPeer_eq.trans described⟩
  · trivial

/-- The calls after one has gone on. -/
theorem setStage_calls
    {call index : Nat}
    {stage : CallStage}
    {found : Call}
    (isFound : (state.setStage call stage).calls[index]? = some found) :
    ∃ before, state.calls[index]? = some before ∧
      (call = index ∧ found = { before with stage := stage } ∨ call ≠ index ∧ found = before) := by
  rw [show (state.setStage call stage).calls =
    state.calls.modify call fun found => { found with stage := stage } from rfl,
    List.getElem?_modify] at isFound
  obtain ⟨before, wasFound, rfl⟩ := Option.map_eq_some_iff.mp isFound
  refine ⟨before, wasFound, ?_⟩
  split
  · next same => exact .inl ⟨same, rfl⟩
  · next differs => exact .inr ⟨differs, rfl⟩

/-- A call goes on, and a stream that it returns is in the table. -/
theorem Keyed.setStage
    (keyed : Keyed state)
    {call : Nat}
    {stage : CallStage}
    (stays : ∀ pc, stage = .returned (.ok pc) → ∃ key, state.sessions key = some pc) :
    Keyed (state.setStage call stage) := by
  refine ⟨keyed.entries, keyed.alone, ?_⟩
  rintro pc ⟨found, member, isReturned⟩
  obtain ⟨index, isFound⟩ := List.mem_iff_getElem?.mp member
  obtain ⟨before, wasFound, ⟨_, rfl⟩ | ⟨_, rfl⟩⟩ := setStage_calls isFound
  · obtain ⟨key, isEntry⟩ := stays pc isReturned
    obtain ⟨_, isConnection, _⟩ := keyed.entries key pc isEntry
    exact ⟨(List.getElem?_eq_some_iff.mp isConnection).1, fun _ => ⟨key, isEntry⟩⟩
  · exact keyed.stays pc ⟨found, List.mem_of_getElem? wasFound, isReturned⟩

theorem Holding.setStage
    (holding : Holding state)
    {call : Nat}
    {stage : CallStage}
    (holds : ∀ found, state.calls[call]? = some found →
      Holds state.connections call { found with stage := stage }) :
    Holding (state.setStage call stage) := by
  intro index found isFound
  obtain ⟨before, wasFound, ⟨rfl, rfl⟩ | ⟨_, rfl⟩⟩ := setStage_calls isFound
  · exact holds before wasFound
  · exact holding index found wasFound

/-- What is found in a changed list was there before, changed or not. -/
theorem modify_getElem?
    {connections : List PeerConnection}
    {pc index : Nat}
    {change : PeerConnection → PeerConnection}
    {connection : PeerConnection}
    (isFound : (connections.modify pc change)[index]? = some connection) :
    ∃ before, connections[index]? = some before ∧
      (pc = index ∧ connection = change before ∨ pc ≠ index ∧ connection = before) := by
  rw [List.getElem?_modify] at isFound
  obtain ⟨before, wasFound, rfl⟩ := Option.map_eq_some_iff.mp isFound
  refine ⟨before, wasFound, ?_⟩
  split
  · next same => exact .inl ⟨same, rfl⟩
  · next differs => exact .inr ⟨differs, rfl⟩

theorem getElem?_modify_of_some
    {connections : List PeerConnection}
    {index : Nat}
    {connection : PeerConnection}
    (isConnection : connections[index]? = some connection)
    (pc : Nat)
    (change : PeerConnection → PeerConnection) :
    (connections.modify pc change)[index]? =
      some (if pc = index then change connection else connection) := by
  rw [List.getElem?_modify, isConnection]
  split <;> rfl

/-- The end of a connection is nothing to the calls. -/
theorem Holding.modifyConnection
    (holding : Holding state)
    (pc : Nat)
    {change : PeerConnection → PeerConnection}
    (same : ∀ connection, SamePeer connection (change connection)) :
    Holding (state.modifyConnection pc change) := by
  intro call found isFound
  refine (holding call found isFound).of_same fun index connection isConnection _ => ?_
  refine ⟨_, getElem?_modify_of_some isConnection pc change, ?_⟩
  split
  · exact same connection
  · exact rfl

/-- Connections that were alone with their keys before are still alone. -/
theorem Keyed.alone_of_before
    (keyed : Keyed state)
    {connections : List PeerConnection}
    (before : ∀ (pc : Nat) connection, connections[pc]? = some connection →
      .closed ∉ connection.callbacks →
      ∃ old, state.connections[pc]? = some old ∧ getKeyForPeer connection = getKeyForPeer old ∧
        .closed ∉ old.callbacks)
    (pc other : Nat)
    (connection otherConnection : PeerConnection)
    (key : String)
    (isConnection : connections[pc]? = some connection)
    (isOther : connections[other]? = some otherConnection)
    (isKey : getKeyForPeer connection = .ok key)
    (otherKey : getKeyForPeer otherConnection = .ok key)
    (isOpen : .closed ∉ connection.callbacks)
    (otherOpen : .closed ∉ otherConnection.callbacks) :
    pc = other := by
  obtain ⟨old, wasConnection, same, wasOpen⟩ := before pc connection isConnection isOpen
  obtain ⟨otherOld, wasOther, otherSame, otherWasOpen⟩ :=
    before other otherConnection isOther otherOpen
  exact keyed.alone pc other old otherOld key wasConnection wasOther (same.symm.trans isKey)
    (otherSame.symm.trans otherKey) wasOpen otherWasOpen

/-- A connection is closed, and its callbacks are still to come. -/
theorem Keyed.close (keyed : Keyed state) (pc : Nat) :
    Keyed (state.modifyConnection pc fun connection => { connection with closing := true }) := by
  have found : ∀ (index : Nat) connection,
      (state.connections.modify pc fun connection =>
        { connection with closing := true })[index]? = some connection →
      ∃ before, state.connections[index]? = some before ∧
        getKeyForPeer connection = getKeyForPeer before ∧
        connection.callbacks = before.callbacks := by
    intro index connection isFound
    obtain ⟨before, wasFound, ⟨_, rfl⟩ | ⟨_, rfl⟩⟩ := modify_getElem? isFound
    · exact ⟨before, wasFound, rfl, rfl⟩
    · exact ⟨connection, wasFound, rfl, rfl⟩
  refine ⟨?_, ?_, ?_⟩
  · intro key index isEntry
    obtain ⟨connection, isConnection, isKey, silent⟩ := keyed.entries key index isEntry
    refine ⟨_, getElem?_modify_of_some isConnection _ _, ?_⟩
    split
    · exact ⟨isKey, silent⟩
    · exact ⟨isKey, silent⟩
  · apply keyed.alone_of_before
    intro index connection isConnection isOpen
    obtain ⟨before, wasConnection, sameKey, callbacks⟩ := found index connection isConnection
    exact ⟨before, wasConnection, sameKey, by rwa [← callbacks]⟩
  · intro index returned
    obtain ⟨inside, stays⟩ := keyed.stays index returned
    refine ⟨by simpa [Sessions.modifyConnection] using inside, ?_⟩
    rintro ⟨connection, isConnection, silent⟩
    obtain ⟨before, wasConnection, _, callbacks⟩ := found index connection isConnection
    exact stays ⟨before, wasConnection, callbacks.symm.trans silent⟩

/-- What is found in a list with one more element is old, or it is the new one. -/
theorem getElem?_concat_some
    {α : Type}
    {elements : List α}
    {last found : α}
    {index : Nat}
    (isFound : (elements ++ [last])[index]? = some found) :
    elements[index]? = some found ∨ index = elements.length ∧ found = last := by
  rw [List.getElem?_append] at isFound
  split at isFound
  · exact .inl isFound
  · next behind =>
      obtain ⟨isFirst, rfl⟩ := List.getElem?_eq_some_iff.mp isFound
      refine .inr ⟨by simp at isFirst; omega, by simp⟩

/-- A call begins. -/
theorem Keyed.new (keyed : Keyed state) (remoteOffer : Option SessionDescription) :
    Keyed (state.step (.new remoteOffer)) := by
  refine ⟨keyed.entries, keyed.alone, ?_⟩
  rintro pc ⟨found, member, isReturned⟩
  rcases List.mem_append.mp member with old | new
  · exact keyed.stays pc ⟨found, old, isReturned⟩
  · obtain rfl := List.mem_singleton.mp new
    dsimp only at isReturned
    split at isReturned
    · cases isReturned
    · cases isReturned

theorem Holding.new (holding : Holding state) (remoteOffer : Option SessionDescription) :
    Holding (state.step (.new remoteOffer)) := by
  intro call found isFound
  rcases getElem?_concat_some isFound with old | ⟨_, rfl⟩
  · exact holding call found old
  · cases key : getKeyForOffer remoteOffer with
    | ok key => trivial
    | error error => trivial

/-- A new connection has no key yet. -/
theorem Keyed.connect
    (keyed : Keyed state)
    {connection : PeerConnection}
    (undescribed : ∀ key, getKeyForPeer connection ≠ .ok key) :
    Keyed { state with connections := state.connections ++ [connection] } := by
  refine ⟨?_, ?_, ?_⟩
  · intro key pc isEntry
    obtain ⟨found, isFound, isKey, silent⟩ := keyed.entries key pc isEntry
    refine ⟨found, ?_, isKey, silent⟩
    rw [List.getElem?_append_left (List.getElem?_eq_some_iff.mp isFound).1]
    exact isFound
  · intro one other oneConnection otherConnection key isOne isOther oneKey otherKey
    rcases getElem?_concat_some isOne with oldOne | ⟨_, rfl⟩
    · rcases getElem?_concat_some isOther with oldOther | ⟨_, rfl⟩
      · exact keyed.alone one other _ _ key oldOne oldOther oneKey otherKey
      · exact absurd otherKey (undescribed key)
    · exact absurd oneKey (undescribed key)
  · intro pc returned
    obtain ⟨inside, stays⟩ := keyed.stays pc returned
    refine ⟨by simp; omega, ?_⟩
    rintro ⟨found, isFound, silent⟩
    rw [List.getElem?_append_left inside] at isFound
    exact stays ⟨found, isFound, silent⟩

theorem Holding.connect (holding : Holding state) (connection : PeerConnection) :
    Holding { state with connections := state.connections ++ [connection] } := by
  intro call found isFound
  refine (holding call found isFound).of_same fun pc before isBefore _ => ?_
  refine ⟨before, ?_, rfl⟩
  rw [List.getElem?_append_left (List.getElem?_eq_some_iff.mp isBefore).1]
  exact isBefore

/-- A connection gets a key that is free. -/
theorem Keyed.describe
    (keyed : Keyed state)
    {pc : Nat}
    {connection : PeerConnection}
    (isConnection : state.connections[pc]? = some connection)
    (undescribed : ∀ key, getKeyForPeer connection ≠ .ok key)
    {sdp : SessionDescription}
    (free : Free state sdp)
    {change : PeerConnection → PeerConnection}
    (described : getKeyForPeer (change connection) = getKeyForSdp sdp)
    (sameCallbacks : (change connection).callbacks = connection.callbacks) :
    Keyed (state.modifyConnection pc change) := by
  have apart : ∀ (one other : Nat) oneConnection otherConnection key, one = pc → other ≠ pc →
      (state.modifyConnection pc change).connections[one]? = some oneConnection →
      (state.modifyConnection pc change).connections[other]? = some otherConnection →
      getKeyForPeer oneConnection = .ok key → getKeyForPeer otherConnection = .ok key →
      .closed ∈ otherConnection.callbacks := by
    intro one other oneConnection otherConnection key isPc notPc isOne isOther oneKey otherKey
    obtain ⟨before, wasOne, ⟨_, rfl⟩ | ⟨differs, _⟩⟩ := modify_getElem? isOne
    · obtain ⟨otherBefore, wasOther, ⟨same, _⟩ | ⟨_, rfl⟩⟩ := modify_getElem? isOther
      · exact absurd same.symm notPc
      · rw [isPc] at wasOne
        obtain rfl := Option.some.inj (isConnection.symm.trans wasOne)
        exact free key (described.symm.trans oneKey) _ (List.mem_of_getElem? wasOther) otherKey
    · exact absurd isPc.symm differs
  refine ⟨?_, ?_, ?_⟩
  · intro key index isEntry
    obtain ⟨found, isFound, isKey, silent⟩ := keyed.entries key index isEntry
    refine ⟨found, ?_, isKey, silent⟩
    have other : pc ≠ index := by
      rintro rfl
      obtain rfl := Option.some.inj (isConnection.symm.trans isFound)
      exact undescribed key isKey
    exact (getElem?_modify_of_some isFound pc change).trans (by rw [if_neg other])
  · intro one other oneConnection otherConnection key isOne isOther oneKey otherKey oneOpen
      otherOpen
    by_cases oneNew : one = pc
    · by_cases otherNew : other = pc
      · rw [oneNew, otherNew]
      · exact absurd (apart one other _ _ key oneNew otherNew isOne isOther oneKey otherKey)
          otherOpen
    · by_cases otherNew : other = pc
      · exact absurd (apart other one _ _ key otherNew oneNew isOther isOne otherKey oneKey)
          oneOpen
      · obtain ⟨_, wasOne, ⟨same, _⟩ | ⟨_, rfl⟩⟩ := modify_getElem? isOne
        · exact absurd same.symm oneNew
        · obtain ⟨_, wasOther, ⟨same, _⟩ | ⟨_, rfl⟩⟩ := modify_getElem? isOther
          · exact absurd same.symm otherNew
          · exact keyed.alone one other _ _ key wasOne wasOther oneKey otherKey oneOpen otherOpen
  · intro index returned
    obtain ⟨inside, stays⟩ := keyed.stays index returned
    refine ⟨by simpa [Sessions.modifyConnection] using inside, ?_⟩
    rintro ⟨found, isFound, silent⟩
    obtain ⟨before, wasFound, ⟨rfl, rfl⟩ | ⟨_, rfl⟩⟩ := modify_getElem? isFound
    · obtain rfl := Option.some.inj (isConnection.symm.trans wasFound)
      exact stays ⟨connection, wasFound, sameCallbacks.symm.trans silent⟩
    · exact stays ⟨found, wasFound, silent⟩

/-- Only the call that has made a connection sets its description. -/
theorem Holding.describe
    (holding : Holding state)
    {call pc : Nat}
    {connection : PeerConnection}
    (isConnection : state.connections[pc]? = some connection)
    (own : connection.call = call)
    {sdp : SessionDescription}
    {change : PeerConnection → PeerConnection}
    (described : getKeyForPeer (change connection) = getKeyForSdp sdp)
    (sameCall : (change connection).call = connection.call) :
    Holding (state.describe call pc sdp change) := by
  intro index found isFound
  obtain ⟨before, wasFound, ⟨rfl, rfl⟩ | ⟨differs, rfl⟩⟩ :=
    @setStage_calls (state.modifyConnection pc change) _ _ _ _ isFound
  · refine ⟨change connection, ?_, sameCall.trans own, described⟩
    exact (getElem?_modify_of_some isConnection pc change).trans (by rw [if_pos rfl])
  · refine (holding index found wasFound).of_same fun other otherConnection isOther isOwn => ?_
    refine ⟨otherConnection, ?_, rfl⟩
    have notPc : pc ≠ other := by
      rintro rfl
      obtain rfl := Option.some.inj (isConnection.symm.trans isOther)
      exact differs (own.symm.trans isOwn)
    exact (getElem?_modify_of_some isOther pc change).trans (by rw [if_neg notPc])

/-- A connection is put under its key. -/
theorem Keyed.insert
    (keyed : Keyed state)
    {pc : Nat}
    {key : String}
    {connection : PeerConnection}
    (isConnection : state.connections[pc]? = some connection)
    (isKey : getKeyForPeer connection = .ok key)
    (silent : connection.callbacks = [])
    (absent : state.sessions key = none) :
    Keyed { state with sessions := Function.update state.sessions key (some pc) } := by
  refine ⟨?_, keyed.alone, ?_⟩
  · intro other index isEntry
    dsimp only at isEntry
    by_cases same : other = key
    · rw [same, Function.update_self] at isEntry
      obtain rfl := Option.some.inj isEntry
      exact ⟨connection, isConnection, by rw [same]; exact isKey, silent⟩
    · rw [Function.update_of_ne same] at isEntry
      exact keyed.entries other index isEntry
  · intro index returned
    obtain ⟨inside, stays⟩ := keyed.stays index returned
    refine ⟨inside, fun unclosed => ?_⟩
    obtain ⟨other, isEntry⟩ := stays unclosed
    have differs : other ≠ key := by
      rintro rfl
      rw [absent] at isEntry
      cases isEntry
    exact ⟨other, (Function.update_of_ne differs ..).trans isEntry⟩

/-- With one connection for each key, a callback takes the entries of its own connection out. -/
theorem Keyed.cleanUp_eq
    (keyed : Keyed state)
    {pc : Nat}
    {connection : PeerConnection}
    (isConnection : state.connections[pc]? = some connection)
    (unclosed : .closed ∉ connection.callbacks)
    (key : String) :
    Sessions.cleanUp pc connection state.sessions key =
      if state.sessions key = some pc then none else state.sessions key := by
  unfold Sessions.cleanUp
  cases own : getKeyForPeer connection with
  | error error => rfl
  | ok ownKey =>
      dsimp only
      by_cases same : key = ownKey
      · rw [same, Function.update_self]
        cases isEntry : state.sessions ownKey with
        | none => rfl
        | some other =>
            obtain ⟨otherConnection, isOther, otherKey, silent⟩ :=
              keyed.entries ownKey other isEntry
            obtain rfl : pc = other := keyed.alone pc other connection otherConnection ownKey
              isConnection isOther own otherKey unclosed (by simp [silent])
            rw [if_pos rfl]
      · rw [Function.update_of_ne same]
        split
        · next isEntry =>
            obtain ⟨found, isFound, isKey, _⟩ := keyed.entries key pc isEntry
            obtain rfl := Option.some.inj (isConnection.symm.trans isFound)
            exact absurd (Except.ok.inj (isKey.symm.trans own)) same
        · rfl

/-- A connection goes down, and its entries with it. -/
theorem Keyed.callback
    (keyed : Keyed state)
    {pc : Nat}
    {connection : PeerConnection}
    (isConnection : state.connections[pc]? = some connection)
    (unclosed : .closed ∉ connection.callbacks)
    (peerState : PeerState) :
    Keyed { state.modifyConnection pc fun connection =>
        { connection with callbacks := connection.callbacks ++ [peerState] } with
      sessions := Sessions.cleanUp pc connection state.sessions } := by
  have kept : ∀ key index, Sessions.cleanUp pc connection state.sessions key = some index →
      state.sessions key = some index ∧ index ≠ pc := by
    intro key index isEntry
    rw [keyed.cleanUp_eq isConnection unclosed] at isEntry
    split at isEntry
    · cases isEntry
    · next notOwn =>
        refine ⟨isEntry, ?_⟩
        rintro rfl
        exact notOwn isEntry
  refine ⟨?_, ?_, ?_⟩
  · intro key index isEntry
    obtain ⟨wasEntry, other⟩ := kept key index isEntry
    obtain ⟨found, isFound, isKey, silent⟩ := keyed.entries key index wasEntry
    refine ⟨found, ?_, isKey, silent⟩
    exact (getElem?_modify_of_some isFound pc _).trans (by rw [if_neg other.symm])
  · apply keyed.alone_of_before
    intro index found isFound isOpen
    obtain ⟨old, wasFound, ⟨_, rfl⟩ | ⟨_, rfl⟩⟩ := modify_getElem? isFound
    · exact ⟨old, wasFound, rfl, fun closed => isOpen (List.mem_append_left _ closed)⟩
    · exact ⟨found, wasFound, rfl, isOpen⟩
  · intro index returned
    obtain ⟨inside, stays⟩ := keyed.stays index returned
    refine ⟨by simpa [Sessions.modifyConnection] using inside, ?_⟩
    rintro ⟨found, isFound, silent⟩
    obtain ⟨old, wasFound, ⟨_, rfl⟩ | ⟨differs, rfl⟩⟩ := modify_getElem? isFound
    · simp at silent
    · obtain ⟨key, isEntry⟩ := stays ⟨found, wasFound, silent⟩
      refine ⟨key, ?_⟩
      show Sessions.cleanUp pc connection state.sessions key = some index
      rw [keyed.cleanUp_eq isConnection unclosed, isEntry, if_neg]
      rintro same
      exact differs (Option.some.inj same).symm

/-- Only callbacks take entries out. -/
theorem step_sessions
    {event : Event}
    (other : ∀ pc peerState, event ≠ .callback pc peerState)
    {key : String}
    {pc : Nat}
    (isEntry : state.sessions key = some pc) :
    (state.step event).sessions key = some pc := by
  cases event with
  | new remoteOffer => exact isEntry
  | lookup call =>
      simp only [Sessions.step]
      split
      · split
        · exact isEntry
        · split
          · exact isEntry
          · exact isEntry
      · exact isEntry
  | connect call result =>
      simp only [Sessions.step]
      split
      · exact isEntry
      · exact isEntry
      · exact isEntry
  | offer call result =>
      simp only [Sessions.step]
      split
      · exact isEntry
      · exact isEntry
      · exact isEntry
  | accept call result =>
      simp only [Sessions.step]
      split
      · exact isEntry
      · exact isEntry
      · exact isEntry
  | gathered call result =>
      simp only [Sessions.step]
      split
      · exact isEntry
      · split
        · exact isEntry
        · exact isEntry
      · exact isEntry
  | insert call =>
      simp only [Sessions.step]
      split
      · next inserted _ =>
          split
          · exact isEntry
          · next absent =>
              have differs : key ≠ inserted := by
                rintro rfl
                rw [absent] at isEntry
                cases isEntry
              exact (Function.update_of_ne differs ..).trans isEntry
      · exact isEntry
  | close pc => exact isEntry
  | callback pc peerState => exact absurd rfl (other pc peerState)

theorem Keyed.removesOwn (keyed : Keyed state) (event : Event) : RemovesOwn state event := by
  intro key pc isEntry removed
  by_cases called : ∃ closing peerState, event = .callback closing peerState
  · obtain ⟨closing, peerState, rfl⟩ := called
    refine ⟨peerState, ?_⟩
    simp only [Sessions.step] at removed
    split at removed
    · exact absurd isEntry removed
    · next connection isConnection =>
        split at removed
        · next due =>
            dsimp only at removed
            rw [keyed.cleanUp_eq isConnection due.1, isEntry] at removed
            split at removed
            · next same => rw [Option.some.inj same]
            · exact absurd rfl removed
        · exact absurd isEntry removed
  · refine absurd (step_sessions (fun closing peerState isCallback => ?_) isEntry) removed
    exact called ⟨closing, peerState, isCallback⟩

/-- What holds in every state of a run. -/
structure Ordered (state : Sessions) : Prop where
  keyed : Keyed state
  holding : Holding state

theorem Ordered.describe
    (ordered : Ordered state)
    {call pc : Nat}
    {remoteOffer : Option SessionDescription}
    (isCall : state.calls[call]? = some ⟨remoteOffer, .negotiate pc⟩)
    {sdp : SessionDescription}
    (free : Free state sdp)
    {change : PeerConnection → PeerConnection}
    (described : ∀ connection, connection.startLocalOffer = remoteOffer.isNone →
      getKeyForPeer (change connection) = getKeyForSdp sdp)
    (same : ∀ connection, (change connection).call = connection.call ∧
      (change connection).callbacks = connection.callbacks) :
    Ordered (state.describe call pc sdp change) := by
  obtain ⟨connection, isConnection, own, offers, undescribed⟩ := ordered.holding call _ isCall
  have noKey : ∀ key, getKeyForPeer connection ≠ .ok key := by
    intro key isKey
    rw [undescribed] at isKey
    cases isKey
  constructor
  · refine Keyed.setStage (ordered.keyed.describe isConnection noKey free
      (described connection offers) (same connection).2) ?_
    intro _ isReturned
    cases isReturned
  · exact ordered.holding.describe isConnection own (described connection offers)
      (same connection).1

/-- A call goes on without its connection, and returns nothing that is not in the table. -/
theorem Ordered.setStage
    (ordered : Ordered state)
    {call : Nat}
    {stage : CallStage}
    (holds : ∀ found, state.calls[call]? = some found →
      Holds state.connections call { found with stage := stage })
    (stays : ∀ pc, stage = .returned (.ok pc) → ∃ key, state.sessions key = some pc) :
    Ordered (state.setStage call stage) :=
  ⟨ordered.keyed.setStage stays, ordered.holding.setStage holds⟩

theorem Ordered.fail (ordered : Ordered state) (call : Nat) (error : String) :
    Ordered (state.setStage call (.returned (.error error))) :=
  ordered.setStage (fun _ _ => trivial) (fun _ isReturned => by cases isReturned)

/-- A call that finds a stream of its key in the table returns one that is there. -/
theorem Ordered.lookup
    (ordered : Ordered state)
    (call : Nat) :
    Ordered (state.step (.lookup call)) := by
  simp only [Sessions.step]
  split
  · next remoteOffer _ =>
      split
      · exact ordered.fail ..
      · next key _ =>
          split
          · next cached isEntry =>
              by_cases isEmpty : key = ""
              · rw [if_pos isEmpty]
                exact ordered.setStage (fun _ _ => trivial) (fun _ isReturned => by
                  cases isReturned)
              · rw [if_neg isEmpty]
                refine ordered.setStage (fun _ _ => trivial) (fun pc isReturned => ?_)
                obtain rfl := Except.ok.inj (CallStage.returned.inj isReturned)
                exact ⟨key, isEntry⟩
          · exact ordered.setStage (fun _ _ => trivial) (fun _ isReturned => by
              cases isReturned)
  · exact ordered

/-- A new connection has no description, and so no key. -/
theorem Ordered.connect
    (ordered : Ordered state)
    (call : Nat)
    (result : Except String Unit) :
    Ordered (state.step (.connect call result)) := by
  simp only [Sessions.step]
  split
  · exact ordered.fail ..
  · next remoteOffer isCall =>
      let connection : PeerConnection := ⟨call, remoteOffer.isNone, none, none, false, []⟩
      have undescribed : getKeyForPeer connection =
          .error "PeerConnection description is not set" := by
        simp [getKeyForPeer, connection]
      refine Ordered.setStage
        ⟨ordered.keyed.connect fun key => ?_, ordered.holding.connect connection⟩ ?_ ?_
      · rw [undescribed]
        simp
      · intro found isFound
        obtain rfl := Option.some.inj (isCall.symm.trans isFound)
        exact ⟨connection, List.getElem?_concat_length, rfl, rfl, undescribed⟩
      · intro _ isReturned
        cases isReturned
  · exact ordered

/-- A call takes the key of its connection once that is described. -/
theorem Ordered.gathered
    (ordered : Ordered state)
    (call : Nat)
    (result : Except String Unit) :
    Ordered (state.step (.gathered call result)) := by
  simp only [Sessions.step]
  split
  · exact ordered.fail ..
  · next remoteOffer pc sdp isCall =>
      split
      · exact ordered.fail ..
      · next key isKey =>
          refine ordered.setStage ?_ ?_
          · intro found isFound
            obtain rfl := Option.some.inj (isCall.symm.trans isFound)
            obtain ⟨connection, isConnection, own, described⟩ := ordered.holding call _ isCall
            exact ⟨connection, isConnection, own, described.trans isKey⟩
          · intro _ isReturned
            cases isReturned
  · exact ordered

/-- A call closes its connection if its key is taken, or else puts it into the table. -/
theorem Ordered.insert
    (ordered : Ordered state)
    {call : Nat}
    (alone : Alone state (.insert call)) :
    Ordered (state.step (.insert call)) := by
  simp only [Sessions.step]
  split
  · next pc key isCall =>
      obtain ⟨connection, isConnection, _, isKey⟩ := ordered.holding call _ isCall
      split
      · next session isEntry =>
          refine Ordered.setStage ⟨ordered.keyed.close pc,
            ordered.holding.modifyConnection pc fun _ => rfl⟩ (fun _ _ => trivial) ?_
          intro returned isReturned
          obtain rfl := Except.ok.inj (CallStage.returned.inj isReturned)
          exact ⟨key, isEntry⟩
      · next absent =>
          obtain ⟨found, isFound, silent⟩ := alone _ isCall pc key rfl
          obtain rfl := Option.some.inj (isConnection.symm.trans isFound)
          refine Ordered.setStage ⟨ordered.keyed.insert isConnection isKey silent absent,
            ordered.holding⟩ (fun _ _ => trivial) ?_
          intro returned isReturned
          obtain rfl := Except.ok.inj (CallStage.returned.inj isReturned)
          exact ⟨key, Function.update_self ..⟩
  · exact ordered

/-- One step keeps the connections apart. -/
theorem Ordered.step
    (ordered : Ordered state)
    {event : Event}
    (alone : Alone state event) :
    Ordered (state.step event) := by
  cases event with
  | new remoteOffer => exact ⟨ordered.keyed.new remoteOffer, ordered.holding.new remoteOffer⟩
  | lookup call => exact ordered.lookup call
  | connect call result => exact ordered.connect call result
  | offer call result =>
      simp only [Sessions.step]
      split
      · exact ordered.fail ..
      · next pc sdp isCall =>
          refine ordered.describe isCall (alone _ isCall rfl) ?_ (fun _ => ⟨rfl, rfl⟩)
          intro connection offers
          simp [getKeyForPeer, offers]
      · exact ordered
  | accept call result =>
      simp only [Sessions.step]
      split
      · exact ordered.fail ..
      · next sdp pc isCall =>
          refine ordered.describe isCall (alone _ isCall sdp rfl) ?_ (fun _ => ⟨rfl, rfl⟩)
          intro connection offers
          simp [getKeyForPeer, offers]
      · exact ordered
  | gathered call result => exact ordered.gathered call result
  | insert call => exact ordered.insert alone
  | close pc =>
      exact ⟨ordered.keyed.close pc, ordered.holding.modifyConnection pc fun _ => rfl⟩
  | callback pc peerState =>
      simp only [Sessions.step]
      split
      · exact ordered
      · next connection isConnection =>
          split
          · next due =>
              refine ⟨ordered.keyed.callback isConnection due.1 peerState, ?_⟩
              exact ordered.holding.modifyConnection pc fun _ => rfl
          · exact ordered

/-- In a run in which connections with one key are not up together, and none goes down before it is
inserted, the table has the streams that are up, and every entry is taken out by its own
connection. -/
theorem sessions_sound
    (events : List Event)
    (alone : Along Sessions.step Alone {} events) :
    (∀ before, before <+: events → Sound (run Sessions.step {} before)) ∧
      Along Sessions.step RemovesOwn {} events := by
  have ordered : ∀ before, before <+: events → Ordered (run Sessions.step {} before) := by
    intro before isPrefix
    refine run_invariant Ordered (fun _ _ ordered alone => ordered.step alone) ?_
      (alone.restrict isPrefix)
    refine ⟨⟨by simp, by simp, ?_⟩, ?_⟩
    · rintro pc ⟨call, member, _⟩
      cases member
    · intro call found isFound
      cases isFound
  refine ⟨fun before isPrefix => (ordered before isPrefix).keyed.sound, ?_⟩
  rw [along_iff_forall_split]
  rintro before event after rfl
  exact (ordered before ⟨event :: after, rfl⟩).keyed.removesOwn event

/-- An offer with a fingerprint. -/
def offerOf (fingerprint : String) : SessionDescription :=
  ⟨[⟨"fingerprint", some fingerprint⟩], []⟩

/-- A connection for one offer is closed, and then there is another one for it. -/
def oneAfterTheOther : List Event :=
  [.new (some (offerOf "a")), .lookup 0, .connect 0 (.ok ()), .accept 0 (.ok ()),
    .gathered 0 (.ok ()), .insert 0, .close 0, .callback 0 .closed,
    .new (some (offerOf "a")), .lookup 1, .connect 1 (.ok ()), .accept 1 (.ok ()),
    .gathered 1 (.ok ()), .insert 1]

theorem sessions_sound_oneAfterTheOther :
    (∀ before, before <+: oneAfterTheOther → Sound (run Sessions.step {} before)) ∧
      Along Sessions.step RemovesOwn {} oneAfterTheOther := by
  refine sessions_sound oneAfterTheOther ?_
  refine ⟨trivial, trivial, trivial, ?_, trivial, ?_, trivial, trivial, trivial, trivial, trivial,
    ?_, trivial, ?_, trivial⟩
  · intro found isFound sdp isSdp key _ connection member
    obtain rfl := List.mem_singleton.mp member
    intro isKey
    cases isKey
  · intro found isFound pc key stage
    obtain rfl := Option.some.inj isFound
    obtain ⟨rfl, rfl⟩ := CallStage.insert.inj stage
    exact ⟨_, rfl, rfl⟩
  · intro found isFound sdp isSdp key _ connection member isKey
    rcases List.mem_cons.mp member with rfl | later
    · exact List.mem_singleton_self _
    · obtain rfl := List.mem_singleton.mp later
      cases isKey
  · intro found isFound pc key stage
    obtain rfl := Option.some.inj isFound
    obtain ⟨rfl, rfl⟩ := CallStage.insert.inj stage
    exact ⟨_, rfl, rfl⟩

/-- Two calls negotiate for one offer, and the second closes its connection again. -/
def bothAtOnce : List Event :=
  [.new (some (offerOf "a")), .new (some (offerOf "a")), .lookup 0, .lookup 1,
    .connect 0 (.ok ()), .connect 1 (.ok ()), .accept 0 (.ok ()), .accept 1 (.ok ()),
    .gathered 0 (.ok ()), .gathered 1 (.ok ()), .insert 0, .insert 1]

/-- A connection is closed during its negotiation and inserted afterwards. -/
def closedBefore : List Event :=
  [.new (some (offerOf "a")), .lookup 0, .connect 0 (.ok ()), .accept 0 (.ok ()), .close 0,
    .callback 0 .closed, .gathered 0 (.ok ()), .insert 0]

/-- The callback of the connection that was closed takes the other one out of the table, which is
up and was returned to both callers.  A connection that is closed before it is inserted stays. -/
theorem loser_removes_winner :
    (run Sessions.step {} bothAtOnce).sessions "a" = some 0 ∧
      ¬Sound (run Sessions.step {} (bothAtOnce ++ [.callback 1 .closed])) ∧
      ¬RemovesOwn (run Sessions.step {} bothAtOnce) (.callback 1 .closed) ∧
      ¬Sound (run Sessions.step {} closedBefore) := by
  have present : (run Sessions.step {} bothAtOnce).sessions "a" = some 0 := by decide
  refine ⟨present, fun sound => ?_, fun own => ?_, fun sound => ?_⟩
  · obtain ⟨key, isEntry⟩ := sound.stays 0 ⟨⟨some (offerOf "a"), .returned (.ok 0)⟩, by decide, rfl⟩
      ⟨⟨0, false, none, some (offerOf "a"), false, []⟩, by decide, rfl⟩
    have gone : (run Sessions.step {} (bothAtOnce ++ [.callback 1 .closed])).sessions =
        Function.update (Function.update (fun _ => none) "a" (some 0)) "a" none := rfl
    rw [gone, Function.update_idem] at isEntry
    by_cases same : key = "a"
    · simp [same] at isEntry
    · simp [Function.update_of_ne same] at isEntry
  · obtain ⟨peerState, isOwn⟩ := own "a" 0 present (by decide)
    cases isOwn
  · obtain ⟨connection, isConnection, unclosed⟩ := sound.unclosed "a" 0 (by decide)
    obtain rfl := Option.some.inj isConnection
    exact unclosed (List.mem_singleton_self _)

end WebRtc
end Stream
end OneDesk
