import OneDesk.Lib.Utf8
import OneDesk.Server.Handshake
import OneDesk.Server.Spoken
import OneDesk.Server.Start

/-!
# The handshake between a client and a host

`Client::secure_connection` reads the signed id of the host, seals a fresh session
key for it and keys its stream, or falls back to a stream without a key in one of
several ways.  It is run here against `create_tcp_connection` over a channel that
delivers frames in order.
-/

namespace OneDesk
namespace Client

open OneDesk.Stream
open OneDesk.Server hiding SessionKey

/-- The union of a message, as far as the two handshakes look into it. -/
inductive KeyMessage
  | empty
  | signedId (id : Bytes)
  | publicKey (asymmetricValue symmetricValue : Bytes)
  | other
  deriving DecidableEq

/-- What the two handshakes call outside the repository. -/
structure KeyExchange where
  /-- `sign::sign` on a message and a secret key. -/
  sign : Bytes → Bytes → Bytes
  /-- `sign::verify` on a signed message and a public key. -/
  verify : Bytes → Bytes → Option Bytes
  /-- The pairs `box_::gen_keypair` returns, the public key first. -/
  IsBoxPair : Bytes → Bytes → Prop
  /-- `box_::seal` on a message, a nonce, their public key and our secret key. -/
  sealBox : Bytes → Bytes → Bytes → Bytes → Bytes
  /-- `box_::open`. -/
  boxOpen : BoxOpen
  /-- `IdPk { id, pk }.write_to_bytes`. -/
  writeIdPk : String → Bytes → Bytes
  /-- `IdPk::parse_from_bytes`. -/
  parseIdPk : Bytes → Option (String × Bytes)
  /-- `Message::write_to_bytes`. -/
  write : KeyMessage → Bytes
  /-- `Message::write_to_bytes` on a message of a connection. -/
  writeReply : Reply → Bytes
  /-- `Message::parse_from_bytes`. -/
  parse : Bytes → Option KeyMessage
  /-- `decode64`. -/
  decode64 : String → Option Bytes

namespace KeyExchange

variable (crypto : KeyExchange)

/-- Documented behaviour of signatures, boxes and protocol buffers. -/
structure Lawful : Prop where
  /-- Only what was signed is verified. -/
  verify_only : ∀ signed pk message, crypto.verify signed pk = some message →
    ∃ sk, signed = crypto.sign message sk
  /-- A signed message contains the message. -/
  sign_injective : ∀ message sk other otherSk,
    crypto.sign message sk = crypto.sign other otherSk → message = other
  /-- A box opens with the keys that match the ones it was sealed with. -/
  open_seal : ∀ message nonce ourPk ourSk theirPk theirSk,
    crypto.IsBoxPair ourPk ourSk → crypto.IsBoxPair theirPk theirSk →
      crypto.boxOpen (crypto.sealBox message nonce theirPk ourSk) nonce ourPk theirSk =
        some message
  length_pk : ∀ pk sk, crypto.IsBoxPair pk sk → pk.length = boxPublicKeyBytes
  parseIdPk_write : ∀ id pk, crypto.parseIdPk (crypto.writeIdPk id pk) = some (id, pk)
  parse_write : ∀ message, crypto.parse (crypto.write message) = some message
  parse_writeReply : ∀ reply, reply.introduces = true →
    crypto.parse (crypto.writeReply reply) = some .other

/-- What a host sees of the union of a message. -/
def asSeenByHost : KeyMessage → Option HandshakeUnion
  | .empty => none
  | .publicKey asymmetricValue symmetricValue =>
      some (.publicKey asymmetricValue symmetricValue)
  | .signedId _ => some .other
  | .other => some .other

/-- The part of the calls that a host makes. -/
def ofHost : HandshakeCrypto where
  sign := crypto.sign
  boxOpen := crypto.boxOpen
  writeIdPk := crypto.writeIdPk
  parseMessage := fun bytes => (crypto.parse bytes).map asSeenByHost

end KeyExchange

/-- `config::RS_PUB_KEY`. -/
def rsPubKey : String := "mzcXkqIjQIqRoukKv3JOIBvLGqPLKdIpH4DkFILnxOo="

/-- `get_pk`. -/
def getPk (pk : Bytes) : Option Bytes :=
  if pk.length = 32 then some pk else none

/-- What a client brings to a handshake. -/
structure Caller where
  peerId : String
  /-- The id and key of the peer, signed by the rendezvous server. -/
  signedIdPk : Bytes
  /-- The key of the rendezvous server. -/
  key : String
  /-- `box_::gen_keypair`, the public key first. -/
  boxKeyPair : Bytes × Bytes
  /-- `secretbox::gen_key`. -/
  sessionKey : SessionKey

/-- What the network makes of a handshake. -/
structure ClientWire where
  /-- `conn.next()`; `none` when `READ_TIMEOUT` is over first. -/
  received : Option (Option (Except IoError Bytes))
  /-- `conn.send(&msg_out)`. -/
  sent : Except IoError Unit
  /-- Whether the message is sent within `CONNECT_TIMEOUT`. -/
  sentInTime : Bool

/-- What a handshake does: the messages it sends and how it ends, with the public
key of the peer and the stream to go on with. -/
structure Secured where
  sent : List KeyMessage
  outcome : Except HandshakeError (Option Bytes × AnyStream SessionKey)

variable (crypto : KeyExchange) (caller : Caller)

/-- `get_rs_pk`. -/
def getRsPk (strBase64 : String) : Option Bytes :=
  match crypto.decode64 strBase64 with
  | some pk => getPk pk
  | none => none

/-- `decode_id_pk`. -/
def decodeIdPk (signed key : Bytes) : Option (String × Bytes) :=
  match crypto.verify signed key with
  | none => none
  | some message =>
      match crypto.parseIdPk message with
      | none => none
      | some (id, pk) => (getPk pk).map fun pk => (id, pk)

/-- `create_symmetric_key_msg`: the message with the session key in a box. -/
def createSymmetricKeyMsg (theirPk : Bytes) : KeyMessage :=
  .publicKey caller.boxKeyPair.1
    (crypto.sealBox caller.sessionKey.bytes zeroNonce theirPk caller.boxKeyPair.2)

/-- The key of the peer, if the rendezvous server vouches for it. -/
def signPk : Option Bytes :=
  if caller.signedIdPk = [] then none
  else
    match getRsPk crypto (if caller.key = "" then rsPubKey else caller.key) with
    | none => none
    | some rsPk =>
        match decodeIdPk crypto caller.signedIdPk rsPk with
        | none => none
        | some (id, pk) => if id = caller.peerId then some pk else none

/-- The answer to the first frame of the peer, and the key it goes with. -/
def answer (signPk bytes : Bytes) : KeyMessage × Option SessionKey :=
  match crypto.parse bytes with
  | some (.signedId signed) =>
      match decodeIdPk crypto signed signPk with
      | some (id, theirPk) =>
          if id = caller.peerId then
            (createSymmetricKeyMsg crypto caller theirPk, some caller.sessionKey)
          else
            -- "Handshake failed: sign failure"
            (.empty, none)
      -- Fall back to non-secure connection in case pk mismatch.
      | none => (.publicKey [] [], none)
  | some _ => (.empty, none)
  | none => (.empty, none)

/-- A message that goes out without a key. -/
def sendPlain
    (wire : ClientWire)
    (optionPk : Option Bytes)
    (stream : AnyStream SessionKey)
    (message : KeyMessage) :
    Secured :=
  match wire.sent with
  | .ok () => ⟨[message], .ok (optionPk, stream)⟩
  | .error error => ⟨[message], .error (.io error)⟩

/-- `Client::secure_connection`. -/
def secureConnection
    (stream : AnyStream SessionKey)
    (wire : ClientWire) :
    Secured :=
  match signPk crypto caller with
  -- Send an empty message out in case the server is setting up secure and waiting
  -- for the first message.
  | none => sendPlain wire none stream .empty
  | some pk =>
      match wire.received with
      | none => ⟨[], .error .elapsed⟩
      | some none => ⟨[], .error (.bail "Reset by the peer")⟩
      | some (some (.error error)) => ⟨[], .error (.io error)⟩
      | some (some (.ok bytes)) =>
          match answer crypto caller pk bytes with
          | (message, none) => sendPlain wire (some pk) stream message
          | (message, some key) =>
              if wire.sentInTime then
                match wire.sent with
                | .ok () => ⟨[message], .ok (some pk, stream.setKey key)⟩
                | .error error => ⟨[message], .error (.io error)⟩
              else ⟨[message], .error .elapsed⟩

/-! ## Both ends -/

/-- The frames a host sends: its signed id, then what its connection says first. -/
def hostFrames (handshake : Handshake) (opened : World) : List Bytes :=
  (handshake.signedId.map fun id => crypto.write (.signedId id)).toList ++
    opened.said.map crypto.writeReply

/-- The frames a client sends. -/
def clientFrames (secured : Secured) : List Bytes :=
  secured.sent.map crypto.write

/-- Nothing is lost, changed or overtaken: a frame that is read is the first that
the other end sent. -/
structure Reliable
    (hostWire : HandshakeWire)
    (clientWire : ClientWire)
    (fromHost fromClient : List Bytes) : Prop where
  toHost : ∀ bytes, hostWire.received = some (some (.ok bytes)) →
    fromClient.head? = some bytes
  toClient : ∀ bytes, clientWire.received = some (some (.ok bytes)) →
    fromHost.head? = some bytes

/-- A stream that is given a key, or none. -/
def give (stream : AnyStream SessionKey) : Option SessionKey → AnyStream SessionKey
  | none => stream
  | some key => stream.setKey key

/-! ## The client -/

variable {crypto caller}

/-- A client without a key has sent one of the two messages that ask for none. -/
def AsksForNone (message : KeyMessage) : Prop :=
  message = .empty ∨ message = .publicKey [] []

/-- A client with a key has found its peer in a signed id. -/
def Found (crypto : KeyExchange) (caller : Caller)
    (bytes : Bytes) (message : KeyMessage) : Prop :=
  ∃ signed pk theirPk,
    crypto.parse bytes = some (.signedId signed) ∧
    decodeIdPk crypto signed pk = some (caller.peerId, theirPk) ∧
    message = createSymmetricKeyMsg crypto caller theirPk

theorem answer_none
    {pk bytes : Bytes}
    {message : KeyMessage}
    (answered : answer crypto caller pk bytes = (message, none)) :
    AsksForNone message := by
  unfold answer at answered
  split at answered
  · split at answered
    · split at answered
      · cases answered
      · cases answered
        exact .inl rfl
    · cases answered
      exact .inr rfl
  · cases answered
    exact .inl rfl
  · cases answered
    exact .inl rfl

theorem answer_some
    {pk bytes : Bytes}
    {message : KeyMessage}
    {key : SessionKey}
    (answered : answer crypto caller pk bytes = (message, some key)) :
    key = caller.sessionKey ∧ Found crypto caller bytes message := by
  unfold answer at answered
  split at answered
  · next signed parsed =>
      split at answered
      · next id theirPk decoded =>
          split at answered
          · next isPeer =>
              cases answered
              subst isPeer
              exact ⟨rfl, signed, pk, theirPk, parsed, decoded, rfl⟩
          · cases answered
      · cases answered
  · cases answered
  · cases answered

/-- A client that gets through has sent one message; its stream has a key only when
the message says which. -/
theorem secureConnection_ok
    {stream keyed : AnyStream SessionKey}
    {wire : ClientWire}
    {optionPk : Option Bytes}
    (through : (secureConnection crypto caller stream wire).outcome =
      .ok (optionPk, keyed)) :
    ∃ message,
      (secureConnection crypto caller stream wire).sent = [message] ∧
      ((keyed = stream ∧ AsksForNone message) ∨
        (keyed = stream.setKey caller.sessionKey ∧
          ∃ bytes, wire.received = some (some (.ok bytes)) ∧
            Found crypto caller bytes message)) := by
  have plain : ∀ pk message,
      (sendPlain wire pk stream message).outcome = .ok (optionPk, keyed) →
        (sendPlain wire pk stream message).sent = [message] ∧ keyed = stream := by
    intro pk message sent
    unfold sendPlain at sent ⊢
    split at sent
    · cases sent
      exact ⟨rfl, rfl⟩
    · cases sent
  unfold secureConnection at through ⊢
  split at through
  · obtain ⟨sent, same⟩ := plain _ _ through
    exact ⟨_, sent, .inl ⟨same, .inl rfl⟩⟩
  · next pk _ =>
      split at through
      · cases through
      · cases through
      · cases through
      · next bytes received =>
          split at through
          · next message answered =>
              obtain ⟨sent, same⟩ := plain _ _ through
              exact ⟨_, sent, .inl ⟨same, answer_none answered⟩⟩
          · next message key answered =>
              obtain ⟨isKey, found⟩ := answer_some answered
              split at through
              · next inTime =>
                  split at through
                  · cases through
                    refine ⟨message, by rw [if_pos inTime], .inr ⟨?_, bytes, received, found⟩⟩
                    rw [isKey]
                  · cases through
              · cases through

/-- Whoever finds its peer in the signed id of a host has the key of its box. -/
theorem Found.ofHost
    (lawful : crypto.Lawful)
    {bytes pk sk : Bytes}
    {id : String}
    {message : KeyMessage}
    (found : Found crypto caller bytes message)
    (signedByHost : crypto.parse bytes =
      some (.signedId (crypto.sign (crypto.writeIdPk id pk) sk))) :
    message = createSymmetricKeyMsg crypto caller pk := by
  obtain ⟨signed, verifyPk, theirPk, parsed, decoded, isMessage⟩ := found
  rw [signedByHost] at parsed
  cases parsed
  unfold decodeIdPk at decoded
  split at decoded
  · cases decoded
  · next verified isVerified =>
      obtain ⟨otherSk, same⟩ := lawful.verify_only _ _ _ isVerified
      have isIdPk : crypto.writeIdPk id pk = verified :=
        lawful.sign_injective _ _ _ _ same
      rw [← isIdPk, lawful.parseIdPk_write] at decoded
      simp only [getPk] at decoded
      split at decoded
      · cases decoded
        exact isMessage
      · cases decoded

/-! ## The host -/

variable {host : HandshakeHost}

theorem onFirstFrame_asksForNone
    (lawful : crypto.Lawful)
    {stream keyed : AnyStream SessionKey}
    {message : KeyMessage}
    (asks : AsksForNone message)
    (kept : (onFirstFrame crypto.ofHost host stream
      (some (some (.ok (crypto.write message))))).2 = .ok keyed) :
    keyed = stream := by
  rcases asks with rfl | rfl
  · simp only [onFirstFrame, KeyExchange.ofHost, lawful.parse_write, Option.map_some,
      KeyExchange.asSeenByHost, Except.ok.injEq] at kept
    exact kept.symm
  · simp only [onFirstFrame, KeyExchange.ofHost, lawful.parse_write, Option.map_some,
      KeyExchange.asSeenByHost, onPublicKey, List.length_nil] at kept
    cases kept
    rfl

/-- The session key in a box for the host is the key its stream gets. -/
theorem onFirstFrame_symmetricKey
    (lawful : crypto.Lawful)
    (hostPair : crypto.IsBoxPair host.boxKeyPair.1 host.boxKeyPair.2)
    (clientPair : crypto.IsBoxPair caller.boxKeyPair.1 caller.boxKeyPair.2)
    {stream : AnyStream SessionKey} :
    (onFirstFrame crypto.ofHost host stream
      (some (some (.ok (crypto.write
        (createSymmetricKeyMsg crypto caller host.boxKeyPair.1)))))).2 =
      .ok (stream.setKey caller.sessionKey) := by
  have length : caller.boxKeyPair.1.length = boxPublicKeyBytes :=
    lawful.length_pk _ _ clientPair
  have opened := lawful.open_seal caller.sessionKey.bytes zeroNonce _ _ _ _
    clientPair hostPair
  have decoded : Encrypt.decode crypto.boxOpen
      (crypto.sealBox caller.sessionKey.bytes zeroNonce host.boxKeyPair.1
        caller.boxKeyPair.2)
      caller.boxKeyPair.1 host.boxKeyPair.2 = .ok caller.sessionKey := by
    simp only [Encrypt.decode, length, ne_eq, not_true_eq_false, if_false, opened,
      caller.sessionKey.length_eq, dite_true]
  simp only [onFirstFrame, KeyExchange.ofHost, lawful.parse_write, Option.map_some,
    KeyExchange.asSeenByHost, createSymmetricKeyMsg, onPublicKey, length, if_true,
    decoded]

/-- A host that gets through has either said nothing about its key, or it goes on
with what the first frame makes of its stream. -/
theorem createTcpConnection_ok
    {stream : AnyStream SessionKey}
    {secure : Bool}
    {wire : HandshakeWire}
    {started : Started}
    (through : (createTcpConnection crypto.ofHost host stream secure wire).outcome =
      .ok started) :
    ((createTcpConnection crypto.ofHost host stream secure wire).signedId = none ∧
        started.stream = stream) ∨
      ((createTcpConnection crypto.ofHost host stream secure wire).signedId =
          some (crypto.sign (crypto.writeIdPk host.id host.boxKeyPair.1) host.sk) ∧
        ∃ bytes, wire.received = some (some (.ok bytes)) ∧
          (onFirstFrame crypto.ofHost host stream (some (some (.ok bytes)))).2 =
            .ok started.stream) := by
  by_cases secured : (secure && host.pk.length == signPublicKeyBytes &&
      host.sk.length == signSecretKeyBytes) = true
  · right
    simp only [createTcpConnection, secured, if_true] at through ⊢
    rcases sent : wire.sent with _ | error | ⟨⟨⟩⟩
    · rw [sent] at through
      cases through
    · rw [sent] at through
      cases through
    · simp only [sent] at through
      split at through
      · next unconfirmed keyed first =>
          cases through
          refine ⟨rfl, ?_⟩
          rcases received : wire.received with _ | _ | error | bytes
          · rw [received] at first
            cases first
          · rw [received] at first
            cases first
          · rw [received] at first
            cases first
          · rw [received] at first
            exact ⟨bytes, rfl, by rw [first]⟩
      · cases through
  · simp only [createTcpConnection, secured] at through ⊢
    cases through
    exact .inl ⟨rfl, rfl⟩

/-- What a connection says first introduces it. -/
theorem start_introduces
    (env : Env)
    (desk : Host)
    (id : Int)
    (ip : IpAddr)
    (hash : Hash)
    (require2fa : Option String) :
    ∃ reply, (World.start env desk id ip hash require2fa).said.head? = some reply ∧
      reply.introduces = true := by
  unfold World.start
  dsimp only
  split
  · exact ⟨_, rfl, rfl⟩
  · refine ⟨.hash, ?_, rfl⟩
    apply List.foldlRecOn (motive := fun world : World => world.said.head? = some .hash)
    · rfl
    · intro world saidHash told _
      split
      · rw [World.sendPermission, World.said_send, List.head?_append, saidHash]
        rfl
      · exact saidHash

/-! ## Agreement -/

/-- Both ends of a handshake that gets through have been given the same key, or
neither has been given one. -/
theorem secureConnection_agrees
    (lawful : crypto.Lawful)
    (hostPair : crypto.IsBoxPair host.boxKeyPair.1 host.boxKeyPair.2)
    (clientPair : crypto.IsBoxPair caller.boxKeyPair.1 caller.boxKeyPair.2)
    (hostStream clientStream : AnyStream SessionKey)
    (secure : Bool)
    (hostWire : HandshakeWire)
    (clientWire : ClientWire)
    (env : Env)
    (desk : Host)
    (ip : IpAddr)
    (hash : Hash)
    (require2fa : Option String)
    (reliable : Reliable hostWire clientWire
      (hostFrames crypto
        (createTcpConnection crypto.ofHost host hostStream secure hostWire)
        (World.start env desk host.newId ip hash require2fa))
      (clientFrames crypto (secureConnection crypto caller clientStream clientWire)))
    {started : Started}
    {optionPk : Option Bytes}
    {keyed : AnyStream SessionKey}
    (hostThrough :
      (createTcpConnection crypto.ofHost host hostStream secure hostWire).outcome =
        .ok started)
    (clientThrough : (secureConnection crypto caller clientStream clientWire).outcome =
      .ok (optionPk, keyed)) :
    ∃ given : Option SessionKey,
      started.stream = give hostStream given ∧ keyed = give clientStream given := by
  obtain ⟨message, sent, clientEnds⟩ := secureConnection_ok clientThrough
  rcases createTcpConnection_ok hostThrough with
    ⟨noId, hostKeeps⟩ | ⟨signedId, bytes, hostReceives, first⟩
  · -- The first frame of the host is no signed id.
    rcases clientEnds with ⟨clientKeeps, _⟩ | ⟨_, bytes, clientReceives, found⟩
    · exact ⟨none, hostKeeps, clientKeeps⟩
    · obtain ⟨reply, saidFirst, introduces⟩ :=
        start_introduces env desk host.newId ip hash require2fa
      have isReply := reliable.toClient bytes clientReceives
      simp only [hostFrames, noId, Option.map_none, Option.toList_none, List.nil_append,
        List.head?_map, saidFirst, Option.map_some, Option.some.injEq] at isReply
      obtain ⟨signed, _, _, parsed, _⟩ := found
      rw [← isReply, lawful.parse_writeReply reply introduces] at parsed
      cases parsed
  · have isMessage := reliable.toHost bytes hostReceives
    simp only [clientFrames, sent, List.map_cons, List.head?_cons,
      Option.some.injEq] at isMessage
    subst isMessage
    rcases clientEnds with ⟨clientKeeps, asks⟩ | ⟨clientKeyed, bytes, clientReceives, found⟩
    · exact ⟨none, onFirstFrame_asksForNone lawful asks first, clientKeeps⟩
    · have isSignedId := reliable.toClient bytes clientReceives
      simp only [hostFrames, signedId, Option.map_some, Option.toList_some,
        List.cons_append, List.head?_cons, Option.some.injEq] at isSignedId
      have isKeyMessage : message =
          createSymmetricKeyMsg crypto caller host.boxKeyPair.1 := by
        apply found.ofHost lawful
        rw [← isSignedId, lawful.parse_write]
      rw [isKeyMessage, onFirstFrame_symmetricKey lawful hostPair clientPair,
        Except.ok.injEq] at first
      exact ⟨some caller.sessionKey, first.symm, clientKeyed⟩

/-- Two byte strings one after the other, the length of the first in unary. -/
def pairUp (first second : Bytes) : Bytes :=
  List.replicate first.length 1 ++ 0 :: (first ++ second)

/-- The two byte strings `pairUp` puts together. -/
def pairApart (bytes : Bytes) : Bytes × Bytes :=
  let length := (bytes.takeWhile (· == 1)).length
  let both := bytes.drop (length + 1)
  (both.take length, both.drop length)

theorem pairApart_pairUp (first second : Bytes) :
    pairApart (pairUp first second) = (first, second) := by
  have ones : (pairUp first second).takeWhile (· == 1) =
      List.replicate first.length 1 := by
    simp [pairUp]
  have both : (pairUp first second).drop (first.length + 1) = first ++ second := by
    simp [pairUp, List.drop_append]
  simp only [pairApart, ones, List.length_replicate, both, List.take_left',
    List.drop_left']

/-- A transparent exchange for concrete runs: a signature is sixty-four zeros before
the message, boxes are open and a message begins with a tag. -/
def KeyExchange.transparent : KeyExchange where
  sign := fun message _ => List.replicate 64 0 ++ message
  verify := fun signed _ =>
    if signed.take 64 = List.replicate 64 0 then some (signed.drop 64) else none
  IsBoxPair := fun pk _ => pk.length = boxPublicKeyBytes
  sealBox := fun message _ _ _ => message
  boxOpen := fun message _ _ _ => some message
  writeIdPk := fun id pk => pairUp pk (Lib.utf8 id.toList)
  parseIdPk := fun bytes =>
    some (String.ofList (Lib.fromUtf8Lossy (pairApart bytes).2), (pairApart bytes).1)
  write := fun
    | .empty => []
    | .signedId id => 1 :: id
    | .publicKey asymmetricValue symmetricValue =>
        2 :: pairUp asymmetricValue symmetricValue
    | .other => [3]
  writeReply := fun _ => [3]
  parse := fun
    | [] => some .empty
    | 1 :: id => some (.signedId id)
    | 2 :: values => some (.publicKey (pairApart values).1 (pairApart values).2)
    | _ => some .other
  decode64 := fun _ => some (List.replicate 32 0)

theorem KeyExchange.transparent_lawful : KeyExchange.transparent.Lawful where
  verify_only := by
    intro signed pk message verified
    refine ⟨[], ?_⟩
    simp only [transparent] at verified ⊢
    split at verified
    · next tagged =>
        cases verified
        rw [← tagged, List.take_append_drop]
    · cases verified
  sign_injective := by
    intro message sk other otherSk same
    exact List.append_cancel_left same
  open_seal := by
    intro message nonce ourPk ourSk theirPk theirSk ourPair theirPair
    rfl
  length_pk := by
    intro pk sk pair
    exact pair
  parseIdPk_write := by
    intro id pk
    simp [transparent, pairApart_pairUp]
  parse_write := by
    intro message
    cases message with
    | empty => rfl
    | signedId id => rfl
    | publicKey asymmetricValue symmetricValue => simp [transparent, pairApart_pairUp]
    | other => rfl
  parse_writeReply := by
    intro reply introduces
    rfl

/-- A client that knows the host by its signed id and key. -/
def Caller.zero : Caller where
  peerId := "host"
  signedIdPk := KeyExchange.transparent.sign
    (KeyExchange.transparent.writeIdPk "host" (List.replicate 32 0)) []
  key := ""
  boxKeyPair := (List.replicate 32 1, List.replicate 32 1)
  sessionKey := ⟨List.replicate 32 7, rfl⟩

/-- What the host reads when it is answered with the session key. -/
def hostWireOfZero : HandshakeWire where
  sent := some (.ok ())
  received := some (some (.ok (KeyExchange.transparent.write
    (createSymmetricKeyMsg .transparent .zero (List.replicate 32 0)))))

/-- What the client reads when the host has sent its signed id. -/
def ClientWire.zero : ClientWire where
  received := some (some (.ok (KeyExchange.transparent.write
    (.signedId (KeyExchange.transparent.sign
      (KeyExchange.transparent.writeIdPk "host" (List.replicate 32 0)) [])))))
  sent := .ok ()
  sentInTime := true

/-- A client and a host that know each other go on with one key. -/
theorem secureConnection_agrees_zero :
    ∃ given : Option SessionKey,
      (AnyStream.tcp .new).setKey Caller.zero.sessionKey = give (.tcp .new) given ∧
        (AnyStream.tcp .new).setKey Caller.zero.sessionKey = give (.tcp .new) given := by
  have hostThrough :
      (createTcpConnection KeyExchange.transparent.ofHost .zero (.tcp .new) true
        hostWireOfZero).outcome =
        .ok ⟨1, (AnyStream.tcp .new).setKey Caller.zero.sessionKey⟩ := by
    decide
  have clientThrough :
      (secureConnection .transparent .zero (.tcp .new) .zero).outcome =
        .ok (some (List.replicate 32 0),
          (AnyStream.tcp .new).setKey Caller.zero.sessionKey) := by
    decide
  refine secureConnection_agrees KeyExchange.transparent_lawful ?_ ?_ (.tcp .new)
    (.tcp .new) true hostWireOfZero .zero Env.plain Host.empty (.v4 0) ⟨[], []⟩ none ?_
    hostThrough clientThrough
  · rfl
  · rfl
  · constructor
    · intro bytes received
      cases received
      decide
    · intro bytes received
      cases received
      decide

end Client
end OneDesk
