import OneDesk.Stream.Framed

/-!
# The handshake of a host

`create_tcp_connection` signs a fresh public key, waits for one frame of the peer
and hands the stream to `Connection::start`.  Signatures, boxes and the protocol
buffers are parameters; what the network delivers is an argument.
-/

namespace OneDesk
namespace Stream

/-- `secretbox::KEYBYTES`. -/
def keyBytes : Nat := 32

/-- A `secretbox::Key`. -/
structure SessionKey where
  bytes : Bytes
  length_eq : bytes.length = keyBytes
  deriving DecidableEq

/-- `box_::PUBLICKEYBYTES`. -/
def boxPublicKeyBytes : Nat := 32

/-- The zero `box_::Nonce`. -/
def zeroNonce : Bytes :=
  List.replicate 24 0

/-- `box_::open` on a box, a nonce, their public key and our secret key. -/
abbrev BoxOpen := Bytes → Bytes → Bytes → Bytes → Option Bytes

/-- `Encrypt::decode`: the session key in a box of the peer. -/
def Encrypt.decode
    (boxOpen : BoxOpen)
    (symmetricData theirPk ourSk : Bytes) :
    Except String SessionKey :=
  if theirPk.length ≠ boxPublicKeyBytes then
    .error ("Handshake failed: pk length " ++ toString theirPk.length)
  else
    match boxOpen symmetricData zeroNonce theirPk ourSk with
    | none => .error "Handshake failed: box decryption failure"
    | some symmetricKey =>
        if length_eq : symmetricKey.length = keyBytes then
          .ok ⟨symmetricKey, length_eq⟩
        else
          .error "Handshake failed: invalid secret key length from peer"

end Stream

namespace Server

open OneDesk.Stream

/-- `sign::PUBLICKEYBYTES`. -/
def signPublicKeyBytes : Nat := 32

/-- `sign::SECRETKEYBYTES`. -/
def signSecretKeyBytes : Nat := 64

/-- The union of a message, as far as the handshake looks into it. -/
inductive HandshakeUnion
  | publicKey (asymmetricValue symmetricValue : Bytes)
  | other
  deriving DecidableEq

/-- What the handshake calls outside the repository. -/
structure HandshakeCrypto where
  /-- `sign::sign` on a message and a secret key. -/
  sign : Bytes → Bytes → Bytes
  /-- `box_::open`. -/
  boxOpen : BoxOpen
  /-- `IdPk { id, pk }.write_to_bytes`. -/
  writeIdPk : String → Bytes → Bytes
  /-- `Message::parse_from_bytes` and the union it finds, if any. -/
  parseMessage : Bytes → Option (Option HandshakeUnion)

/-- What a host brings to a handshake. -/
structure HandshakeHost where
  /-- `Config::get_id`. -/
  id : String
  /-- The secret half of `Config::get_key_pair`. -/
  sk : Bytes
  /-- The public half of `Config::get_key_pair`. -/
  pk : Bytes
  /-- `box_::gen_keypair`, the public key first. -/
  boxKeyPair : Bytes × Bytes
  /-- `Server::get_new_id`. -/
  newId : Int

/-- What the network makes of a handshake; `none` when the wait of
`CONNECT_TIMEOUT` is over first. -/
structure HandshakeWire where
  /-- `stream.send(&msg_out)`. -/
  sent : Option (Except IoError Unit)
  /-- `stream.next()`. -/
  received : Option (Option (Except IoError Bytes))

/-- Why a handshake ends without a session. -/
inductive HandshakeError
  | elapsed
  | io (error : IoError)
  | bail (text : String)
  deriving DecidableEq

/-- The arguments `Connection::start` is called with. -/
structure Started where
  id : Int
  stream : AnyStream Stream.SessionKey
  deriving DecidableEq

/-- What a handshake does: the signed id it sends, whether it marks the key of the
host unconfirmed, and how it ends. -/
structure Handshake where
  signedId : Option Bytes
  keyUnconfirmed : Bool
  outcome : Except HandshakeError Started

variable (crypto : HandshakeCrypto) (host : HandshakeHost)

/-- The public key message of the peer. -/
def onPublicKey
    (stream : AnyStream Stream.SessionKey)
    (asymmetricValue symmetricValue : Bytes) :
    Bool × Except HandshakeError (AnyStream Stream.SessionKey) :=
  if asymmetricValue.length = boxPublicKeyBytes then
    match Encrypt.decode crypto.boxOpen symmetricValue asymmetricValue
        host.boxKeyPair.2 with
    | .ok key => (false, .ok (stream.setKey key))
    | .error text => (false, .error (.bail text))
  else if asymmetricValue = [] then
    -- Force to update pk.
    (true, .ok stream)
  else
    (false, .error
      (.bail "Handshake failed: invalid public sign key length from peer"))

/-- The answer of the peer: whether the key is marked unconfirmed, and the stream
to go on with. -/
def onFirstFrame
    (stream : AnyStream Stream.SessionKey) :
    Option (Option (Except IoError Bytes)) →
      Bool × Except HandshakeError (AnyStream Stream.SessionKey)
  | none => (false, .error .elapsed)
  | some none => (false, .error (.bail "Failed to receive public key"))
  | some (some (.error error)) => (false, .error (.io error))
  | some (some (.ok bytes)) =>
      match crypto.parseMessage bytes with
      | some (some (.publicKey asymmetricValue symmetricValue)) =>
          onPublicKey crypto host stream asymmetricValue symmetricValue
      -- "Handshake failed: invalid message type" is logged, and that is all.
      | some _ => (false, .ok stream)
      | none => (false, .error (.bail "Handshake failed: invalid message format"))

/-- `create_tcp_connection` up to the call of `Connection::start`. -/
def createTcpConnection
    (stream : AnyStream Stream.SessionKey)
    (secure : Bool)
    (wire : HandshakeWire) :
    Handshake :=
  if secure && host.pk.length == signPublicKeyBytes &&
      host.sk.length == signSecretKeyBytes then
    let signedId := crypto.sign (crypto.writeIdPk host.id host.boxKeyPair.1) host.sk
    match wire.sent with
    | none => ⟨some signedId, false, .error .elapsed⟩
    | some (.error error) => ⟨some signedId, false, .error (.io error)⟩
    | some (.ok ()) =>
        match onFirstFrame crypto host stream wire.received with
        | (unconfirmed, .ok stream) =>
            ⟨some signedId, unconfirmed, .ok ⟨host.newId, stream⟩⟩
        | (unconfirmed, .error error) =>
            ⟨some signedId, unconfirmed, .error error⟩
  else
    ⟨none, false, .ok ⟨host.newId, stream⟩⟩

/-! ## Which handshakes are kept -/

/-- The stream carries the key in the peer's public key message, or the peer asked
for an update of the key with an empty one. -/
def Negotiated (wire : HandshakeWire) (stream : AnyStream Stream.SessionKey) : Prop :=
  ∃ bytes asymmetricValue symmetricValue,
    wire.received = some (some (.ok bytes)) ∧
    crypto.parseMessage bytes =
      some (some (.publicKey asymmetricValue symmetricValue)) ∧
    (asymmetricValue = [] ∨
      ∃ key,
        Encrypt.decode crypto.boxOpen symmetricValue asymmetricValue
            host.boxKeyPair.2 = .ok key ∧
          stream.encrypt = some (Encrypt.new key))

/-- The peer's first frame is a message, but not one with a public key. -/
def OtherMessage (wire : HandshakeWire) : Prop :=
  ∃ bytes union,
    wire.received = some (some (.ok bytes)) ∧
    crypto.parseMessage bytes = some union ∧
    ∀ asymmetricValue symmetricValue,
      union ≠ some (.publicKey asymmetricValue symmetricValue)

variable {crypto host}
variable {stream : AnyStream Stream.SessionKey}

/-- With a valid key pair the session is decided by the first frame. -/
theorem createTcpConnection_outcome
    {wire : HandshakeWire}
    {started : Started}
    (validPk : host.pk.length = signPublicKeyBytes)
    (validSk : host.sk.length = signSecretKeyBytes) :
    (createTcpConnection crypto host stream true wire).outcome = .ok started ↔
      wire.sent = some (.ok ()) ∧ started.id = host.newId ∧
        (onFirstFrame crypto host stream wire.received).2 = .ok started.stream := by
  simp only [createTcpConnection, validPk, validSk, beq_self_eq_true, Bool.and_self,
    if_true]
  rcases wire.sent with _ | error | ⟨⟨⟩⟩
  · simp
  · simp
  · rcases onFirstFrame crypto host stream wire.received with
      ⟨unconfirmed, error | keyed⟩
    · simp
    · rcases started with ⟨id, stream⟩
      simp [eq_comm]

/-- A public key message lets a session start only with its key, or when it is
empty. -/
theorem onPublicKey_ok
    {asymmetricValue symmetricValue : Bytes}
    {keyed : AnyStream Stream.SessionKey}
    (kept : (onPublicKey crypto host stream asymmetricValue symmetricValue).2 =
      .ok keyed) :
    asymmetricValue = [] ∨
      ∃ key,
        Encrypt.decode crypto.boxOpen symmetricValue asymmetricValue
            host.boxKeyPair.2 = .ok key ∧
          keyed.encrypt = some (Encrypt.new key) := by
  unfold onPublicKey at kept
  split at kept
  · split at kept
    · next key decoded =>
        cases kept
        exact Or.inr ⟨key, decoded, AnyStream.encrypt_setKey key stream⟩
    · cases kept
  · split at kept
    · next empty => exact Or.inl empty
    · cases kept

/-- A frame that is no message of another kind keeps the negotiation. -/
theorem onFirstFrame_negotiated
    {wire : HandshakeWire}
    {keyed : AnyStream Stream.SessionKey}
    (noOther : ¬OtherMessage crypto wire)
    (kept : (onFirstFrame crypto host stream wire.received).2 = .ok keyed) :
    Negotiated crypto host wire keyed := by
  unfold onFirstFrame at kept
  split at kept
  · cases kept
  · cases kept
  · cases kept
  · next bytes received =>
      split at kept
      · next asymmetricValue symmetricValue parsed =>
          exact ⟨bytes, asymmetricValue, symmetricValue, received, parsed,
            onPublicKey_ok kept⟩
      · next union notPublicKey parsed =>
          refine absurd ⟨bytes, union, received, parsed, ?_⟩ noOther
          intro asymmetricValue symmetricValue isPublicKey
          exact notPublicKey asymmetricValue symmetricValue isPublicKey
      · cases kept

/-- A message of another kind is let through with the stream as it was. -/
theorem onFirstFrame_other
    {wire : HandshakeWire}
    (other : OtherMessage crypto wire) :
    (onFirstFrame crypto host stream wire.received).2 = .ok stream := by
  obtain ⟨bytes, union, received, parsed, notPublicKey⟩ := other
  rw [received]
  rcases union with _ | ⟨asymmetricValue, symmetricValue⟩ | _
  · simp only [onFirstFrame, parsed]
  · exact absurd rfl (notPublicKey asymmetricValue symmetricValue)
  · simp only [onFirstFrame, parsed]

theorem not_negotiated_of_other
    {wire : HandshakeWire}
    {keyed : AnyStream Stream.SessionKey}
    (other : OtherMessage crypto wire) :
    ¬Negotiated crypto host wire keyed := by
  rintro ⟨bytes, asymmetricValue, symmetricValue, received, parsed, _⟩
  obtain ⟨otherBytes, union, otherReceived, otherParsed, notPublicKey⟩ := other
  have sameBytes : bytes = otherBytes := by
    rw [received] at otherReceived
    simpa using otherReceived
  rw [sameBytes, otherParsed] at parsed
  exact notPublicKey asymmetricValue symmetricValue (Option.some.inj parsed)

/-- The empty message and the empty public key message, as protocol buffers read
them; nothing else is read, signed or opened. -/
def HandshakeCrypto.empty : HandshakeCrypto where
  sign := fun message _ => message
  boxOpen := fun _ _ _ _ => none
  writeIdPk := fun _ pk => pk
  parseMessage := fun bytes =>
    if bytes = [] then some none
    else if bytes = [0x22, 0x00] then some (some (.publicKey [] []))
    else none

/-- A host with a key pair of the right lengths. -/
def HandshakeHost.zero : HandshakeHost where
  id := "host"
  sk := List.replicate 64 0
  pk := List.replicate 32 0
  boxKeyPair := (List.replicate 32 0, List.replicate 32 0)
  newId := 1

end Server
end OneDesk
