import OneDesk.Client.SecureConnection
import OneDesk.Lib.Traced
import OneDesk.Stream.Endpoint

/-!
# The handshake with a rendezvous server

`secure_tcp` reads one frame of a rendezvous server.  If the frame is a key
exchange, the stream is keyed or the call fails.  Most other answers leave the
stream without a key, and the call is through all the same.
-/

namespace OneDesk
namespace Client

open OneDesk.Common OneDesk.Lib OneDesk.Stream
open OneDesk.Server hiding SessionKey

/-- `NatType` -/
inductive NatType
  | unknownNat
  | asymmetric
  | symmetric
  deriving DecidableEq

/-- `ConnType` -/
inductive ConnType
  | defaultConn
  | fileTransfer
  | portForward
  | rdp
  | viewCamera
  | terminal
  deriving DecidableEq

/-- `PunchHoleRequest` -/
structure PunchHoleRequest where
  id : String
  natType : NatType
  licenceKey : String
  connType : ConnType
  token : String
  version : String
  udpPort : UInt16
  forceRelay : Bool
  socketAddrV6 : Bytes
  deriving DecidableEq

/-- `punch_hole_response::Failure` -/
inductive PunchHoleFailure
  | idNotExist
  | offline
  | licenseMismatch
  | licenseOveruse
  deriving DecidableEq

/-- `PunchHoleResponse` -/
structure PunchHoleResponse where
  socketAddr : Bytes
  pk : Bytes
  /-- `none` for a number that is none of the failures. -/
  failure : Option PunchHoleFailure
  relayServer : Text
  natType : NatType
  isLocal : Bool
  otherFailure : String
  feedback : Int
  isUdp : Bool
  socketAddrV6 : Bytes
  deriving DecidableEq

/-- `RequestRelay` -/
structure RequestRelay where
  id : String
  uuid : String
  relayServer : Text
  secure : Bool
  licenceKey : String
  connType : ConnType
  token : String
  deriving DecidableEq

/-- `RelayResponse` -/
structure RelayResponse where
  uuid : String
  relayServer : Text
  pk : Bytes
  refuseReason : String
  feedback : Int
  socketAddrV6 : Bytes
  deriving DecidableEq

/-- The union of a `RendezvousMessage`, as far as a client sends it or looks into
it. -/
inductive RendezvousMessage
  | empty
  | keyExchange (keys : List Bytes)
  | punchHoleRequest (request : PunchHoleRequest)
  | punchHoleResponse (ph : PunchHoleResponse)
  | requestRelay (request : RequestRelay)
  | relayResponse (rr : RelayResponse)
  | hc (token : String)
  | other
  deriving DecidableEq

/-- The access token in a message. -/
def RendezvousMessage.token : RendezvousMessage → String
  | .punchHoleRequest request => request.token
  | .requestRelay request => request.token
  | .hc token => token
  | _ => ""

/-- What is sent, with the stream it is sent over. -/
structure Sent where
  socket : Socket
  message : RendezvousMessage

/-- Why a call ends without a value, with the context it is given on its way. -/
inductive CallError
  | plain (error : HandshakeError)
  | context (text : String) (cause : CallError)
  deriving DecidableEq

/-- What a call sends and how it ends. -/
abbrev Call := Traced CallError Sent

/-- `bail!` -/
def bail {α : Type} (text : String) : Call α :=
  .fail (.plain (.bail text))

/-- The `?` on a result of the network. -/
def orFail {α : Type} : Except IoError α → Call α
  | .ok value => .lift (.ok value)
  | .error error => .fail (.plain (.io error))

/-- `with_context` and `map_err` on a call. -/
def withContext {α : Type} (text : String) (call : Call α) : Call α :=
  ⟨call.trace,
    match call.outcome with
    | .ok value => .ok value
    | .error error => .error (.context text error)⟩

/-- `conn.send(&msg_out).await?`: what is written may arrive even if the call
fails. -/
def send (socket : Socket) (message : RendezvousMessage) (result : Except IoError Unit) :
    Call Unit := do
  .act ⟨socket, message⟩
  orFail result

/-- What `gen_keypair` and `gen_key` return for one handshake. -/
structure Fresh where
  /-- `box_::gen_keypair`, the public key first. -/
  boxKeyPair : Bytes × Bytes
  /-- `secretbox::gen_key`. -/
  sessionKey : SessionKey

/-- `RendezvousMessage::parse_from_bytes` and its union. -/
abbrev ParseRendezvous := Bytes → Option RendezvousMessage

section Handshake

variable (crypto : KeyExchange) (parse : ParseRendezvous)

/-- The two keys of the answer to a key exchange: our public key and the session
key, in a box for theirs. -/
def symmetricKeys (fresh : Fresh) (theirPk : Bytes) : List Bytes :=
  [fresh.boxKeyPair.1,
    crypto.sealBox fresh.sessionKey.bytes zeroNonce theirPk fresh.boxKeyPair.2]

/-- `timeout(CONNECT_TIMEOUT, conn.send(&msg_out)).await??` -/
def sendInTime (socket : Socket) (message : RendezvousMessage) (wire : ClientWire) :
    Call Unit := do
  .act ⟨socket, message⟩
  if wire.sentInTime then orFail wire.sent else .fail (.plain .elapsed)

/-- The answer to the keys of a rendezvous server. -/
def onKeyExchange
    (fresh : Fresh)
    (wire : ClientWire)
    (rsPk : Bytes)
    (socket : Socket) :
    List Bytes → Call Socket
  | [signed] =>
      match crypto.verify signed rsPk with
      | none => bail "Signature mismatch in key exchange"
      | some theirPkB =>
          match getPk theirPkB with
          | none => bail "Wrong their public length in key exchange"
          | some theirPk => do
              sendInTime socket (.keyExchange (symmetricKeys crypto fresh theirPk)) wire
              return socket.setKey fresh.sessionKey
  | _ => bail "Handshake failed: invalid key exchange message"

/-- `secure_tcp` -/
def secureTcp
    (useWs : Bool)
    (fresh : Fresh)
    (wire : ClientWire)
    (key : String)
    (socket : Socket) :
    Call Socket :=
  -- Skip additional encryption when using WebSocket connections (wss://).
  if useWs then return socket
  else
    match getRsPk crypto key with
    | none => bail "Handshake failed: invalid public key from rendezvous server"
    | some rsPk =>
        match wire.received with
        | none => .fail (.plain .elapsed)
        | some (some (.ok bytes)) =>
            match parse bytes with
            | some (.keyExchange keys) => onKeyExchange crypto fresh wire rsPk socket keys
            | _ => return socket
        | some _ => return socket

/-- The first message that is no key exchange, unless a read fails before it. -/
def nonkeyexchange : List (Option (Except IoError Bytes)) → Option RendezvousMessage
  | some (.ok bytes) :: reads =>
      match parse bytes with
      | some (.keyExchange _) => nonkeyexchange reads
      | message => message
  | _ => none

/-- `get_next_nonkeyexchange_msg` on what the calls of `next_timeout` return. -/
def getNextNonkeyexchangeMsg (reads : List (Option (Except IoError Bytes))) :
    Option RendezvousMessage :=
  nonkeyexchange parse (reads.take 2)

end Handshake

/-! ## What is secured -/

variable
  {crypto : KeyExchange}
  {parse : ParseRendezvous}
  {useWs : Bool}
  {fresh : Fresh}
  {wire : ClientWire}
  {key : String}
  {socket secured : Socket}

/-- A stream is keyed with the session key that is sent in a box for a public key,
and the server has signed the public key. -/
def IsSecured
    (crypto : KeyExchange)
    (parse : ParseRendezvous)
    (fresh : Fresh)
    (wire : ClientWire)
    (key : String)
    (socket : Socket)
    (call : Call Socket)
    (secured : Socket) : Prop :=
  ∃ rsPk bytes signed theirPk,
    getRsPk crypto key = some rsPk ∧
    wire.received = some (some (.ok bytes)) ∧
    parse bytes = some (.keyExchange [signed]) ∧
    crypto.verify signed rsPk = some theirPk ∧
    call.trace = [⟨socket, .keyExchange (symmetricKeys crypto fresh theirPk)⟩] ∧
    secured = socket.setKey fresh.sessionKey

/-- An answer that leaves no way between a key and an error: none in time, or a key
exchange, or any if the key of the server is not one. -/
def Conclusive
    (crypto : KeyExchange)
    (parse : ParseRendezvous)
    (wire : ClientWire)
    (key : String) : Prop :=
  getRsPk crypto key = none ∨
    wire.received = none ∨
    ∃ bytes keys, wire.received = some (some (.ok bytes)) ∧
      parse bytes = some (.keyExchange keys)

/-- A call that is not led to a key or an error leaves the stream as it is. -/
theorem secureTcp_of_not_conclusive
    (unguarded : useWs = true ∨ ¬Conclusive crypto parse wire key) :
    secureTcp crypto parse useWs fresh wire key socket = pure socket := by
  rcases unguarded with rfl | inconclusive
  · rfl
  · unfold secureTcp
    split
    · rfl
    · split
      · next noKey => exact absurd (.inl noKey) inconclusive
      · split
        · next late => exact absurd (.inr (.inl late)) inconclusive
        · next bytes received =>
            split
            · next keys parsed =>
                exact absurd (.inr (.inr ⟨bytes, keys, received, parsed⟩)) inconclusive
            · rfl
        · rfl

/-- An answer to a key exchange is sent before the stream is keyed. -/
theorem onKeyExchange_ok
    {rsPk : Bytes}
    {keys : List Bytes}
    (through : (onKeyExchange crypto fresh wire rsPk socket keys).outcome = .ok secured) :
    ∃ signed theirPk, keys = [signed] ∧ crypto.verify signed rsPk = some theirPk ∧
      (onKeyExchange crypto fresh wire rsPk socket keys).trace =
        [⟨socket, .keyExchange (symmetricKeys crypto fresh theirPk)⟩] ∧
      secured = socket.setKey fresh.sessionKey := by
  unfold onKeyExchange at through ⊢
  split at through
  · next signed =>
      split at through
      · cases through
      · next theirPkB verified =>
          split at through
          · cases through
          · next theirPk isPk =>
              have same : theirPkB = theirPk := by
                unfold getPk at isPk
                split at isPk
                · exact Option.some.inj isPk
                · cases isPk
              obtain ⟨_, sent, keyed⟩ := Traced.bind_ok_iff.mp through
              refine ⟨signed, theirPk, rfl, same ▸ verified, ?_, (Except.ok.inj keyed).symm⟩
              rw [Traced.bind_of_ok sent]
              unfold sendInTime
              rw [Traced.bind_of_ok rfl]
              split
              · unfold orFail
                split <;> rfl
              · rfl
  · cases through

/-- A conclusive answer that lets a call through secures the stream. -/
theorem isSecured_of_conclusive
    (conclusive : Conclusive crypto parse wire key)
    (through : (secureTcp crypto parse false fresh wire key socket).outcome = .ok secured) :
    IsSecured crypto parse fresh wire key socket
      (secureTcp crypto parse false fresh wire key socket) secured := by
  unfold secureTcp at through ⊢
  rw [if_neg Bool.false_ne_true] at through ⊢
  rcases isKey : getRsPk crypto key with _ | rsPk
  · rw [isKey] at through
    cases through
  · rcases conclusive with noKey | late | ⟨bytes, keys, received, parsed⟩
    · rw [isKey] at noKey
      cases noKey
    · simp only [isKey, late] at through
      cases through
    · simp only [isKey, received, parsed] at through ⊢
      obtain ⟨signed, theirPk, rfl, verified, sent, keyed⟩ := onKeyExchange_ok through
      exact ⟨rsPk, bytes, signed, theirPk, isKey, received, parsed, verified, sent, keyed⟩

/-- A stream that is not a WebSocket is secured by each call that gets through
exactly if the handshake is made and its answer is conclusive. -/
theorem secureTcp_secures_iff :
    (∀ secured, (secureTcp crypto parse useWs fresh wire key socket).outcome = .ok secured →
        socket.isWebSocket = false →
        IsSecured crypto parse fresh wire key socket
          (secureTcp crypto parse useWs fresh wire key socket) secured) ↔
      socket.isWebSocket = true ∨
        (useWs = false ∧ Conclusive crypto parse wire key) := by
  constructor
  · intro secures
    by_contra neither
    rw [not_or, Bool.not_eq_true] at neither
    have unguarded : useWs = true ∨ ¬Conclusive crypto parse wire key := by
      cases useWs with
      | true => exact .inl rfl
      | false => exact .inr fun conclusive => neither.2 ⟨rfl, conclusive⟩
    rw [secureTcp_of_not_conclusive unguarded] at secures
    obtain ⟨_, _, _, _, _, _, _, _, sent, _⟩ := secures socket rfl neither.1
    cases sent
  · rintro (isWebSocket | ⟨rfl, conclusive⟩) secured through plain
    · rw [isWebSocket] at plain
      cases plain
    · exact isSecured_of_conclusive conclusive through

/-- No token is sent in a handshake. -/
theorem secureTcp_all :
    (secureTcp crypto parse useWs fresh wire key socket).All
      fun sent => sent.message.token = "" := by
  unfold secureTcp
  split
  · exact Traced.all_pure _
  · split
    · exact Traced.all_fail _
    · split
      · exact Traced.all_fail _
      · split
        · unfold onKeyExchange
          split
          · split
            · exact Traced.all_fail _
            · split
              · exact Traced.all_fail _
              · refine Traced.all_bind.mpr ⟨?_, fun _ _ => Traced.all_pure _⟩
                refine Traced.all_bind.mpr ⟨Traced.all_act.mpr rfl, fun _ _ => ?_⟩
                split
                · unfold orFail
                  split
                  · exact Traced.all_lift _
                  · exact Traced.all_fail _
                · exact Traced.all_fail _
          · exact Traced.all_fail _
        · exact Traced.all_pure _
      · exact Traced.all_pure _

end Client
end OneDesk
