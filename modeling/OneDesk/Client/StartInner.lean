import OneDesk.Client.Errands
import OneDesk.Common.AddrMangle
import OneDesk.Lib.Race

/-!
# The way to a peer

`Client::_start_inner` asks a rendezvous server for a peer and tries to reach it, by
punched holes or through a relay, whichever is first.  A session may insist on the
relay.
-/

namespace OneDesk
namespace Client

open OneDesk.Common OneDesk.Lib OneDesk.Stream
open OneDesk.Server hiding SessionKey

/-- Whom a stream leads to. -/
inductive Route
  | relay (relayServer : Text)
  | tcp (peer : SocketAddr)
  | udp (peer : SocketAddr)
  | ipv6 (peer : SocketAddr)
  deriving DecidableEq

/-- A stream to a peer. -/
structure Link where
  route : Route
  stream : AnyStream SessionKey

/-- What an attempt to connect yields: a stream, the route of the `KcpStream` under
it, and its type. -/
structure Way where
  conn : Link
  kcp : Option Route
  typ : String

/-- What `Client::connect` returns. -/
structure Connection where
  conn : Link
  direct : Bool
  pk : Option Bytes
  kcp : Option Route
  typ : String

/-- What `Client::_start_inner` returns. -/
structure Begun where
  connection : Connection
  feedback : Int
  rendezvousServer : Text
  punched : Bool

/-- A session that is to be begun. -/
structure Session where
  peer : String
  key : String
  token : String
  connType : ConnType
  /-- `interface.is_force_relay()` -/
  forceRelay : Bool
  directFailures : Int
  /-- The UDP socket of the session and its public port, as far as it is known. -/
  udp : Option UInt16
  rendezvousServer : Text
  servers : List Text
  version : String

/-- What becomes of the attempts to reach a peer. -/
structure Ways where
  /-- `connect_tcp_local` within a time. -/
  tcp : Nat → Contender CallError Unit
  /-- `udp_nat_connect` on the UDP socket. -/
  udp : Nat → Contender CallError Unit
  /-- `udp_nat_connect` on the IPv6 socket. -/
  ipv6 : Nat → Contender CallError Unit
  /-- When `create_relay` ends, and how its connection does. -/
  relayFinished : Nat
  relay : RelayWire
  /-- The attempts of `request_relay`, and its connection. -/
  relayAttempts : Nat → RelayAttempt
  relayRequested : RelayWire
  /-- The handshake with the peer. -/
  peerFresh : Fresh
  peerWire : ClientWire

/-- What is outside a call of `_start_inner`. -/
structure Outside where
  /-- `connect_tcp` to the first server, and to those after it. -/
  reach : Nat → Except IoError Bool
  /-- The handshake with the server that is reached. -/
  fresh : Fresh
  wire : ClientWire
  /-- `get_nat_type(100)`, and again. -/
  myNatType : Int
  myNatTypeLater : Int
  /-- `get_ipv6_socket`, if punching through IPv6 is enabled. -/
  ipv6 : Option Bytes
  attempts : Nat → Attempt
  /-- Whether a socket can be connected. -/
  connects : SocketAddr → Bool
  timeUsed : Nat
  ways : Ways

/-- `SocketAddr::port` -/
def port : SocketAddr → UInt16
  | .v4 _ port => port
  | .v6 _ port _ _ => port

/-- `NatType::from_i32`, or the unknown type. -/
def NatType.fromI32 (number : Int) : NatType :=
  if number = 1 then .asymmetric
  else if number = 2 then .symmetric
  else .unknownNat

/-- `config::CONNECT_TIMEOUT` -/
def connectTimeoutMs : Nat := 18000

/-- How long `connect` waits for a direct connection. -/
def directTimeout
    (isLocal : Bool)
    (peerNatType : NatType)
    (relayServer : Text)
    (myNatType myNatTypeLater directFailures : Int)
    (punchTimeUsed : Nat) :
    Nat :=
  let min := 1000
  if isLocal || peerNatType == .symmetric then min
  else
    let waits :=
      if relayServer = [] then connectTimeoutMs
      else
        let byType :=
          if peerNatType = .asymmetric then
            let mine := if myNatType = 0 then myNatTypeLater else myNatType
            if mine = 1 then
              if directFailures > 0 then punchTimeUsed * 6 else connectTimeoutMs
            else if mine = 2 then min
            else 0
          else 0
        if byType = 0 then punchTimeUsed * (if directFailures > 0 then 3 else 6)
        else byType
    if waits < min then min else waits

section Starting

variable (env : Surroundings)

/-- The other servers in turn, until one is reached: the server and the result of the
last connection. -/
def reachOther
    (rendezvousServer : Text) :
    List Text → (Nat → Except IoError Bool) → Except IoError Bool →
      Text × Except IoError Bool
  | [], _, last => (rendezvousServer, last)
  | server :: servers, reach, _ =>
      match reach 0 with
      | .ok ipv4 => (checkPort env.numbers server rendezvousPort, .ok ipv4)
      | .error error =>
          reachOther rendezvousServer servers (fun count => reach (count + 1)) (.error error)

/-- The server that is reached, and the result of the connection to it. -/
def reachServer (session : Session) (outside : Outside) : Text × Except IoError Bool :=
  match outside.reach 0 with
  | .ok ipv4 => (session.rendezvousServer, .ok ipv4)
  | .error error =>
      reachOther env session.rendezvousServer session.servers
        (fun count => outside.reach (count + 1)) (.error error)

/-- The visit that `_start_inner` pays to the server that is reached. -/
def startVisit (session : Session) (outside : Outside) : Visit where
  connected := (reachServer env session outside).2
  fresh := outside.fresh
  wire := outside.wire

/-- The message with which a hole is to be punched. -/
def punchRequest (session : Session) (outside : Outside) : PunchHoleRequest where
  id := session.peer
  natType := if session.forceRelay then .symmetric else .fromI32 outside.myNatType
  licenceKey := session.key
  connType := session.connType
  token := session.token
  version := session.version
  udpPort := session.udp.getD 0
  forceRelay := session.forceRelay
  socketAddrV6 := outside.ipv6.getD []

/-- `secure_connection`; what it sends to the peer is no message to a server. -/
def secureLink
    (session : Session)
    (ways : Ways)
    (signedIdPk : Bytes)
    (link : Link) :
    Call (Option Bytes × Link) :=
  let caller : Caller :=
    { peerId := session.peer
      signedIdPk := signedIdPk
      key := session.key
      boxKeyPair := ways.peerFresh.boxKeyPair
      sessionKey := ways.peerFresh.sessionKey }
  match (secureConnection env.crypto caller link.stream ways.peerWire).outcome with
  | .ok (pk, stream) => return (pk, { link with stream := stream })
  | .error error => .fail (.plain error)

/-- A new stream that is made directly. -/
def directWay (route : Route) (kcp : Option Route) (typ : String) : Way :=
  ⟨⟨route, .tcp .new⟩, kcp, typ⟩

/-- `udp_nat_connect` on a socket that is connected to a peer. -/
def udpNatConnect (route : Route) (typ : String) (ended : Contender CallError Unit) :
    Contender CallError Way :=
  ⟨ended.finished, ended.result.map fun () => directWay route (some route) typ⟩

/-- The arguments of `connect`. -/
structure Punched where
  peer : SocketAddr
  signedIdPk : Bytes
  relayServer : Text
  rendezvousServer : Text
  peerNatType : NatType
  isLocal : Bool
  /-- What the UDP and the IPv6 socket are connected to, if they are to be used. -/
  udpSocketNat : Option SocketAddr
  udpSocketV6 : Option SocketAddr

/-- The direct attempts of `connect`, side by side. -/
def connectDirectly (punched : Punched) (ways : Ways) (timeout : Nat) :
    Except CallError Way :=
  let tcp : Contender CallError Way :=
    ⟨(ways.tcp timeout).finished,
      (ways.tcp timeout).result.map fun () => directWay (.tcp punched.peer) none "TCP"⟩
  let udp := punched.udpSocketNat.map fun peer =>
    udpNatConnect (.udp peer) "UDP" (ways.udp timeout)
  let ipv6 := punched.udpSocketV6.map fun peer =>
    udpNatConnect (.ipv6 peer) "IPv6" (ways.ipv6 timeout)
  selectOk tcp (udp.toList ++ ipv6.toList)

/-- The direct stream, unless there is none or the session insists on a relay: the
stream, whether it is direct, and its type. -/
def orRequestRelay
    (session : Session)
    (ways : Ways)
    (punched : Punched)
    (tried : Except CallError Way) :
    Call (Link × Bool × String) :=
  match tried, session.forceRelay with
  | .ok way, false => return (way.conn, true, way.typ)
  | _, _ =>
      if punched.relayServer ≠ [] then do
        let socket ← withContext "Failed to connect via relay server"
          (requestRelay env
            { peer := session.peer
              relayServer := punched.relayServer
              rendezvousServer := punched.rendezvousServer
              secure := punched.signedIdPk ≠ []
              key := session.key
              token := session.token
              connType := session.connType }
            ways.relayAttempts ways.relayRequested)
        return (⟨.relay punched.relayServer, socket.stream⟩, false, "Relay")
      else bail "Failed to make direct connection to remote desktop"

/-- `Client::connect` -/
def connect (session : Session) (outside : Outside) (punched : Punched) :
    Call Connection := do
  let timeout := directTimeout punched.isLocal punched.peerNatType punched.relayServer
    outside.myNatType outside.myNatTypeLater session.directFailures outside.timeUsed
  let tried := connectDirectly punched outside.ways timeout
  let kcp := match tried with
    | .ok way => way.kcp
    | .error _ => none
  let (conn, direct, typ) ← orRequestRelay env session outside.ways punched tried
  let (pk, conn) ← secureLink env session outside.ways punched.signedIdPk conn
  return ⟨conn, direct, pk, kcp, typ⟩

/-- What `connect` is called with after the holes are punched. -/
def onPunched
    (session : Session)
    (outside : Outside)
    (rendezvousServer : Text)
    (ph : PunchHoleResponse) :
    Punched :=
  let peer := (AddrMangle.decode ph.socketAddr).value
  let peerV6 := (AddrMangle.decode ph.socketAddrV6).value
  { peer := peer
    signedIdPk := ph.pk
    relayServer := ph.relayServer
    rendezvousServer := rendezvousServer
    peerNatType := ph.natType
    isLocal := ph.isLocal
    udpSocketNat := if ph.isUdp && session.udp.isSome then some peer else none
    udpSocketV6 :=
      if ph.socketAddrV6 ≠ [] ∧ outside.ipv6.isSome ∧ port peerV6 > 0 then some peerV6
      else none }

/-- The IPv6 address in the response of a relay, if a socket is to be connected to
it and can be. -/
def v6OfRelayed (outside : Outside) (rr : RelayResponse) : Option SocketAddr :=
  let addr := (AddrMangle.decode rr.socketAddrV6).value
  if outside.ipv6.isSome && port addr > 0 && outside.connects addr then some addr else none

/-- The relay in a response, as an attempt among others. -/
def relayCall (session : Session) (outside : Outside) (ipv4 : Bool) (rr : RelayResponse) :
    Call Way := do
  let socket ← createRelay env session.peer rr.uuid rr.relayServer session.key
    session.connType ipv4 outside.ways.relay
  return ⟨⟨.relay rr.relayServer, socket.stream⟩, none,
    if env.options.useWs then "WebSocket" else "Relay"⟩

/-- The relay in a response, or the peer through IPv6 if it is reached before. -/
def relayedWay (session : Session) (outside : Outside) (ipv4 : Bool) (rr : RelayResponse) :
    Call Way :=
  let call := relayCall env session outside ipv4 rr
  let relay : Contender CallError Way := ⟨outside.ways.relayFinished, call.outcome⟩
  ⟨call.trace,
    match v6OfRelayed outside rr with
    | some addr =>
        selectOk
          (udpNatConnect (.ipv6 addr) "IPv6" (outside.ways.ipv6 connectTimeoutMs)) [relay]
    | none => selectOk relay []⟩

/-- The response of a relay. -/
def onRelayed
    (session : Session)
    (outside : Outside)
    (rendezvousServer : Text)
    (ipv4 : Bool)
    (rr : RelayResponse) :
    Call Begun := do
  let way ← relayedWay env session outside ipv4 rr
  let (pk, conn) ← secureLink env session outside.ways rr.pk way.conn
  return ⟨⟨conn, way.typ == "IPv6", pk, way.kcp, way.typ⟩, rr.feedback, rendezvousServer,
    false⟩

/-- `Client::_start_inner` -/
def startInner (session : Session) (outside : Outside) : Call Begun := do
  let server := (reachServer env session outside).1
  let visit := startVisit env session outside
  let answer ← requestPunchHole env visit server (punchRequest session outside)
    outside.attempts
  match answer with
  | some (.relayed rr) =>
      -- `my_addr.is_ipv4()` of the connection that has been made.
      let ipv4 ← orFail visit.connected
      onRelayed env session outside server ipv4 rr
  | some (.punched ph) =>
      let punched := onPunched session outside server ph
      if port punched.peer = 0 then bail "Failed to connect via rendezvous server"
      else do
        let connection ← connect env session outside punched
        return ⟨connection, ph.feedback, server, true⟩
  | none => bail "Failed to connect via rendezvous server"

end Starting

/-! ## Sessions that insist on a relay -/

/-- A session runs through a relay. -/
def Begun.IsRelayed (begun : Begun) : Prop :=
  (∃ relayServer, begun.connection.conn.route = .relay relayServer) ∧
    begun.connection.direct = false

/-- A session that insists on a relay runs through one, if it begins. -/
def ObeysForceRelay (env : Surroundings) (session : Session) (outside : Outside) : Prop :=
  session.forceRelay = true →
    ∀ begun, (startInner env session outside).outcome = .ok begun → begun.IsRelayed

/-- The first answer to one of the attempts, all of which are sent, is the response of
a relay. -/
def EndsRelayed (parse : ParseRendezvous) (rr : RelayResponse) : List Attempt → Prop
  | [] => False
  | attempt :: attempts =>
      attempt.sent = .ok () ∧
        match getNextNonkeyexchangeMsg parse attempt.reads with
        | some (.relayResponse other) => other = rr
        | some (.punchHoleResponse _) => False
        | _ => EndsRelayed parse rr attempts

/-- The server is reached and answers with the response of a relay. -/
def IsRelayRequested
    (env : Surroundings)
    (session : Session)
    (outside : Outside)
    (rr : RelayResponse) : Prop :=
  (∃ ipv4, (reachServer env session outside).2 = .ok ipv4) ∧
    (∃ socket, (env.secureForToken (startVisit env session outside) session.key session.token
      (env.connect (reachServer env session outside).1)).outcome = .ok socket) ∧
    EndsRelayed env.parse rr [outside.attempts 1, outside.attempts 2, outside.attempts 3]

/-- A stream through IPv6 is there before the relay, or the relay is not to be had. -/
def Ways.IsIpv6First (ways : Ways) : Prop :=
  (ways.ipv6 connectTimeoutMs).result = .ok () ∧
    ((∃ error, ways.relay.connected = .error error) ∨
      (∃ error, ways.relay.sent = .error error) ∨
      (ways.ipv6 connectTimeoutMs).finished ≤ ways.relayFinished)

/-- The handshake with the peer gets through. -/
def IsAccepted
    (env : Surroundings)
    (session : Session)
    (ways : Ways)
    (signedIdPk : Bytes) : Prop :=
  ∃ ended, (secureConnection env.crypto
    { peerId := session.peer
      signedIdPk := signedIdPk
      key := session.key
      boxKeyPair := ways.peerFresh.boxKeyPair
      sessionKey := ways.peerFresh.sessionKey }
    (.tcp .new) ways.peerWire).outcome = .ok ended

/-- A relay is requested with an IPv6 address of the peer, and the peer is reached
there before the relay. -/
def IsExposed (env : Surroundings) (session : Session) (outside : Outside) : Prop :=
  ∃ rr, IsRelayRequested env session outside rr ∧
    (v6OfRelayed outside rr).isSome ∧
    outside.ways.IsIpv6First ∧
    IsAccepted env session outside.ways rr.pk

section ForceRelay

variable
  {env : Surroundings}
  {session : Session}
  {outside : Outside}
  {socket : Socket}
  {request : PunchHoleRequest}

theorem send_ok_iff
    {message : RendezvousMessage}
    {result : Except IoError Unit}
    {done : Unit} :
    (send socket message result).outcome = .ok done ↔ result = .ok done := by
  rw [send, Traced.bind_of_ok rfl]
  exact orFail_ok_iff

/-- The attempts end with the response of a relay if it is their first answer. -/
theorem punch_relayed_iff {rr : RelayResponse} (attempts : List Attempt) :
    (punch env socket request attempts).outcome = .ok (some (.relayed rr)) ↔
      EndsRelayed env.parse rr attempts := by
  induction attempts with
  | nil => simp [punch, EndsRelayed]
  | cons attempt attempts ih =>
      rw [punch, Traced.bind_ok_iff, EndsRelayed]
      simp only [send_ok_iff, Unique.exists_iff]
      refine and_congr_right fun _ => ?_
      rcases getNextNonkeyexchangeMsg env.parse attempt.reads with _ | message
      · exact ih
      cases message with
      | relayResponse other => simp
      | punchHoleResponse ph =>
          refine iff_of_false ?_ id
          dsimp only
          split <;> simp [bail]
      | _ => exact ih

end ForceRelay

section Obedience

variable
  {env : Surroundings}
  {session : Session}
  {outside : Outside}
  {rr : RelayResponse}
  {ipv4 : Bool}

theorem requestPunchHole_relayed_iff :
    (requestPunchHole env (startVisit env session outside) (reachServer env session outside).1
        (punchRequest session outside) outside.attempts).outcome = .ok (some (.relayed rr)) ↔
      IsRelayRequested env session outside rr := by
  rw [requestPunchHole, Traced.bind_ok_iff]
  simp only [orFail_ok_iff, Traced.bind_ok_iff, withContext_ok_iff, punch_relayed_iff]
  rw [IsRelayRequested]
  simp only [← exists_and_right]
  rfl

/-- A handshake leaves the route of a stream as it is. -/
theorem route_of_secureLink
    {signedIdPk : Bytes}
    {ways : Ways}
    {link : Link}
    {ended : Option Bytes × Link}
    (through : (secureLink env session ways signedIdPk link).outcome = .ok ended) :
    ended.2.route = link.route := by
  unfold secureLink at through
  dsimp only at through
  split at through
  · cases through
    rfl
  · cases through

theorem exists_secureLink_iff
    {signedIdPk : Bytes}
    {ways : Ways}
    {route : Route} :
    (∃ ended, (secureLink env session ways signedIdPk ⟨route, .tcp .new⟩).outcome = .ok ended) ↔
      IsAccepted env session ways signedIdPk := by
  rw [IsAccepted, secureLink]
  dsimp only
  split
  · next pk stream accepted => exact iff_of_true ⟨_, rfl⟩ ⟨_, accepted⟩
  · next error refused => simp [refused]

/-- A relay is reached if its connection is made and the request sent. -/
theorem relayCall_error_iff :
    (∃ error, (relayCall env session outside ipv4 rr).outcome = .error error) ↔
      (∃ error, outside.ways.relay.connected = .error error) ∨
        ∃ error, outside.ways.relay.sent = .error error := by
  unfold relayCall createRelay send
  rcases outside.ways.relay with ⟨connected, sent⟩
  rcases connected with error | _
  · exact iff_of_true ⟨_, rfl⟩ (.inl ⟨error, rfl⟩)
  · rcases sent with error | _
    · exact iff_of_true ⟨_, rfl⟩ (.inr ⟨error, rfl⟩)
    · refine iff_of_false ?_ ?_
      · rintro ⟨error, failed⟩
        cases failed
      · rintro (⟨error, failed⟩ | ⟨error, failed⟩) <;> cases failed

theorem relayCall_ok
    {way : Way}
    (reached : (relayCall env session outside ipv4 rr).outcome = .ok way) :
    way.conn.route = .relay rr.relayServer ∧ (way.typ == "IPv6") = false := by
  obtain ⟨socket, -, isWay⟩ := Traced.bind_ok_iff.mp reached
  cases isWay
  refine ⟨rfl, ?_⟩
  dsimp only
  split <;> rfl

/-- The attempt through IPv6 is ahead of the relay if it is first. -/
theorem ahead_iff_isIpv6First {addr : SocketAddr} :
    (udpNatConnect (.ipv6 addr) "IPv6" (outside.ways.ipv6 connectTimeoutMs)).Ahead
        ⟨outside.ways.relayFinished, (relayCall env session outside ipv4 rr).outcome⟩ ↔
      outside.ways.IsIpv6First := by
  rw [Contender.Ahead, relayCall_error_iff, or_assoc, Ways.IsIpv6First]
  dsimp only [udpNatConnect]
  rcases (outside.ways.ipv6 connectTimeoutMs).result with error | _
  · simp [Except.map]
  · simp [Except.map]

/-- What is won without an address of the peer, or behind the relay, is the relay. -/
theorem relayedWay_ok
    {way : Way}
    (behind : ¬((v6OfRelayed outside rr).isSome ∧ outside.ways.IsIpv6First))
    (won : (relayedWay env session outside ipv4 rr).outcome = .ok way) :
    (relayCall env session outside ipv4 rr).outcome = .ok way := by
  unfold relayedWay at won
  dsimp only at won
  split at won
  · next addr isAddr =>
      rw [selectOk_pair] at won
      refine Contender.race_of_not_ahead (fun ahead => ?_) won
      exact behind ⟨by rw [isAddr]; rfl, ahead_iff_isIpv6First.mp ahead⟩
  · exact won

/-- A peer that is reached through IPv6 before the relay is reached directly. -/
theorem relayedWay_of_first
    {addr : SocketAddr}
    (isAddr : v6OfRelayed outside rr = some addr)
    (first : outside.ways.IsIpv6First) :
    (relayedWay env session outside ipv4 rr).outcome =
      .ok (directWay (.ipv6 addr) (some (.ipv6 addr)) "IPv6") := by
  unfold relayedWay
  dsimp only
  rw [isAddr]
  dsimp only
  rw [selectOk_pair, Contender.race_of_ahead (ahead_iff_isIpv6First.mpr first)]
  simp [udpNatConnect, first.1, Except.map]

/-- The response of a relay is obeyed unless the peer is reached through IPv6 first and
accepts the session. -/
theorem onRelayed_isRelayed_iff {server : Text} :
    (∀ begun, (onRelayed env session outside server ipv4 rr).outcome = .ok begun →
        begun.IsRelayed) ↔
      ¬((v6OfRelayed outside rr).isSome ∧ outside.ways.IsIpv6First ∧
        IsAccepted env session outside.ways rr.pk) := by
  constructor
  · rintro obeys ⟨given, first, accepted⟩
    obtain ⟨addr, isAddr⟩ := Option.isSome_iff_exists.mp given
    obtain ⟨ended, through⟩ := exists_secureLink_iff.mpr accepted
    have begins : (onRelayed env session outside server ipv4 rr).outcome =
        .ok ⟨⟨ended.2, true, ended.1, some (.ipv6 addr), "IPv6"⟩, rr.feedback, server,
          false⟩ :=
      Traced.bind_ok_iff.mpr ⟨_, relayedWay_of_first isAddr first,
        Traced.bind_ok_iff.mpr ⟨ended, through, rfl⟩⟩
    cases (obeys _ begins).2
  · intro guarded begun begins
    obtain ⟨way, won, rest⟩ := Traced.bind_ok_iff.mp begins
    obtain ⟨ended, through, isBegun⟩ := Traced.bind_ok_iff.mp rest
    cases isBegun
    by_cases exposed : (v6OfRelayed outside rr).isSome ∧ outside.ways.IsIpv6First
    · obtain ⟨addr, isAddr⟩ := Option.isSome_iff_exists.mp exposed.1
      rw [relayedWay_of_first isAddr exposed.2, Except.ok.injEq] at won
      subst won
      exact absurd ⟨exposed.1, exposed.2, exists_secureLink_iff.mp ⟨ended, through⟩⟩ guarded
    · obtain ⟨isRelay, notIpv6⟩ := relayCall_ok (relayedWay_ok exposed won)
      exact ⟨⟨rr.relayServer, (route_of_secureLink through).trans isRelay⟩, notIpv6⟩

/-- `connect` obeys. -/
theorem connect_isRelayed
    {punched : Punched}
    {connection : Connection}
    (forceRelay : session.forceRelay = true)
    (connected : (connect env session outside punched).outcome = .ok connection) :
    (∃ relayServer, connection.conn.route = .relay relayServer) ∧
      connection.direct = false := by
  unfold connect at connected
  dsimp only at connected
  obtain ⟨⟨conn, direct, typ⟩, chosen, rest⟩ := Traced.bind_ok_iff.mp connected
  obtain ⟨⟨pk, secured⟩, through, isConnection⟩ := Traced.bind_ok_iff.mp rest
  cases isConnection
  unfold orRequestRelay at chosen
  split at chosen
  · next notForced =>
      rw [forceRelay] at notForced
      cases notForced
  · split at chosen
    · obtain ⟨socket, -, isRelay⟩ := Traced.bind_ok_iff.mp chosen
      cases isRelay
      exact ⟨⟨punched.relayServer, route_of_secureLink through⟩, rfl⟩
    · cases chosen

/-- A session obeys exactly if it need not, or is not exposed. -/
theorem obeysForceRelay_iff :
    ObeysForceRelay env session outside ↔
      (session.forceRelay = true → ¬IsExposed env session outside) := by
  refine forall_congr' fun forceRelay => ?_
  constructor
  · rintro obeys ⟨rr, requested, exposed⟩
    obtain ⟨ipv4, connected⟩ := requested.1
    have relayed : ∀ begun,
        (onRelayed env session outside (reachServer env session outside).1 ipv4 rr).outcome =
          .ok begun → begun.IsRelayed := by
      intro begun begins
      apply obeys
      exact Traced.bind_ok_iff.mpr ⟨_, requestPunchHole_relayed_iff.mpr requested,
        Traced.bind_ok_iff.mpr ⟨ipv4, orFail_ok_iff.mpr connected, begins⟩⟩
    exact onRelayed_isRelayed_iff.mp relayed exposed
  · intro guarded begun begins
    obtain ⟨answer, answered, rest⟩ := Traced.bind_ok_iff.mp begins
    rcases answer with _ | ph | rr
    · cases rest
    · dsimp only at rest
      split at rest
      · cases rest
      · obtain ⟨connection, connected, isBegun⟩ := Traced.bind_ok_iff.mp rest
        cases isBegun
        exact connect_isRelayed forceRelay connected
    · obtain ⟨ipv4, -, relayed⟩ := Traced.bind_ok_iff.mp rest
      refine onRelayed_isRelayed_iff.mpr (fun exposed => guarded ?_) begun relayed
      exact ⟨rr, requestPunchHole_relayed_iff.mp answered, exposed⟩

end Obedience

/-- A response of a relay, with the IPv6 address `::` and port 1 of the peer. -/
def RelayResponse.withIpv6 : RelayResponse :=
  ⟨"uuid", "relay".toList, [], "", 0, List.replicate 16 0 ++ [1, 0]⟩

/-- Surroundings in which a server answers with it. -/
def Surroundings.relayed : Surroundings :=
  { Surroundings.transparent with parse := fun _ => some (.relayResponse .withIpv6) }

/-- A session that insists on a relay. -/
def Session.forced : Session where
  peer := "peer"
  key := ""
  token := ""
  connType := .defaultConn
  forceRelay := true
  directFailures := 0
  udp := none
  rendezvousServer := "server".toList
  servers := []
  version := "1"

/-- A network in which everything succeeds, the relay last. -/
def Outside.easy : Outside where
  reach := fun _ => .ok true
  fresh := Visit.unasked.fresh
  wire := Visit.unasked.wire
  myNatType := 0
  myNatTypeLater := 0
  ipv6 := some []
  attempts := fun _ => ⟨.ok (), [some (.ok [])]⟩
  connects := fun _ => true
  timeUsed := 0
  ways :=
    { tcp := fun _ => ⟨0, .ok ()⟩
      udp := fun _ => ⟨0, .ok ()⟩
      ipv6 := fun _ => ⟨0, .ok ()⟩
      relayFinished := 1
      relay := ⟨.ok (), .ok ()⟩
      relayAttempts := fun _ => ⟨.unasked, "uuid", ⟨.ok (), []⟩⟩
      relayRequested := ⟨.ok (), .ok ()⟩
      peerFresh := Visit.unasked.fresh
      peerWire := Visit.unasked.wire }

/-- A session that insists on a relay runs through IPv6. -/
theorem forced_session_through_ipv6 :
    ¬ObeysForceRelay .relayed .forced .easy := by
  intro obeys
  have begins : ∃ begun, (startInner .relayed .forced .easy).outcome = .ok begun ∧
      begun.connection.direct = true :=
    ⟨_, rfl, rfl⟩
  obtain ⟨begun, begins, direct⟩ := begins
  rw [(obeys rfl begun begins).2] at direct
  cases direct

end Client
end OneDesk
