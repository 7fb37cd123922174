import OneDesk.Common.SocketClient
import OneDesk.Server.Handshake

/-!
# The endpoint of a connection

`connect_tcp` makes a WebSocket of an endpoint that `check_ws` turns into one, and
a TCP stream of any other.  Only the endpoints of `wss://` are reached through TLS.
-/

namespace OneDesk
namespace Stream

open OneDesk.Common OneDesk.Lib

/-- `config::RENDEZVOUS_PORT`. -/
def rendezvousPort : Int32 := 21116

/-- `config::RELAY_PORT`. -/
def relayPort : Int32 := 21117

/-- A range of characters. -/
def between (low high : Char) : Regex Char :=
  .one fun char => low ≤ char && char ≤ high

/-- `25[0-5]|2[0-4][0-9]|[01]?[0-9][0-9]?` -/
def octet : Regex Char :=
  .either (.seq (exactly '2') (.seq (exactly '5') (between '0' '5')))
    (.either (.seq (exactly '2') (.seq (between '0' '4') (between '0' '9')))
      (.seq (.either .empty (between '0' '1'))
        (.seq (between '0' '9') (.either .empty (between '0' '9')))))

/-- The pattern of `is_ipv4_str`. -/
def ipv4 (numbers : DecimalNumbers) : Regex Char :=
  .seq octet (.seq (exactly '.') (.seq octet (.seq (exactly '.')
    (.seq octet (.seq (exactly '.') (.seq octet
      (.either .empty (.seq (exactly ':') (.oneOrMore (.one numbers.accepts))))))))))

/-- The options that decide whether a connection is made over a WebSocket. -/
structure WsOptions where
  /-- `use_ws` -/
  useWs : Bool
  /-- `Config::get_rendezvous_server` -/
  rendezvousServer : Text
  /-- `OPTION_RELAY_SERVER` -/
  relayServer : Text
  /-- `"api-server"` -/
  apiServer : Text

/-- What a connection is made to, and the stream over it. -/
structure Socket where
  endpoint : Text
  stream : AnyStream SessionKey
  deriving DecidableEq

section Connecting

variable (numbers : DecimalNumbers)

/-- `is_ipv4_str` -/
def isIpv4Str (id : Text) : Bool :=
  (ipv4 numbers).isMatch id

/-- `is_ip_str` -/
def isIpStr (id : Text) : Bool :=
  isIpv4Str numbers id || isIpv6Str numbers id

/-- `ipv4_to_ipv6` -/
def ipv4ToIpv6 (addr : Text) (ipv4 : Bool) : Text :=
  if !ipv4 && isIpv4Str numbers addr then
    -- Four numbers with dots occur once before a port.
    addr.takeWhile (· != ':') ++ ".nip.io".toList ++ addr.dropWhile (· != ':')
  else addr

/-- `is_ws_endpoint` -/
def isWsEndpoint (endpoint : Text) : Bool :=
  "ws://".toList <+: endpoint || "wss://".toList <+: endpoint

variable (options : WsOptions)

/-- Whether an endpoint is one of a relay, and the port of its WebSocket. -/
def wsPort (endpointPort : Int32) : Bool × Int32 :=
  let rendezvousPort :=
    ((splitHostPort numbers options.rendezvousServer).map (·.2)).getD rendezvousPort
  let relayPort := ((splitHostPort numbers options.relayServer).map (·.2)).getD relayPort
  if endpointPort = rendezvousPort then (false, endpointPort + 2)
  else if endpointPort = rendezvousPort - 1 then (false, endpointPort + 3)
  else if endpointPort = relayPort ∨ endpointPort = rendezvousPort + 1 then
    (true, endpointPort + 2)
  else (true, endpointPort + 2)

/-- `check_ws` -/
def checkWs (endpoint : Text) : Text :=
  if !options.useWs then endpoint
  else if endpoint = [] then endpoint
  else if isWsEndpoint endpoint then endpoint
  else
    match splitHostPort numbers endpoint with
    | none => endpoint
    | some (endpointHost, endpointPort) =>
        let (relay, dstPort) := wsPort numbers options endpointPort
        let (address, isDomain) :=
          if isIpStr numbers endpoint then
            (endpointHost ++ ':' :: i32Text dstPort, false)
          else
            (endpointHost ++ (if relay then "/ws/relay" else "/ws/id").toList, true)
        let protocol :=
          if isDomain then
            if "https".toList <+: options.apiServer then "wss" else "ws"
          else "ws"
        protocol.toList ++ "://".toList ++ address

/-- `connect_tcp`, when the connection can be made. -/
def connectTcp (target : Text) : Socket :=
  let targetStr := checkWs numbers options target
  if isWsEndpoint targetStr then ⟨targetStr, .webSocket .new⟩
  else ⟨target, .tcp .new⟩

end Connecting

namespace Socket

/-- Whether a stream is one over a WebSocket. -/
def isWebSocket (socket : Socket) : Bool :=
  match socket.stream with
  | .webSocket _ => true
  | .tcp _ => false

/-- Whether a stream is one through TLS. -/
def isTls (socket : Socket) : Bool :=
  socket.isWebSocket && "wss://".toList <+: socket.endpoint

/-- Whether what is sent is encrypted on its way. -/
def isEncrypted (socket : Socket) : Bool :=
  socket.stream.encrypt.isSome || socket.isTls

/-- `Stream::set_key` -/
def setKey (socket : Socket) (key : SessionKey) : Socket :=
  { socket with stream := socket.stream.setKey key }

theorem isEncrypted_setKey (socket : Socket) (key : SessionKey) :
    (socket.setKey key).isEncrypted = true := by
  simp [isEncrypted, setKey]

theorem isWebSocket_of_isTls {socket : Socket} (isTls : socket.isTls = true) :
    socket.isWebSocket = true :=
  (Bool.and_eq_true_iff.mp isTls).1

end Socket

variable {numbers : DecimalNumbers} {options : WsOptions}

/-- A connection has no key before a handshake. -/
theorem encrypt_connectTcp (target : Text) :
    (connectTcp numbers options target).stream.encrypt = none := by
  unfold connectTcp
  dsimp only
  split <;> rfl

theorem isEncrypted_connectTcp (target : Text) :
    (connectTcp numbers options target).isEncrypted =
      (connectTcp numbers options target).isTls := by
  rw [Socket.isEncrypted, encrypt_connectTcp]
  rfl

/-- TLS is for the endpoints that `check_ws` leaves or makes `wss://`. -/
theorem isTls_connectTcp_iff (target : Text) :
    (connectTcp numbers options target).isTls = true ↔
      "wss://".toList <+: checkWs numbers options target := by
  unfold connectTcp
  dsimp only
  split
  · rw [Socket.isTls, Socket.isWebSocket, Bool.true_and]
    exact decide_eq_true_iff
  · next plain =>
      constructor
      · intro isTls
        cases isTls
      · intro isWss
        exact absurd (Bool.or_eq_true_iff.mpr (.inr (decide_eq_true isWss))) plain

end Stream
end OneDesk
