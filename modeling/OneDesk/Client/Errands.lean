import OneDesk.Client.SecureTcp

/-!
# Errands to a rendezvous server

A client shows its access token to a rendezvous server on three errands: to have a
hole punched, to request a relay and to keep a health check up.  Each makes a
connection, has it secured for the sake of the token and then sends the token over
it.
-/

namespace OneDesk
namespace Client

open OneDesk.Common OneDesk.Lib OneDesk.Stream
open OneDesk.Server hiding SessionKey

/-- What the network makes of a connection to a rendezvous server. -/
structure Visit where
  /-- `connect_tcp`, and whether the local address is an IPv4 one. -/
  connected : Except IoError Bool
  fresh : Fresh
  wire : ClientWire

/-- What becomes of a message to a rendezvous server: whether it is sent, and what
is read after it. -/
structure Attempt where
  sent : Except IoError Unit
  reads : List (Option (Except IoError Bytes))

/-- An attempt to request a relay: its connection, its `Uuid::new_v4` and its
message. -/
structure RelayAttempt where
  visit : Visit
  uuid : String
  message : Attempt

/-- What a connection of `create_relay` comes to. -/
structure RelayWire where
  connected : Except IoError Unit
  sent : Except IoError Unit

/-- What ends the attempts to have a hole punched. -/
inductive PunchAnswer
  | punched (ph : PunchHoleResponse)
  | relayed (rr : RelayResponse)
  deriving DecidableEq

/-- What a client does not decide in the calls of this module. -/
structure Surroundings where
  crypto : KeyExchange
  parse : ParseRendezvous
  numbers : DecimalNumbers
  options : WsOptions

/-- `get_key` with the key in the name of the program on Windows. -/
def getKey (license : Option String) (option : String) : String :=
  match license.filter (· ≠ "") with
  | some key => key
  | none => if option = "" then rsPubKey else option

/-- The error a peer that cannot be reached is reported with. -/
def punchHoleError (ph : PunchHoleResponse) : String :=
  if ph.otherFailure ≠ "" then ph.otherFailure
  else
    match ph.failure with
    | some .idNotExist => "ID does not exist"
    | some .offline => "Remote desktop is offline"
    | some .licenseMismatch => "Key mismatch"
    | some .licenseOveruse => "Key overuse"
    | none => "other punch hole failure"

section Calls

variable (env : Surroundings)

/-- `connect_tcp` on a text. -/
def Surroundings.connect (target : Text) : Socket :=
  connectTcp env.numbers env.options target

/-- `secure_tcp` on the connection of a visit. -/
def Surroundings.secure (visit : Visit) (key : String) (socket : Socket) : Call Socket :=
  secureTcp env.crypto env.parse env.options.useWs visit.fresh visit.wire key socket

/-- Mainly for the security of the token. -/
def Surroundings.secureForToken
    (visit : Visit)
    (key token : String)
    (socket : Socket) :
    Call Socket :=
  if key ≠ "" ∧ token ≠ "" then env.secure visit key socket
  else return socket

/-- The attempts of `_start_inner` to have a hole punched. -/
def punch (socket : Socket) (request : PunchHoleRequest) :
    List Attempt → Call (Option PunchAnswer)
  | [] => return none
  | attempt :: attempts => do
      send socket (.punchHoleRequest request) attempt.sent
      match getNextNonkeyexchangeMsg env.parse attempt.reads with
      | some (.punchHoleResponse ph) =>
          if ph.socketAddr = [] then bail (punchHoleError ph)
          else return some (.punched ph)
      | some (.relayResponse rr) => return some (.relayed rr)
      -- "Unexpected protobuf msg received", or nothing in time.
      | _ => punch socket request attempts

/-- `_start_inner` from its connection to the end of its three attempts. -/
def requestPunchHole
    (visit : Visit)
    (target : Text)
    (request : PunchHoleRequest)
    (attempts : Nat → Attempt) :
    Call (Option PunchAnswer) := do
  let _ ← orFail visit.connected
  let socket ← withContext "Failed to secure tcp"
    (env.secureForToken visit request.licenceKey request.token (env.connect target))
  punch env socket request [attempts 1, attempts 2, attempts 3]

/-- What a client asks a relay for. -/
structure RelayOrder where
  peer : String
  relayServer : Text
  rendezvousServer : Text
  secure : Bool
  key : String
  token : String
  connType : ConnType

/-- One of the attempts of `request_relay`: if it succeeds, the id it has used and
whether its local address is an IPv4 one. -/
def requestRelayAttempt (order : RelayOrder) (attempt : RelayAttempt) :
    Call (Option (String × Bool)) := do
  let ipv4 ← withContext "Failed to connect to rendezvous server"
    (orFail attempt.visit.connected)
  let socket ← env.secureForToken attempt.visit order.key order.token
    (env.connect order.rendezvousServer)
  send socket
    (.requestRelay
      { id := order.peer
        uuid := attempt.uuid
        relayServer := order.relayServer
        secure := order.secure
        licenceKey := ""
        connType := .defaultConn
        token := order.token })
    attempt.message.sent
  match getNextNonkeyexchangeMsg env.parse attempt.message.reads with
  | some (.relayResponse rs) =>
      if rs.refuseReason ≠ "" then bail rs.refuseReason
      else return some (attempt.uuid, ipv4)
  | _ => return none

/-- The attempts of `request_relay` up to the one that succeeds. -/
def relayAttempts (order : RelayOrder) : List RelayAttempt → Call (String × Bool)
  | [] => bail "Timeout"
  | attempt :: attempts => do
      match ← requestRelayAttempt env order attempt with
      | some succeeded => return succeeded
      | none => relayAttempts order attempts

/-- `create_relay` -/
def createRelay
    (peer uuid : String)
    (relayServer : Text)
    (key : String)
    (connType : ConnType)
    (ipv4 : Bool)
    (wire : RelayWire) :
    Call Socket := do
  withContext "Failed to connect to relay server" (orFail wire.connected)
  let conn := env.connect
    (ipv4ToIpv6 env.numbers (checkPort env.numbers relayServer relayPort) ipv4)
  send conn
    (.requestRelay
      { id := peer
        uuid := uuid
        relayServer := []
        secure := false
        licenceKey := key
        connType := connType
        token := "" })
    wire.sent
  return conn

/-- `request_relay` -/
def requestRelay
    (order : RelayOrder)
    (attempts : Nat → RelayAttempt)
    (wire : RelayWire) :
    Call Socket := do
  let (uuid, ipv4) ← relayAttempts env order [attempts 1, attempts 2, attempts 3]
  createRelay env order.peer uuid order.relayServer order.key order.connType ipv4 wire

/-- What a client keeps a health check up with. -/
structure HealthCheck where
  feedback : Int
  rendezvousServer : Text
  token : String
  /-- The key in the name of the program, on Windows. -/
  license : Option String
  /-- The option `"key"`. -/
  optionKey : String

/-- `hc_connection_` up to its loop, which sends no token. -/
def hcConnectionInner (check : HealthCheck) (visit : Visit) (sent : Except IoError Unit) :
    Call Unit := do
  let host := checkPort env.numbers check.rendezvousServer rendezvousPort
  let _ ← orFail visit.connected
  let conn ← env.secure visit (getKey check.license check.optionKey) (env.connect host)
  send conn (.hc check.token) sent

/-- `hc_connection` -/
def hcConnection (check : HealthCheck) (visit : Visit) (sent : Except IoError Unit) :
    Call Unit :=
  if check.feedback = 0 ∨ check.rendezvousServer = [] ∨ check.token = "" then return ()
  else hcConnectionInner env check visit sent

end Calls

/-! ## Errands -/

/-- An errand on which a token is shown, with what the network makes of what is sent
after the handshake. -/
inductive Errand
  | punchHole (target : Text) (request : PunchHoleRequest) (attempts : Nat → Attempt)
  | requestRelay (order : RelayOrder) (uuid : String) (message : Attempt)
  | healthCheck (check : HealthCheck) (sent : Except IoError Unit)

namespace Errand

/-- What an errand sends to a rendezvous server. -/
def run (env : Surroundings) (visit : Visit) : Errand → Call Unit
  | punchHole target request attempts => do
      let _ ← requestPunchHole env visit target request attempts
  | requestRelay order uuid message => do
      let _ ← requestRelayAttempt env order ⟨visit, uuid, message⟩
  | healthCheck check sent => hcConnection env check visit sent

/-- The token an errand shows. -/
def token : Errand → String
  | punchHole _ request _ => request.token
  | requestRelay order _ _ => order.token
  | healthCheck check _ => check.token

/-- The configured key of the server. -/
def key : Errand → String
  | punchHole _ request _ => request.licenceKey
  | requestRelay order _ _ => order.key
  | healthCheck check _ => getKey check.license check.optionKey

/-- What an errand makes its connection to. -/
def target (env : Surroundings) : Errand → Text
  | punchHole target _ _ => target
  | requestRelay order _ _ => order.rendezvousServer
  | healthCheck check _ => checkPort env.numbers check.rendezvousServer rendezvousPort

/-- Nothing is to be sent, or no token with it. -/
def IsIdle : Errand → Prop
  | punchHole _ request _ => request.token = ""
  | requestRelay order _ _ => order.token = ""
  | healthCheck check _ =>
      check.feedback = 0 ∨ check.rendezvousServer = [] ∨ check.token = ""

/-- Whether an errand comes to call `secure_tcp`. -/
def Secures (visit : Visit) (errand : Errand) : Prop :=
  ¬errand.IsIdle ∧ errand.key ≠ "" ∧ ∃ ipv4, visit.connected = .ok ipv4

end Errand

/-- A token is sent encrypted. -/
def TokenSafe (sent : Sent) : Prop :=
  sent.message.token = "" ∨ sent.socket.isEncrypted = true

/-- Each call of `secure_tcp` that gets through on a stream that is no WebSocket
secures it, and the token is sent encrypted or not at all. -/
def Errand.IsSafe (env : Surroundings) (visit : Visit) (errand : Errand) : Prop :=
  (errand.Secures visit → ∀ secured,
    (env.secure visit errand.key (env.connect (errand.target env))).outcome = .ok secured →
    (env.connect (errand.target env)).isWebSocket = false →
      IsSecured env.crypto env.parse visit.fresh visit.wire errand.key
        (env.connect (errand.target env))
        (env.secure visit errand.key (env.connect (errand.target env))) secured) ∧
    (errand.run env visit).All TokenSafe

/-- What goes over a connection cannot be read on its way: nothing does, or all goes
through TLS, or the handshake is led to a key or an error. -/
def Visit.IsGuarded (env : Surroundings) (visit : Visit) (key : String) (target : Text) :
    Prop :=
  (∃ error, visit.connected = .error error) ∨
    "wss://".toList <+: checkWs env.numbers env.options target ∨
    (key ≠ "" ∧ env.options.useWs = false ∧
      Conclusive env.crypto env.parse visit.wire key)

/-- An errand has no token to show, or its connection is guarded. -/
def Errand.IsGuarded (env : Surroundings) (visit : Visit) (errand : Errand) : Prop :=
  errand.IsIdle ∨ visit.IsGuarded env errand.key (errand.target env)

/-! ## What is sent -/

section Sending

variable
  {α β : Type}
  {env : Surroundings}
  {visit : Visit}
  {allowed : Sent → Prop}

@[simp] theorem all_withContext {text : String} {call : Call α} :
    (withContext text call).All allowed ↔ call.All allowed :=
  Iff.rfl

theorem withContext_ok_iff {text : String} {call : Call α} {value : α} :
    (withContext text call).outcome = .ok value ↔ call.outcome = .ok value := by
  rcases ended : call.outcome with error | result <;> simp [withContext, ended]

@[simp] theorem all_orFail (result : Except IoError α) :
    (orFail result : Call α).All allowed := by
  cases result with
  | ok value => exact Traced.all_lift _
  | error error => exact Traced.all_fail _

theorem orFail_ok_iff {result : Except IoError α} {value : α} :
    (orFail result : Call α).outcome = .ok value ↔ result = .ok value := by
  cases result <;> simp [orFail]

/-- What follows on a result of the network is sent if there is one. -/
theorem all_orFail_bind {result : Except IoError α} {next : α → Call β} :
    (orFail result >>= next).All allowed ↔
      ∀ value, result = .ok value → (next value).All allowed := by
  simp [Traced.all_bind, orFail_ok_iff]

theorem all_withContext_bind {text : String} {call : Call α} {next : α → Call β} :
    (withContext text call >>= next).All allowed ↔ (call >>= next).All allowed := by
  simp only [Traced.all_bind, withContext_ok_iff, all_withContext]

theorem all_bind_pure {call : Call α} {value : β} :
    (call >>= fun _ => pure value).All allowed ↔ call.All allowed := by
  simp [Traced.all_bind]

theorem send_all {socket : Socket} {message : RendezvousMessage}
    {result : Except IoError Unit} :
    (send socket message result).All allowed ↔ allowed ⟨socket, message⟩ := by
  simp [send, Traced.all_bind]

theorem secure_all {key : String} {socket : Socket} :
    (env.secure visit key socket).All TokenSafe :=
  fun sent member => .inl (secureTcp_all sent member)

variable {socket : Socket} {request : PunchHoleRequest}

/-- The attempts to have a hole punched all send one request over one stream. -/
theorem punch_all_of_safe
    (safe : TokenSafe ⟨socket, .punchHoleRequest request⟩)
    (attempts : List Attempt) :
    (punch env socket request attempts).All TokenSafe := by
  induction attempts with
  | nil => exact Traced.all_pure _
  | cons attempt attempts ih =>
      refine Traced.all_bind.mpr ⟨send_all.mpr safe, fun _ _ => ?_⟩
      split
      · split
        · exact Traced.all_fail _
        · exact Traced.all_pure _
      · exact Traced.all_pure _
      · exact ih

theorem punch_all_iff {attempt : Attempt} {attempts : List Attempt} :
    (punch env socket request (attempt :: attempts)).All TokenSafe ↔
      request.token = "" ∨ socket.isEncrypted = true := by
  constructor
  · intro all
    exact send_all.mp (Traced.all_bind.mp all).1
  · intro safe
    exact punch_all_of_safe safe _

/-- What is sent after the handshake is safe exactly if there is no token to show, or
the connection is guarded. -/
theorem opening_all_iff
    {key token : String}
    {target : Text}
    {tell : Bool → Socket → Call α}
    (tells : ∀ ipv4 socket,
      (tell ipv4 socket).All TokenSafe ↔ token = "" ∨ socket.isEncrypted = true) :
    (do
        let ipv4 ← orFail visit.connected
        let socket ← env.secureForToken visit key token (env.connect target)
        tell ipv4 socket).All TokenSafe ↔
      token = "" ∨ visit.IsGuarded env key target := by
  rw [all_orFail_bind, Visit.IsGuarded, ← isTls_connectTcp_iff, ← Surroundings.connect]
  have connected : (env.connect target).isEncrypted = (env.connect target).isTls :=
    isEncrypted_connectTcp target
  rcases made : visit.connected with error | ipv4
  · exact iff_of_true (fun _ same => by cases same) (.inr (.inl ⟨error, rfl⟩))
  simp only [Except.ok.injEq, forall_eq', reduceCtorEq, exists_false, false_or]
  by_cases secures : key ≠ "" ∧ token ≠ ""
  · rw [Surroundings.secureForToken, if_pos secures]
    by_cases guarded : env.options.useWs = false ∧
        Conclusive env.crypto env.parse visit.wire key
    · refine iff_of_true ?_ (.inr (.inr ⟨secures.1, guarded⟩))
      refine Traced.all_bind.mpr ⟨secure_all, fun secured through => ?_⟩
      rw [Surroundings.secure, guarded.1] at through
      obtain ⟨_, _, _, _, _, _, _, _, _, keyed⟩ :=
        isSecured_of_conclusive guarded.2 through
      exact (tells ipv4 secured).mpr (.inr (keyed ▸ Socket.isEncrypted_setKey _ _))
    · have unguarded : env.options.useWs = true ∨
          ¬Conclusive env.crypto env.parse visit.wire key := by
        by_cases useWs : env.options.useWs = true
        · exact .inl useWs
        · exact .inr fun conclusive => guarded ⟨by simpa using useWs, conclusive⟩
      rw [Surroundings.secure, secureTcp_of_not_conclusive unguarded,
        Traced.bind_of_ok rfl]
      show (tell ipv4 (env.connect target)).All TokenSafe ↔ _
      rw [tells, connected]
      tauto
  · rw [Surroundings.secureForToken, if_neg secures]
    show (tell ipv4 (env.connect target)).All TokenSafe ↔ _
    rw [tells, connected]
    tauto

end Sending

section Safety

variable {env : Surroundings} {visit : Visit} {errand : Errand}

theorem requestPunchHole_all_iff
    {target : Text}
    {request : PunchHoleRequest}
    {attempts : Nat → Attempt} :
    (requestPunchHole env visit target request attempts).All TokenSafe ↔
      request.token = "" ∨ visit.IsGuarded env request.licenceKey target := by
  have tells : ∀ (_ : Bool) socket,
      (punch env socket request [attempts 1, attempts 2, attempts 3]).All TokenSafe ↔
        request.token = "" ∨ socket.isEncrypted = true :=
    fun _ _ => punch_all_iff
  rw [← opening_all_iff tells]
  simp only [requestPunchHole, all_orFail_bind, all_withContext_bind]

theorem requestRelayAttempt_all_iff {order : RelayOrder} {attempt : RelayAttempt} :
    (requestRelayAttempt env order attempt).All TokenSafe ↔
      order.token = "" ∨ attempt.visit.IsGuarded env order.key order.rendezvousServer := by
  rw [requestRelayAttempt, all_withContext_bind]
  refine opening_all_iff fun ipv4 socket => ?_
  rw [Traced.all_bind, send_all]
  refine and_iff_left fun _ _ => ?_
  split
  · split
    · exact Traced.all_fail _
    · exact Traced.all_pure _
  · exact Traced.all_pure _

theorem getKey_ne_empty (license : Option String) (option : String) :
    getKey license option ≠ "" := by
  unfold getKey
  split
  · next key given =>
      simpa using (Option.mem_filter_iff.mp given).2
  · split
    · decide
    · assumption

theorem hcConnection_all_iff {check : HealthCheck} {sent : Except IoError Unit} :
    (hcConnection env check visit sent).All TokenSafe ↔
      (check.feedback = 0 ∨ check.rendezvousServer = [] ∨ check.token = "") ∨
        visit.IsGuarded env (getKey check.license check.optionKey)
          (checkPort env.numbers check.rendezvousServer rendezvousPort) := by
  rw [hcConnection]
  split
  · next idle => exact iff_of_true (Traced.all_pure _) (.inl idle)
  · next busy =>
      have hasToken : check.token ≠ "" := fun none => busy (.inr (.inr none))
      have secures : getKey check.license check.optionKey ≠ "" ∧ check.token ≠ "" :=
        ⟨getKey_ne_empty _ _, hasToken⟩
      have tells : ∀ (_ : Bool) conn,
          (send conn (.hc check.token) sent).All TokenSafe ↔
            check.token = "" ∨ conn.isEncrypted = true :=
        fun _ _ => send_all
      rw [or_iff_right busy]
      refine Iff.trans ?_ (or_iff_right hasToken)
      rw [← opening_all_iff tells]
      simp only [Surroundings.secureForToken, if_pos secures]
      exact Iff.rfl

/-- What an errand sends is safe exactly if the errand is guarded. -/
theorem Errand.run_all_iff :
    (errand.run env visit).All TokenSafe ↔ errand.IsGuarded env visit := by
  cases errand with
  | punchHole target request attempts =>
      rw [run, all_bind_pure]
      exact requestPunchHole_all_iff
  | requestRelay order uuid message =>
      rw [run, all_bind_pure]
      exact requestRelayAttempt_all_iff
  | healthCheck check sent => exact hcConnection_all_iff

/-- A token is safe exactly on an errand that is guarded. -/
theorem Errand.isSafe_iff_isGuarded :
    errand.IsSafe env visit ↔ errand.IsGuarded env visit := by
  rw [IsSafe, run_all_iff]
  refine and_iff_right_of_imp fun guarded secures => ?_
  obtain ⟨busy, _, ipv4, connected⟩ := secures
  refine secureTcp_secures_iff.mpr ?_
  rcases guarded with idle | ⟨error, failed⟩ | tls | ⟨_, handshake⟩
  · exact absurd idle busy
  · rw [connected] at failed
    cases failed
  · exact .inl (Socket.isWebSocket_of_isTls ((isTls_connectTcp_iff _).mpr tls))
  · exact .inr handshake

end Safety

/-- An exchange whose messages are nothing but their kind. -/
def Surroundings.transparent : Surroundings where
  crypto := .transparent
  parse := fun _ => some .other
  numbers := asciiDigits
  options := ⟨false, [], [], []⟩

/-- A server that begins with a message that is no key exchange. -/
def Visit.unasked : Visit where
  connected := .ok true
  fresh := ⟨([], []), Caller.zero.sessionKey⟩
  wire := ⟨some (some (.ok [])), .ok (), true⟩

/-- The token of a health check goes out in the open. -/
theorem healthCheck_after_other_message :
    ¬Errand.IsSafe .transparent .unasked
      (.healthCheck ⟨1, "server".toList, "token", none, ""⟩ (.ok ())) := by
  intro safe
  rcases safe.2 _ (List.mem_singleton.mpr rfl) with noToken | encrypted
  · exact absurd noToken (by decide)
  · exact absurd encrypted (by decide)

/-! ## Whole calls -/

section WholeCalls

variable {env : Surroundings} {order : RelayOrder}

/-- Attempts that are all guarded show no token that can be read. -/
theorem relayAttempts_all
    (attempts : List RelayAttempt)
    (guarded : ∀ attempt ∈ attempts, order.token = "" ∨
      attempt.visit.IsGuarded env order.key order.rendezvousServer) :
    (relayAttempts env order attempts).All TokenSafe := by
  induction attempts with
  | nil => exact Traced.all_fail _
  | cons attempt attempts ih =>
      rw [List.forall_mem_cons] at guarded
      refine Traced.all_bind.mpr ⟨requestRelayAttempt_all_iff.mpr guarded.1, fun answer _ => ?_⟩
      cases answer with
      | some succeeded => exact Traced.all_pure _
      | none => exact ih guarded.2

theorem createRelay_all
    {peer uuid key : String}
    {relayServer : Text}
    {connType : ConnType}
    {ipv4 : Bool}
    {wire : RelayWire} :
    (createRelay env peer uuid relayServer key connType ipv4 wire).All TokenSafe := by
  rw [createRelay, all_withContext_bind, all_orFail_bind]
  intro _ _
  exact Traced.all_bind.mpr ⟨send_all.mpr (.inl rfl), fun _ _ => Traced.all_pure _⟩

/-- A whole request for a relay, whose attempts are all guarded, shows no token that
can be read. -/
theorem requestRelay_all
    {attempts : Nat → RelayAttempt}
    {wire : RelayWire}
    (guarded : ∀ count, order.token = "" ∨
      (attempts count).visit.IsGuarded env order.key order.rendezvousServer) :
    (requestRelay env order attempts wire).All TokenSafe := by
  refine Traced.all_bind.mpr ⟨relayAttempts_all _ ?_, fun _ _ => createRelay_all⟩
  simp [guarded]

end WholeCalls

end Client
end OneDesk
