import OneDesk.Server.LoginMove

/-!
# Who may use a tunnel

A port forwarding login connects its target before anything is checked, and
the relay loop is entered after the main loop whatever ended it.  The relay
loop belongs to an authorized port forwarding connection as long as no request
is turned away while a target is connected, and no connection asks for a file
transfer and for a target at once.
-/

namespace OneDesk
namespace Server

open OneDesk.Lib OneDesk.Stream OneDesk.Common

namespace LoginState

/-- An authorized connection is recorded under the kind it asked for. -/
def Recorded (login : LoginState) : Prop :=
  login.authorized = true → login.authedConnId = some login.authConnType

theorem recorded_granted (login : LoginState) : login.granted.Recorded :=
  fun _ => rfl

/-- A connected target makes a port forwarding unless a file transfer was asked
for, too. -/
theorem authConnType_of_socket
    {login : LoginState}
    {address : String}
    (exclusive : login.fileTransfer = none ∨ login.portForwardSocket = none)
    (socket : login.portForwardSocket = some address) :
    login.authConnType = .portForward := by
  rcases exclusive with noFile | noSocket
  · simp [authConnType, noFile, socket]
  · rw [socket] at noSocket
    cases noSocket

end LoginState

namespace World

/-- No login request is turned away while a target is connected, and none
leaves a connection with a file transfer and a connected target. -/
def NoStrayTarget (world : World) (input : Input) : Prop :=
  match input.event with
  | .received (some (.ok ⟨_, some (.loginRequest lr)⟩)) =>
      world.phase = .running → world.conn.authorized = false →
        let asked := world.conn.asking input.env lr
        (lr.turnedAway input.env world.conn.terminalUserToken = true →
          asked.portForwardSocket = none) ∧
        (asked.fileTransfer = none ∨ asked.portForwardSocket = none)
  | _ => True

/-- What holds of the login of a running connection. -/
structure TunnelLogin (login : LoginState) : Prop where
  opened : login.closed = false
  recorded : login.Recorded
  exclusive : login.fileTransfer = none ∨ login.portForwardSocket = none

/-- What holds of a connection in each phase. -/
structure TunnelInvariant (world : World) : Prop where
  running : world.phase = .running → TunnelLogin world.conn.toLoginState
  relaying : ∀ address, world.phase = .relaying address →
    world.conn.authorized = true ∧ world.conn.authedConnId = some .portForward

namespace TunnelLogin

variable {login : LoginState}

theorem logon (holds : TunnelLogin login) (missing : Bool) :
    TunnelLogin (login.logon missing) := by
  unfold LoginState.logon
  split
  · exact holds
  · exact ⟨holds.opened, login.recorded_granted, holds.exclusive⟩

theorem unlocked (holds : TunnelLogin login) : TunnelLogin login.unlocked :=
  ⟨holds.opened, holds.recorded, holds.exclusive⟩

theorem switched (holds : TunnelLogin login) : TunnelLogin login.switched :=
  ⟨holds.opened, holds.recorded, holds.exclusive⟩

/-- Storing a request changes nothing that matters for tunnels. -/
theorem storing
    (env : Env)
    {world : World}
    (lr : LoginRequest)
    (holds : TunnelLogin world.conn.toLoginState) :
    TunnelLogin (World.storing env world lr) :=
  ⟨holds.opened, holds.recorded, holds.exclusive⟩

/-- A request of a connection that is not authorized. -/
theorem asking
    (env : Env)
    {world : World}
    (lr : LoginRequest)
    (holds : TunnelLogin world.conn.toLoginState)
    (unauthorized : world.conn.authorized = false)
    (exclusive : (world.conn.asking env lr).fileTransfer = none ∨
      (world.conn.asking env lr).portForwardSocket = none) :
    TunnelLogin (world.asking env lr).conn.toLoginState := by
  have same := LoginState.asking_authorized world.conn.toLoginState env lr
  obtain ⟨require2fa, asked⟩ := asking_login env world lr
  rw [asked]
  refine ⟨?_, ?_, exclusive⟩
  · exact (LoginState.asking_closed _ env lr).trans holds.opened
  · intro authorized
    rw [unauthorized] at same
    rw [show (world.conn.asking env lr).authorized = true from authorized] at same
    cases same

/-- A move that does not close the connection keeps what holds of its login. -/
theorem move
    {world : World}
    {input : Input}
    (holds : TunnelLogin world.conn.toLoginState)
    (running : world.phase = .running)
    (noStray : NoStrayTarget world input)
    (moved : Move input.env world.cleared input.event login)
    (opened : login.closed = false) :
    TunnelLogin login := by
  unfold NoStrayTarget at noStray
  generalize input.event = event at moved noStray
  cases moved with
  | keeps => exact holds
  | hangsUp =>
      rw [LoginState.hungUp_closed] at opened
      cases opened
  | authorizes => exact TunnelLogin.logon (unlocked holds) false
  | message moved =>
      have noted : TunnelLogin
          (world.cleared.noteReceipt input.env).conn.toLoginState := holds
      cases moved with
      | keeps => exact noted
      | hangsUp =>
          rw [LoginState.hungUp_closed] at opened
          cases opened
      | stores lr => exact noted.storing input.env lr
      | asks lr unauthorized =>
          exact noted.asking input.env lr unauthorized
            (noStray running unauthorized).2
      | enters lr unauthorized =>
          have asked := noted.asking input.env lr unauthorized
            (noStray running unauthorized).2
          exact ⟨asked.opened, LoginState.recorded_granted _, asked.exclusive⟩
      | proves => exact TunnelLogin.logon (unlocked noted) false
      | answers uuid lr => exact noted.storing input.env lr
      | switches uuid lr =>
          exact TunnelLogin.logon (switched (noted.storing input.env lr)) false

end TunnelLogin

/-- The main loop of a connection with a target ends authorized, and recorded
as a port forwarding. -/
theorem TunnelLogin.exits
    {world : World}
    {input : Input}
    {login : LoginState}
    {address : String}
    (holds : TunnelLogin world.conn.toLoginState)
    (running : world.phase = .running)
    (noStray : NoStrayTarget world input)
    (moved : Move input.env world.cleared input.event login)
    (exits : Exits input.env world.cleared input.event login)
    (socket : login.portForwardSocket = some address) :
    login.authorized = true ∧ login.authedConnId = some .portForward := by
  have stillOpen : login.closed = false := by
    rcases closed_of_move moved with same | hungUp
    · exact same.trans holds.opened
    · have opened : world.cleared.conn.closed = false := holds.opened
      rw [hungUp] at socket
      simp [LoginState.hungUp, opened] at socket
  have after := holds.move running noStray moved stillOpen
  have authorized : login.authorized = true := by
    rcases exits with ⟨noSocket, _⟩ | ⟨authorized, _⟩ | closed |
      ⟨bytes, lr, event, unauthorized, asked, turned⟩
    · rw [socket] at noSocket
      cases noSocket
    · exact authorized
    · rw [show world.cleared.conn.closed = false from holds.opened] at closed
      cases closed
    · unfold NoStrayTarget at noStray
      rw [event] at noStray
      have noSocket := (noStray running unauthorized).1 turned
      obtain ⟨require2fa, same⟩ := asking_login input.env
        (world.cleared.noteReceipt input.env) lr
      rw [asked, same] at socket
      rw [show (world.conn.asking input.env lr).portForwardSocket = some address
        from socket] at noSocket
      cases noSocket
  refine ⟨authorized, ?_⟩
  rw [after.recorded authorized,
    LoginState.authConnType_of_socket after.exclusive socket]

/-- One event keeps the invariant. -/
theorem TunnelInvariant.step
    {world : World}
    {input : Input}
    (holds : TunnelInvariant world)
    (noStray : NoStrayTarget world input) :
    TunnelInvariant (world.step input) := by
  by_cases own : ∀ host, input.event ≠ .hostChanged host
  · cases phase : world.phase with
    | running =>
        have login := holds.running phase
        obtain ⟨moved, last, move, leads, ⟨rfl, same, _⟩ | ⟨left, exits⟩⟩ :=
          step_of_running phase (permits_all _ _ _) own
        · refine ⟨fun _ => ?_, fun address relaying => ?_⟩
          · rw [leads.login]
            exact login.move phase noStray move (same.trans login.opened)
          · rw [leads.phase, show world.cleared.phase = .running from phase] at relaying
            cases relaying
        · rw [left]
          refine ⟨fun running => ?_, fun address relaying => ?_⟩
          · rw [afterLoop_phase] at running
            split at running <;> cases running
          · rw [afterLoop_phase] at relaying
            obtain ⟨_, _, after⟩ :=
              (afterLoop_leaves (fun _ _ => trivial) input.env last
                (fun _ _ _ => trivial) (fun _ _ => trivial)).login
            rw [after]
            cases socket : last.conn.portForwardSocket with
            | none =>
                rw [socket] at relaying
                cases relaying
            | some target =>
                rw [leads.login] at socket ⊢
                have granted := login.exits phase noStray move exits socket
                exact granted
    | relaying address =>
        obtain ⟨leaves, phases⟩ := step_of_relaying phase (fun _ _ => trivial)
          (fun _ _ => trivial) own
        obtain ⟨socket, closed, login⟩ := leaves.login
        refine ⟨fun running => ?_, fun _ _ => ?_⟩
        · rcases phases with same | ended
          · rw [same] at running
            cases running
          · rw [ended] at running
            cases running
        · rw [login]
          exact holds.relaying address phase
    | ended =>
        rw [step_of_ended phase]
        refine ⟨fun running => ?_, fun address relaying => ?_⟩
        · rw [show world.cleared.phase = .ended from phase] at running
          cases running
        · rw [show world.cleared.phase = .ended from phase] at relaying
          cases relaying
  · obtain ⟨host, changed⟩ := not_forall_not.mp own
    obtain ⟨conn, phase, _⟩ := step_hostChanged changed
    refine ⟨fun running => ?_, fun address relaying => ?_⟩
    · rw [conn]
      exact holds.running (phase ▸ running)
    · rw [conn]
      exact holds.relaying address (phase ▸ relaying)

theorem start_tunnelInvariant
    (env : Env)
    (host : Host)
    (id : Int)
    (ip : IpAddr)
    (hash : Hash)
    (require2fa : Option String) :
    TunnelInvariant (start env host id ip hash require2fa) := by
  rcases start_cases env host id ip hash require2fa with
    ⟨phase, conn, _⟩ | ⟨phase, _, _⟩
  · refine ⟨fun _ => ?_, fun address relaying => ?_⟩
    · rw [conn]
      refine ⟨rfl, ?_, .inl rfl⟩
      intro impossible
      cases impossible
    · rw [phase] at relaying
      cases relaying
  · refine ⟨fun running => ?_, fun address relaying => ?_⟩
    · rw [phase] at running
      cases running
    · rw [phase] at relaying
      cases relaying

/-- Only authorized port forwarding connections relay, in every run in which no
request leaves a stray target. -/
theorem relays_only_if_authorized
    (env : Env)
    (host : Host)
    (id : Int)
    (ip : IpAddr)
    (hash : Hash)
    (require2fa : Option String)
    (inputs : List Input)
    (noStray : Along step NoStrayTarget (start env host id ip hash require2fa) inputs)
    (address : String)
    (relaying : (run step (start env host id ip hash require2fa) inputs).phase =
      .relaying address) :
    (run step (start env host id ip hash require2fa) inputs).conn.authorized = true ∧
      (run step (start env host id ip hash require2fa) inputs).conn.authedConnId =
        some .portForward := by
  have invariant := run_invariant TunnelInvariant
    (fun _ _ holds fine => holds.step fine)
    (start_tunnelInvariant env host id ip hash require2fa) noStray
  exact invariant.relaying address relaying

/-- A login for port forwarding under a user name. -/
def tunnelLogin (username : String) : Input :=
  ⟨.plain, .received (some (.ok ⟨[], some (.loginRequest
    { LoginRequest.empty with
      username := username
      union := some (.portForward "localhost" 22) })⟩))⟩

theorem relays_only_if_authorized_authorize :
    Along step NoStrayTarget (start .plain .empty 1 (.v4 0) ⟨[], []⟩ none)
        [tunnelLogin "host", ⟨.plain, .fromCm .authorize⟩] ∧
      (run step (start .plain .empty 1 (.v4 0) ⟨[], []⟩ none)
        [tunnelLogin "host", ⟨.plain, .fromCm .authorize⟩]).conn.authedConnId =
          some .portForward := by
  have noStray : Along step NoStrayTarget
      (start .plain .empty 1 (.v4 0) ⟨[], []⟩ none)
      [tunnelLogin "host", ⟨.plain, .fromCm .authorize⟩] := by
    refine ⟨fun _ _ => ⟨?_, .inl rfl⟩, trivial, trivial⟩
    exact fun turned => absurd turned (by decide)
  exact ⟨noStray, (relays_only_if_authorized .plain .empty 1 (.v4 0) ⟨[], []⟩ none _
    noStray "localhost:22" (by decide)).2⟩

/-- One request that dials someone else relays to its target at once. -/
theorem wrong_username_relays :
    (run step (start .plain .empty 1 (.v4 0) ⟨[], []⟩ none)
        [tunnelLogin "other"]).phase = .relaying "localhost:22" ∧
      (run step (start .plain .empty 1 (.v4 0) ⟨[], []⟩ none)
        [tunnelLogin "other"]).conn.authorized = false := by
  decide

end World

end Server
end OneDesk
