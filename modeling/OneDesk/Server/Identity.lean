import OneDesk.Server.Unauthorized

/-!
# The identity of an authorized connection

When a connection becomes authorized, the peer and session it logged in with are
recorded.  From then on the connection should speak for that session only: when
it ends for good, that session is the one forgotten.  The live copy of the login
request can still be replaced, by a second login request and by an answer to a
switch of sides; every other message leaves it alone.
-/

namespace OneDesk
namespace Server

open OneDesk.Stream

/-- A handler of an authorized connection: identity and records stay, and no
session but its own changes. -/
structure Serves (before after : World) : Prop where
  id : after.conn.id = before.conn.id
  lr : after.conn.lr = before.conn.lr
  authorized : after.conn.authorized = before.conn.authorized
  authedConns : after.host.authedConns = before.host.authedConns
  sessions : ∀ key, key ≠ before.conn.sessionKey →
    after.host.sessions key = before.host.sessions key

namespace Serves

variable {first second third : World}

theorem refl (world : World) : Serves world world :=
  ⟨rfl, rfl, rfl, rfl, fun _ _ => rfl⟩

theorem sessionKey (serves : Serves first second) :
    second.conn.sessionKey = first.conn.sessionKey := by
  unfold LoginState.sessionKey
  rw [serves.lr]

theorem trans
    (left : Serves first second)
    (right : Serves second third) :
    Serves first third where
  id := right.id.trans left.id
  lr := right.lr.trans left.lr
  authorized := right.authorized.trans left.authorized
  authedConns := right.authedConns.trans left.authedConns
  sessions := by
    intro key other
    have later : key ≠ second.conn.sessionKey := by
      rw [left.sessionKey]
      exact other
    exact (right.sessions key later).trans (left.sessions key other)

theorem of_keeps
    {allowed : Effect → Prop}
    (keeps : Keeps allowed first second) :
    Serves first second where
  id := congrArg LoginState.id keeps.login
  lr := congrArg LoginState.lr keeps.login
  authorized := congrArg LoginState.authorized keeps.login
  authedConns := congrArg LoginTables.authedConns keeps.tables
  sessions := fun key _ => congrFun (congrArg LoginTables.sessions keeps.tables) key

/-- Nothing on the host changes. -/
theorem of_host
    (id : second.conn.id = first.conn.id)
    (lr : second.conn.lr = first.conn.lr)
    (authorized : second.conn.authorized = first.conn.authorized)
    (host : second.host = first.host) :
    Serves first second :=
  ⟨id, lr, authorized, by rw [host], fun _ _ => by rw [host]⟩

end Serves

/-- The connection ends: no session but its own changes. -/
structure Ends (before after : World) : Prop where
  phase : after.phase = .ended
  authorized : after.conn.authorized = before.conn.authorized
  sessions : ∀ key, key ≠ before.conn.sessionKey →
    after.host.sessions key = before.host.sessions key

theorem Ends.after_serves
    {before middle after : World}
    (serves : Serves before middle)
    (ends : Ends middle after) :
    Ends before after where
  phase := ends.phase
  authorized := ends.authorized.trans serves.authorized
  sessions := by
    intro key other
    have later : key ≠ middle.conn.sessionKey := by
      rw [serves.sessionKey]
      exact other
    exact (ends.sessions key later).trans (serves.sessions key other)

/-- The session a login request names. -/
def LoginRequest.sessionKey (lr : LoginRequest) : SessionKey :=
  ⟨lr.myId, lr.myName, lr.sessionId⟩

/-- A handler of an authorized connection that stores another login request and
goes on. -/
structure Renames (request : LoginRequest) (before after : World) : Prop where
  id : after.conn.id = before.conn.id
  lr : after.conn.lr = request
  authorized : after.conn.authorized = before.conn.authorized
  authedConns : after.host.authedConns = before.host.authedConns
  sessions : ∀ key, key ≠ request.sessionKey →
    after.host.sessions key = before.host.sessions key
  ongoing : before.phase ≠ .ended → after.phase ≠ .ended

namespace Renames

variable {request : LoginRequest} {before middle after : World}

theorem sessionKey (renames : Renames request before after) :
    after.conn.sessionKey = request.sessionKey := by
  rw [LoginState.sessionKey, renames.lr, LoginRequest.sessionKey]

theorem then_serves
    (renames : Renames request before middle)
    (serves : Serves middle after)
    (ongoing : after.phase ≠ .ended) :
    Renames request before after where
  id := serves.id.trans renames.id
  lr := serves.lr.trans renames.lr
  authorized := serves.authorized.trans renames.authorized
  authedConns := serves.authedConns.trans renames.authedConns
  sessions := by
    intro key other
    have later : key ≠ middle.conn.sessionKey := by
      rw [renames.sessionKey]
      exact other
    exact (serves.sessions key later).trans (renames.sessions key other)
  ongoing := fun _ => ongoing

end Renames

namespace Host

variable (env : Env) (host : Host)

theorem setSession2fa_authedConns (key : SessionKey) :
    (host.setSession2fa env key).authedConns = host.authedConns := by
  unfold setSession2fa
  split <;> rfl

theorem setSession2fa_of_ne
    {key other : SessionKey}
    (different : other ≠ key) :
    (host.setSession2fa env key).sessions other = host.sessions other := by
  unfold setSession2fa
  split
  · exact Function.update_of_ne different _ _
  · exact Function.update_of_ne different _ _

end Host

namespace World

section Handlers

variable (env : Env) (world : World)

theorem checkRemoveSession_serves : Serves world world.checkRemoveSession := by
  unfold checkRemoveSession Host.checkRemoveSession
  refine ⟨rfl, rfl, rfl, ?_, ?_⟩
  · dsimp only [modifyHost]
    split
    · split <;> rfl
    · rfl
  · intro key other
    dsimp only [modifyHost]
    split
    · split
      · exact Function.update_of_ne other _ _
      · rfl
    · rfl

theorem onClose_serves (lock : Bool) : Serves world (world.onClose env lock) := by
  unfold onClose
  split
  · exact .refl world
  · dsimp only
    split
    · exact .of_host rfl rfl rfl rfl
    · exact .of_host rfl rfl rfl rfl

theorem noteReceipt_serves : Serves world (world.noteReceipt env) := by
  unfold noteReceipt Host.touch
  cases world.conn.sessionLastRecvTime with
  | none => exact .of_host rfl rfl rfl rfl
  | some cell => exact ⟨rfl, rfl, rfl, rfl, fun _ _ => rfl⟩

theorem noteReceipt_sessions :
    (world.noteReceipt env).host.sessions = world.host.sessions := by
  unfold noteReceipt Host.touch
  cases world.conn.sessionLastRecvTime with
  | none => rfl
  | some cell => rfl

theorem holdModifier_serves (key : Option Nat) (isPress : Bool) :
    Serves world (world.holdModifier key isPress) := by
  cases key with
  | none => exact .refl world
  | some key => exact .of_host rfl rfl rfl rfl

theorem onKeyEvent_serves (event : KeyEvent) :
    Serves world (world.onKeyEvent env event) := by
  have emitted : ∀ key isPress effect,
      Serves world ((world.holdModifier key isPress).emit effect) :=
    fun key isPress effect =>
      (holdModifier_serves world key isPress).trans (.of_host rfl rfl rfl rfl)
  have timed : ∀ current : World,
      Serves current (current.updateAutoDisconnectTimer env) :=
    fun current => .of_host rfl rfl rfl rfl
  unfold onKeyEvent
  split
  · exact .refl world
  · split
    · exact .refl world
    · exact emitted _ _ _
  all_goals
    split
    · exact .refl world
    · refine Serves.trans ?_ (timed _)
      split
      · dsimp only
        split <;> exact emitted _ _ _
      · exact .refl world

theorem onAuth2fa_serves
    (code : String)
    (hwid : Bytes)
    (authorized : world.conn.authorized = true) :
    Serves world (world.onAuth2fa env code hwid) := by
  have kept : Keeps (fun _ => True) world (world.checkFailure env 1).1 :=
    checkFailure_keeps (fun _ _ => trivial) env world 1
  have checked := Serves.of_keeps kept
  have counted : ∀ removing, Serves world
      ((world.checkFailure env 1).1.updateFailure (world.checkFailure env 1).2
        removing 1) :=
    fun removing => checked.trans ⟨rfl, rfl, rfl, rfl, fun _ _ => rfl⟩
  unfold onAuth2fa
  dsimp only
  split
  · exact checked
  split
  · exact checked
  · exact (counted false).trans (.of_host rfl rfl rfl rfl)
  · have before := counted true
    generalize (world.checkFailure env 1).1.updateFailure (world.checkFailure env 1).2
      true 1 = current at before ⊢
    have passed : Serves world ((current.modify fun conn =>
        { conn with require2fa := none }).modifyHost fun host =>
          host.setSession2fa env current.conn.sessionKey) := by
      refine before.trans ⟨rfl, rfl, rfl, ?_, ?_⟩
      · exact Host.setSession2fa_authedConns env current.host _
      · exact fun key other => Host.setSession2fa_of_ne env current.host other
    have logged : (((current.modify fun conn =>
        { conn with require2fa := none }).modifyHost fun host =>
          host.setSession2fa env current.conn.sessionKey).sendLogonResponse env) =
        ((current.modify fun conn =>
          { conn with require2fa := none }).modifyHost fun host =>
            host.setSession2fa env current.conn.sessionKey) :=
      if_pos (passed.authorized.trans authorized)
    rw [logged]
    split
    · exact passed.trans ⟨rfl, rfl, rfl, rfl, fun _ _ => rfl⟩
    · exact passed.trans (.of_host rfl rfl rfl rfl)

theorem onAuthorizedMessage_serves (message : Message) :
    Serves world (world.onAuthorizedMessage env message).1 := by
  have all : ∀ effect : Effect, effect.isOrdinary = true → True := fun _ _ => trivial
  by_cases key : ∃ event, message = .keyEvent event
  · obtain ⟨event, rfl⟩ := key
    exact onKeyEvent_serves env world event
  by_cases closes : ∃ misc, message = .misc misc ∧ hangsUp env misc = true
  · obtain ⟨misc, rfl, hanging⟩ := closes
    obtain ⟨uuid, rfl, left⟩ := onAuthorizedMessage_hangsUp hanging world
    rw [left]
    have asked : Serves world (world.emit (.switchSides world.conn.lr.myId uuid)) :=
      .of_host rfl rfl rfl rfl
    exact asked.trans (onClose_serves env _ false)
  · have kept : Keeps (fun _ => True) world (world.onAuthorizedMessage env message).1 := by
      apply onAuthorizedMessage_keeps all env world
      · exact fun event equal => absurd ⟨event, equal⟩ key
      · intro misc equal
        rw [← Bool.not_eq_true]
        exact fun hanging => closes ⟨misc, equal, hanging⟩
      · exact fun _ _ _ => trivial
      · exact fun _ _ => trivial
      · exact fun _ _ => trivial
    exact .of_keeps kept

theorem sendLogonResponse_of_authorized (authorized : world.conn.authorized = true) :
    world.sendLogonResponse env = world :=
  if_pos authorized

theorem storing_renames (lr : LoginRequest) :
    Renames lr world (world.handleLoginRequestWithoutValidation env lr) :=
  ⟨rfl, rfl, rfl, rfl, fun _ _ => rfl, id⟩

theorem onSwitchSidesResponse_renames
    (uuid : Bytes)
    (lr : LoginRequest)
    (flutter : env.build.flutter = true)
    (authorized : world.conn.authorized = true) :
    Renames lr world (world.onSwitchSidesResponse env uuid (some lr)) := by
  unfold onSwitchSidesResponse
  rw [flutter]
  dsimp only
  split
  · rw [sendLogonResponse_of_authorized env]
    · unfold tryStartCmIpc
      split
      · exact ⟨rfl, rfl, rfl, rfl, fun _ _ => rfl, id⟩
      · exact ⟨rfl, rfl, rfl, rfl, fun _ _ => rfl, id⟩
    · exact authorized
  · exact ⟨rfl, rfl, rfl, rfl, fun _ _ => rfl, id⟩

/-- The login request an authorized connection would store for a message. -/
def storedRequest (env : Env) : Message → Option LoginRequest
  | .loginRequest lr => some lr
  | .switchSidesResponse _ request => if env.build.flutter then request else none
  | _ => none

/-- A message that stores a login request changes nothing else, and the loop goes
on. -/
theorem onMessage_renames
    {message : Message}
    {lr : LoginRequest}
    (renamed : storedRequest env message = some lr)
    (authorized : world.conn.authorized = true) :
    Renames lr world (world.onMessage env message).1 ∧
      (world.onMessage env message).2 = true := by
  cases message with
  | loginRequest request =>
      cases renamed
      have stored : world.onMessage env (.loginRequest lr) =
          (world.handleLoginRequestWithoutValidation env lr, true) := if_pos authorized
      rw [stored]
      exact ⟨storing_renames env world lr, rfl⟩
  | switchSidesResponse uuid request =>
      cases flutter : env.build.flutter with
      | false => simp [storedRequest, flutter] at renamed
      | true =>
          have same : request = some lr := by simpa [storedRequest, flutter] using renamed
          rw [same]
          exact ⟨onSwitchSidesResponse_renames env world uuid lr flutter authorized, rfl⟩
  | _ => cases renamed

/-- Every other message leaves the identity alone. -/
theorem onMessage_serves
    {message : Message}
    (other : storedRequest env message = none)
    (authorized : world.conn.authorized = true) :
    Serves world (world.onMessage env message).1 := by
  have heeded : Serves world
      (if world.conn.authorized then
        if world.conn.portForwardSocket.isSome then (world, true)
        else world.onAuthorizedMessage env message
      else (world, true)).1 := by
    rw [if_pos authorized]
    split
    · exact .refl world
    · exact onAuthorizedMessage_serves env world message
  unfold onMessage
  split
  · exact (onClose_serves env world true).trans (checkRemoveSession_serves _)
  · cases other
  next code hwid => exact onAuth2fa_serves env world code hwid authorized
  next time fromClient =>
    have kept : Keeps (fun _ => True) world (world.onTestDelay env time fromClient) :=
      onTestDelay_keeps (fun _ _ => trivial) env world time fromClient
    exact .of_keeps kept
  next uuid request =>
    unfold storedRequest at other
    unfold onSwitchSidesResponse
    split
    next flutter =>
      rw [flutter] at other
      cases other
    next => exact .refl world
  · exact heeded

end Handlers

section Loops

variable (env : Env) (world : World)

theorem finish_ends : Ends world (world.finish env) := by
  have removed : Serves world (world.removeConnection env) := by
    unfold removeConnection
    split
    · exact ⟨rfl, rfl, rfl, rfl, fun _ _ => rfl⟩
    · exact .refl world
  have closed := removed.trans (onClose_serves env _ true)
  have released : ∀ current : World, Serves current (current.releaseModifiers env) := by
    intro current
    unfold releaseModifiers
    split
    · exact .refl current
    · exact .of_host rfl rfl rfl rfl
  refine .after_serves (closed.trans (released _)) ⟨rfl, ?_, ?_⟩
  · unfold finish dropAuthedConn
    dsimp only
    split <;> rfl
  · intro key _
    unfold finish dropAuthedConn
    dsimp only
    split <;> rfl

theorem cleanUp_serves : Serves world (world.cleanUp env) := by
  unfold cleanUp updateTemporaryPassword
  dsimp only
  split
  · split
    · split <;> exact ⟨rfl, rfl, rfl, rfl, fun _ _ => rfl⟩
    · split <;> exact ⟨rfl, rfl, rfl, rfl, fun _ _ => rfl⟩
  · split
    · split <;> exact ⟨rfl, rfl, rfl, rfl, fun _ _ => rfl⟩
    · split <;> exact ⟨rfl, rfl, rfl, rfl, fun _ _ => rfl⟩

/-- The connection goes on, or ends. -/
def ServesOrEnds (before after : World) : Prop := Serves before after ∨ Ends before after

theorem ServesOrEnds.after_serves
    {before middle after : World}
    (serves : Serves before middle)
    (rest : ServesOrEnds middle after) :
    ServesOrEnds before after :=
  rest.imp serves.trans (.after_serves serves)

/-- With a socket the main loop is followed by the relay loop. -/
theorem afterLoop_serves (socket : world.conn.portForwardSocket.isSome = true) :
    Serves world (world.afterLoop env) ∧ (world.afterLoop env).phase ≠ .ended := by
  have cleaned := cleanUp_serves env world
  rw [afterLoop_phase]
  unfold afterLoop
  dsimp only
  rw [cleanUp_conn]
  cases there : world.conn.portForwardSocket with
  | none =>
      rw [there] at socket
      cases socket
  | some address =>
      refine ⟨cleaned.trans (.of_host ?_ ?_ ?_ rfl), Phase.noConfusion⟩
      · rw [cleanUp_conn]
      · rw [cleanUp_conn]
      · rw [cleanUp_conn]

theorem afterLoop_servesOrEnds : ServesOrEnds world (world.afterLoop env) := by
  cases socket : world.conn.portForwardSocket with
  | none =>
      have cleaned := cleanUp_serves env world
      right
      unfold afterLoop
      dsimp only
      rw [cleanUp_conn, socket]
      exact .after_serves cleaned (finish_ends env _)
  | some address => exact .inl (afterLoop_serves env world (by rw [socket]; rfl)).1

theorem Prepared.serves
    {world current : World}
    (prepared : world.Prepared current) :
    Serves world current := by
  induction prepared with
  | start => exact .refl world
  | emit effect _ serves => exact serves.trans (.of_host rfl rfl rfl rfl)
  | forget _ serves => exact serves.trans (checkRemoveSession_serves _)
  | dismiss _ serves => exact serves.trans (.of_host rfl rfl rfl rfl)
  | probe asked _ serves => exact serves.trans (.of_host rfl rfl rfl rfl)

theorem goesOn_servesOrEnds
    {after : World}
    (goes : world.GoesOn env after) :
    ServesOrEnds world after := by
  obtain ⟨current, prepared, rfl | ⟨lock, rfl⟩⟩ := goes
  · exact .inl prepared.serves
  · exact .after_serves (prepared.serves.trans (onClose_serves env current lock))
      (afterLoop_servesOrEnds env _)

/-- An event of the main loop of an authorized connection that stores no login
request. -/
theorem mainLoop_servesOrEnds
    (event : Event)
    (authorized : world.conn.authorized = true)
    (own : ∀ host, event ≠ .hostChanged host)
    (unstored : ∀ bytes message, event = .received (some (.ok ⟨bytes, some message⟩)) →
      storedRequest env message = none) :
    ServesOrEnds world (world.mainLoop env event) := by
  have turn := mainLoop_turn env world event
  generalize world.mainLoop env event = after at turn ⊢
  cases turn with
  | authorizes =>
      have unlocked : Serves world
          (world.modify fun conn => { conn with require2fa := none }) :=
        .of_host rfl rfl rfl rfl
      unfold onAuthorize
      dsimp only
      rw [sendLogonResponse_of_authorized env]
      · split
        · exact .after_serves unlocked (afterLoop_servesOrEnds env _)
        · exact .inl unlocked
      · exact authorized
  | asked message =>
      have kept : Keeps (fun _ => True) world (world.onCmMessage env message) :=
        onCmMessage_keeps (fun _ _ => trivial) env world message (fun _ => trivial)
      exact .inl (.of_keeps kept)
  | received bytes message =>
      have noted := noteReceipt_serves env world
      cases message with
      | none => exact .inl noted
      | some message =>
          have served := onMessage_serves env (world.noteReceipt env)
            (unstored bytes message rfl) (noted.authorized.trans authorized)
          rcases onReceived_cases env (world.noteReceipt env) message with same | left
          · dsimp only
            rw [same]
            exact .inl (noted.trans served)
          · dsimp only
            rw [left]
            exact .after_serves (noted.trans served) (afterLoop_servesOrEnds env _)
  | goesOn event goes => exact goesOn_servesOrEnds env world goes
  | hostChanged host => exact absurd rfl (own host)

theorem relayLoop_servesOrEnds
    (event : Event)
    (own : ∀ host, event ≠ .hostChanged host) :
    ServesOrEnds world (world.relayLoop env event) := by
  have turn := relayLoop_turn env world event
  generalize world.relayLoop env event = after at turn ⊢
  cases turn with
  | bails event =>
      exact .inr (.after_serves ((onClose_serves env world false).trans
        (checkRemoveSession_serves _)) (finish_ends env _))
  | passes event time passed => exact .inl (.of_host rfl rfl rfl rfl)
  | hostChanged host => exact absurd rfl (own host)

/-- A message that stores a login request, in the main loop. -/
theorem onReceived_renames
    {message : Message}
    {lr : LoginRequest}
    (stored : storedRequest env message = some lr)
    (authorized : world.conn.authorized = true) :
    Renames lr world (world.onReceived env message) := by
  obtain ⟨renames, goes⟩ := onMessage_renames env world stored authorized
  unfold onReceived
  split
  next handled equal =>
    rw [equal] at goes
    cases goes
  next handled equal =>
    rw [equal] at renames
    split
    next relays =>
      rw [Bool.and_eq_true, Bool.and_eq_true] at relays
      obtain ⟨serves, ongoing⟩ := afterLoop_serves env handled relays.1.1
      exact renames.then_serves serves ongoing
    next => exact renames

end Loops

/-! ## The record of a connection -/

/-- Sessions recorded for a connection. -/
def ownKeys (world : World) : List SessionKey :=
  (world.host.authedConns.filter fun record => record.connId == world.conn.id).map
    AuthedConn.sessionKey

theorem ownKeys_congr
    {before after : World}
    (id : after.conn.id = before.conn.id)
    (authedConns : after.host.authedConns = before.host.authedConns) :
    after.ownKeys = before.ownKeys := by
  unfold ownKeys
  rw [id, authedConns]

/-- A connection that becomes authorized records the session it speaks for. -/
theorem authorize_ownKeys (world : World) :
    world.authorize.ownKeys = world.ownKeys ++ [world.conn.sessionKey] := by
  have recorded : ∃ connType printer, world.authorize.host.authedConns =
      world.host.authedConns ++
        [⟨world.conn.id, connType, world.conn.sessionKey, printer⟩] := by
    unfold authorize
    dsimp only
    split
    · exact ⟨_, _, rfl⟩
    · exact ⟨_, _, rfl⟩
  have sameId : world.authorize.conn.id = world.conn.id := by
    unfold authorize
    dsimp only
    split <;> rfl
  obtain ⟨connType, printer, recorded⟩ := recorded
  unfold ownKeys
  rw [recorded, sameId, List.filter_append, List.map_append]
  simp

/-- A connection that was authorized by a handler has its session recorded. -/
structure Enrolls (before after : World) : Prop where
  id : after.conn.id = before.conn.id
  authorized : after.conn.authorized = true
  ownKeys : after.ownKeys = before.ownKeys ++ [after.conn.sessionKey]

theorem Enrolls.after_waits
    {allowed : Effect → Prop}
    {before middle after : World}
    (waits : Waits allowed before middle)
    (enrolls : Enrolls middle after) :
    Enrolls before after where
  id := enrolls.id.trans (congrArg Standing.id waits.standing)
  authorized := enrolls.authorized
  ownKeys := by
    rw [enrolls.ownKeys, ownKeys_congr (congrArg Standing.id waits.standing)
      waits.authedConns]

theorem Enrolls.then_serves
    {before middle after : World}
    (enrolls : Enrolls before middle)
    (serves : Serves middle after) :
    Enrolls before after where
  id := serves.id.trans enrolls.id
  authorized := serves.authorized.trans enrolls.authorized
  ownKeys := by
    rw [ownKeys_congr serves.id serves.authedConns, serves.sessionKey, enrolls.ownKeys]

theorem authorize_enrolls
    (env : Env)
    {checked after : World}
    (tells : Tells (checked.authorize.answerLogon env) after) :
    Enrolls checked after := by
  have kept : Keeps (fun _ => True) checked.authorize
      (checked.authorize.answerLogon env) :=
    answerLogon_keeps (fun _ _ => trivial) env _ (fun _ => trivial)
  have login := tells.login.trans kept.login
  have records := tells.authedConns.trans (congrArg LoginTables.authedConns kept.tables)
  have granted : checked.authorize.conn.toLoginState = checked.conn.granted :=
    (authorize_leads (fun _ _ => trivial) checked : Leads (fun _ => True) _ _ _).login
  have sameId : after.conn.id = checked.authorize.conn.id :=
    congrArg LoginState.id login
  refine ⟨?_, tells_authorized env tells, ?_⟩
  · exact (congrArg LoginState.id (login.trans granted)).trans rfl
  · have sameKey : after.conn.sessionKey = checked.conn.sessionKey :=
      (congrArg LoginState.sessionKey (login.trans granted)).trans rfl
    rw [ownKeys_congr sameId records, authorize_ownKeys, sameKey]

/-- A connection that becomes authorized in its main loop ends at once or has its
session recorded. -/
theorem mainLoop_enrolls
    (env : Env)
    (world : World)
    (event : Event)
    (bare : world.IsBare)
    (own : ∀ host, event ≠ .hostChanged host)
    (authorized : (world.mainLoop env event).conn.authorized = true) :
    (world.mainLoop env event).phase = .ended ∨
      Enrolls world (world.mainLoop env event) := by
  have pending : ¬world.conn.authorized = true := by
    rw [bare.unauthorized]
    exact Bool.false_ne_true
  -- Where the connection was authorized, the rest of the turn keeps its record.
  have left : ∀ current, Enrolls world current →
      (current.afterLoop env).phase = .ended ∨
        Enrolls world (current.afterLoop env) := by
    intro current enrolls
    rcases afterLoop_servesOrEnds env current with serves | ends
    · exact .inr (enrolls.then_serves serves)
    · exact .inl ends.phase
  have turn := mainLoop_turn env world event
  generalize world.mainLoop env event = after at turn authorized ⊢
  cases turn with
  | authorizes =>
      have unlocked : Waits (fun _ => True) world
          (world.modify fun conn => { conn with require2fa := none }) :=
        .modify world _ rfl
      have logon := sendLogonResponse_of_present env
        (world.modify fun conn => { conn with require2fa := none }) bare.unauthorized
        (secondFactorMissing_of_unlocked env _ rfl)
      have enrolls : Enrolls world
          ((world.modify fun conn => { conn with require2fa := none }).sendLogonResponse
            env) := by
        rw [logon]
        exact .after_waits unlocked
          (authorize_enrolls env (.refl _))
      unfold onAuthorize
      dsimp only
      split
      · exact left _ enrolls
      · exact .inr enrolls
  | asked message =>
      have kept : Keeps (fun _ => True) world (world.onCmMessage env message) :=
        onCmMessage_keeps (fun _ _ => trivial) env world message (fun _ => trivial)
      exact absurd ((Serves.of_keeps kept).authorized.symm.trans authorized) pending
  | received bytes message =>
      have noted : Waits (fun _ => True) world (world.noteReceipt env) :=
        noteReceipt_waits env world
      cases message with
      | none => exact absurd (noted.authorized.symm.trans authorized) pending
      | some message =>
          have decides : Decides (fun _ => True) env (world.noteReceipt env)
              ((world.noteReceipt env).onMessage env message).1 :=
            onMessage_decides (fun _ _ => trivial) env _ message (bare.of_waits noted)
              (fun _ _ _ _ _ _ => trivial)
          have handled := onReceived_cases env (world.noteReceipt env) message
          dsimp only at authorized ⊢
          generalize ((world.noteReceipt env).onMessage env message).1 = last
            at decides handled
          cases decides with
          | waits waits =>
              have still := (noted.trans waits).authorized
              rcases handled with same | left
              · rw [same] at authorized
                exact absurd (still.symm.trans authorized) pending
              · rw [left, afterLoop_authorized] at authorized
                exact absurd (still.symm.trans authorized) pending
          | authorizes checked waits unauthorized tells =>
              have enrolls := (authorize_enrolls env tells).after_waits
                (noted.trans waits)
              rcases handled with same | ended
              · rw [same]
                exact .inr enrolls
              · rw [ended]
                exact left _ enrolls
  | goesOn event goes =>
      rcases goesOn_servesOrEnds env world goes with serves | ends
      · exact absurd (serves.authorized.symm.trans authorized) pending
      · exact absurd (ends.authorized.symm.trans authorized) pending
  | hostChanged host => exact absurd rfl (own host)

/-! ## Steps and runs -/

/-- An authorized connection that has not ended speaks for the session recorded. -/
def Identified (world : World) : Prop :=
  world.conn.authorized = true → world.phase ≠ .ended →
    world.ownKeys = [world.conn.sessionKey]

/-- A message has an authorized connection store a login request for another
session. -/
def Renamed (world : World) (input : Input) : Prop :=
  world.phase = .running ∧ world.conn.authorized = true ∧
    ∃ bytes message lr, input.event = .received (some (.ok ⟨bytes, some message⟩)) ∧
      storedRequest input.env message = some lr ∧
        lr.sessionKey ≠ world.conn.sessionKey

/-- The other connections record and drop themselves only. -/
def OthersKeepRecords (world : World) (input : Input) : Prop :=
  ∀ host, input.event = .hostChanged host →
    (host.authedConns.filter fun record => record.connId == world.conn.id) =
      world.host.authedConns.filter fun record => record.connId == world.conn.id

section Step

variable {world : World} {input : Input}

theorem step_hostChanged_ownKeys
    {host : Host}
    (changed : input.event = .hostChanged host)
    (others : world.OthersKeepRecords input) :
    (world.step input).ownKeys = world.ownKeys := by
  have kept := others host changed
  unfold step
  rw [changed]
  cases world.phase with
  | running => exact congrArg (List.map AuthedConn.sessionKey) kept
  | relaying address => exact congrArg (List.map AuthedConn.sessionKey) kept
  | ended => rfl

/-- A connection that stays unauthorized records nothing. -/
theorem step_unrecorded
    (bare : world.conn.authorized = false → world.IsBare)
    (others : world.OthersKeepRecords input)
    (unrecorded : world.conn.authorized = false → world.ownKeys = [])
    (unauthorized : (world.step input).conn.authorized = false) :
    (world.step input).ownKeys = [] := by
  have pending := unauthorized_of_step unauthorized
  by_cases own : ∀ host, input.event ≠ .hostChanged host
  · have standing := step_standing (bare pending) own unauthorized
    rw [ownKeys_congr (congrArg Standing.id standing)
      (congrArg Standing.authedConns standing)]
    exact unrecorded pending
  · obtain ⟨host, changed⟩ := not_forall_not.mp own
    exact (step_hostChanged_ownKeys changed others).trans (unrecorded pending)

/-- An event has the connection store no login request. -/
def Unstored (world : World) (input : Input) : Prop :=
  ∀ bytes message, world.phase = .running →
    input.event = .received (some (.ok ⟨bytes, some message⟩)) →
      storedRequest input.env message = none

theorem cleared_serves (world : World) : Serves world world.cleared :=
  .of_host rfl rfl rfl rfl

theorem step_servesOrEnds
    (authorized : world.conn.authorized = true)
    (own : ∀ host, input.event ≠ .hostChanged host)
    (unstored : world.Unstored input) :
    ServesOrEnds world (world.step input) := by
  have started := cleared_serves world
  unfold step
  cases phase : world.phase with
  | running =>
      exact .after_serves started (mainLoop_servesOrEnds input.env world.cleared
        input.event authorized own (fun bytes message => unstored bytes message phase))
  | relaying address =>
      exact .after_serves started
        (relayLoop_servesOrEnds input.env world.cleared input.event own)
  | ended => exact .inl started

theorem step_renames
    {bytes : Bytes}
    {message : Message}
    {lr : LoginRequest}
    (running : world.phase = .running)
    (authorized : world.conn.authorized = true)
    (received : input.event = .received (some (.ok ⟨bytes, some message⟩)))
    (stored : storedRequest input.env message = some lr) :
    Renames lr world (world.step input) := by
  have noted := (cleared_serves world).trans (noteReceipt_serves input.env world.cleared)
  have renames := onReceived_renames input.env (world.cleared.noteReceipt input.env)
    stored (noted.authorized.trans authorized)
  unfold step
  rw [running, received]
  exact ⟨renames.id.trans noted.id, renames.lr,
    renames.authorized.trans noted.authorized,
    renames.authedConns.trans noted.authedConns,
    fun key other => (renames.sessions key other).trans
      (congrFun (noteReceipt_sessions input.env world.cleared) key), renames.ongoing⟩

/-- A connection that an event authorizes ends at once or has its session
recorded. -/
theorem step_enrolls
    (bare : world.IsBare)
    (own : ∀ host, input.event ≠ .hostChanged host)
    (authorized : (world.step input).conn.authorized = true) :
    (world.step input).phase = .ended ∨ Enrolls world (world.step input) := by
  have cleared : world.cleared.IsBare :=
    ⟨bare.unauthorized, bare.unlocked, bare.released, bare.unregistered⟩
  have pending : ¬world.conn.authorized = true := by
    rw [bare.unauthorized]
    exact Bool.false_ne_true
  unfold step at authorized ⊢
  cases phase : world.phase with
  | running =>
      rw [phase] at authorized
      refine (mainLoop_enrolls input.env world.cleared input.event cleared own
        authorized).imp id ?_
      exact fun enrolls => ⟨enrolls.id, enrolls.authorized, enrolls.ownKeys⟩
  | relaying address =>
      rw [phase] at authorized
      rcases relayLoop_servesOrEnds input.env world.cleared input.event own with
        serves | ends
      · exact absurd (serves.authorized.symm.trans authorized) pending
      · exact absurd (ends.authorized.symm.trans authorized) pending
  | ended =>
      rw [phase] at authorized
      exact absurd authorized pending

/-- An event has the connection store a login request, or not. -/
theorem unstored_or_stored (world : World) (input : Input) :
    world.Unstored input ∨ ∃ bytes message lr, world.phase = .running ∧
      input.event = .received (some (.ok ⟨bytes, some message⟩)) ∧
        storedRequest input.env message = some lr := by
  by_cases stored : ∃ bytes message lr, world.phase = .running ∧
      input.event = .received (some (.ok ⟨bytes, some message⟩)) ∧
        storedRequest input.env message = some lr
  · exact .inr stored
  · left
    intro bytes message running received
    cases request : storedRequest input.env message with
    | none => rfl
    | some lr => exact absurd ⟨bytes, message, lr, running, received, request⟩ stored

theorem sameKey_of_faithful
    {bytes : Bytes}
    {message : Message}
    {lr : LoginRequest}
    (faithful : ¬world.Renamed input)
    (running : world.phase = .running)
    (authorized : world.conn.authorized = true)
    (received : input.event = .received (some (.ok ⟨bytes, some message⟩)))
    (stored : storedRequest input.env message = some lr) :
    lr.sessionKey = world.conn.sessionKey := by
  by_contra different
  exact faithful ⟨running, authorized, bytes, message, lr, received, stored, different⟩

/-- A connection keeps its identity unless another login request is stored. -/
theorem step_identified
    (bare : world.conn.authorized = false → world.IsBare)
    (others : world.OthersKeepRecords input)
    (unrecorded : world.conn.authorized = false → world.ownKeys = [])
    (identified : world.Identified)
    (faithful : ¬world.Renamed input) :
    (world.step input).Identified := by
  intro authorized ongoing
  by_cases own : ∀ host, input.event ≠ .hostChanged host
  · cases known : world.conn.authorized with
    | false =>
        rcases step_enrolls (bare known) own authorized with ended | enrolls
        · exact absurd ended ongoing
        · rw [enrolls.ownKeys, unrecorded known, List.nil_append]
    | true =>
        have running : world.phase ≠ .ended := by
          intro ended
          apply ongoing
          rw [step_of_ended ended]
          exact ended
        rcases unstored_or_stored world input with
          unstored | ⟨bytes, message, lr, phase, received, stored⟩
        · rcases step_servesOrEnds known own unstored with serves | ends
          · rw [ownKeys_congr serves.id serves.authedConns, serves.sessionKey]
            exact identified known running
          · exact absurd ends.phase ongoing
        · have renames := step_renames phase known received stored
          have sameKey := sameKey_of_faithful faithful phase known received stored
          rw [ownKeys_congr renames.id renames.authedConns, renames.sessionKey, sameKey]
          exact identified known running
  · obtain ⟨host, changed⟩ := not_forall_not.mp own
    obtain ⟨conn, phase, _⟩ := step_hostChanged changed
    rw [step_hostChanged_ownKeys changed others, conn]
    rw [conn] at authorized
    rw [phase] at ongoing
    exact identified authorized ongoing

/-- The identity is lost where another login request is stored. -/
theorem not_identified_of_renamed
    (identified : world.Identified)
    (renamed : world.Renamed input) :
    ¬(world.step input).Identified := by
  obtain ⟨phase, known, bytes, message, lr, received, stored, different⟩ := renamed
  have running : world.phase ≠ .ended := by
    rw [phase]
    exact Phase.noConfusion
  have renames := step_renames phase known received stored
  intro still
  have keys := still (renames.authorized.trans known) (renames.ongoing running)
  rw [ownKeys_congr renames.id renames.authedConns, renames.sessionKey,
    identified known running] at keys
  exact different (List.cons.inj keys).1.symm

/-- An event of an authorized connection changes no session but the one recorded. -/
theorem step_sessions_of_identified
    (identified : world.Identified)
    (faithful : ¬world.Renamed input)
    (authorized : world.conn.authorized = true)
    (ongoing : world.phase ≠ .ended)
    (own : ∀ host, input.event ≠ .hostChanged host)
    {key : SessionKey}
    (other : key ∉ world.ownKeys) :
    (world.step input).host.sessions key = world.host.sessions key := by
  rw [identified authorized ongoing, List.mem_singleton] at other
  rcases unstored_or_stored world input with
    unstored | ⟨bytes, message, lr, phase, received, stored⟩
  · rcases step_servesOrEnds authorized own unstored with serves | ends
    · exact serves.sessions key other
    · exact ends.sessions key other
  · have renames := step_renames phase authorized received stored
    have sameKey := sameKey_of_faithful faithful phase authorized received stored
    apply renames.sessions
    rw [sameKey]
    exact other

end Step

section Runs

variable (env : Env) (host : Host) (id : Int) (ip : IpAddr) (hash : Hash)
  (require2fa : Option String)

theorem start_ownKeys
    (fresh : ∀ record ∈ host.authedConns, record.connId ≠ id) :
    (start env host id ip hash require2fa).ownKeys = [] := by
  unfold ownKeys
  rw [start_connId, congrArg LoginTables.authedConns (start_tables env host id ip hash require2fa),
    List.map_eq_nil_iff, List.filter_eq_nil_iff]
  intro record member
  rw [beq_iff_eq]
  exact fresh record member

/-- In every run, an unauthorized connection has no record. -/
theorem run_unrecorded
    {inputs : List Input}
    (fresh : ∀ record ∈ host.authedConns, record.connId ≠ id)
    (others : Lib.Along step OthersKeepRecords (start env host id ip hash require2fa)
      inputs) :
    let world := Lib.run step (start env host id ip hash require2fa) inputs
    (world.conn.authorized = false → world.IsBare) ∧
      (world.conn.authorized = false → world.ownKeys = []) := by
  refine Lib.run_invariant
    (fun world : World => (world.conn.authorized = false → world.IsBare) ∧
      (world.conn.authorized = false → world.ownKeys = [])) ?_ ?_ others
  · rintro world input ⟨bare, unrecorded⟩ kept
    exact ⟨step_bare input bare, step_unrecorded bare kept unrecorded⟩
  · exact ⟨fun _ => start_bare env host id ip hash require2fa,
      fun _ => start_ownKeys env host id ip hash require2fa fresh⟩

/-- An authorized connection speaks for the session it was authorized under, and
changes no other session, if and only if it is sent no login request for another
session. -/
theorem identity_fixed_iff
    (inputs : List Input)
    (fresh : ∀ record ∈ host.authedConns, record.connId ≠ id)
    (others : Lib.Along step OthersKeepRecords (start env host id ip hash require2fa)
      inputs) :
    ((∀ before, before <+: inputs →
        (Lib.run step (start env host id ip hash require2fa) before).Identified) ∧
      Lib.Along step
        (fun world input => world.conn.authorized = true → world.phase ≠ .ended →
          (∀ host, input.event ≠ .hostChanged host) → ∀ key ∉ world.ownKeys,
            (world.step input).host.sessions key = world.host.sessions key)
        (start env host id ip hash require2fa) inputs) ↔
      Lib.Along step (fun world input => ¬world.Renamed input)
        (start env host id ip hash require2fa) inputs := by
  have absent : ¬¬(start env host id ip hash require2fa).Identified := by
    intro lost
    apply lost
    intro authorized
    have unauthorized := start_unauthorized env host id ip hash require2fa
    exact absurd (unauthorized.symm.trans authorized) Bool.false_ne_true
  have never := @Lib.never_iff World Input step (fun world => ¬world.Identified) Renamed
    (start env host id ip hash require2fa) inputs absent
    (by
      intro before input after split identified lost
      subst split
      by_contra faithful
      have kept := Lib.along_iff_forall_split.mp others before input after rfl
      have unrecorded := run_unrecorded env host id ip hash require2fa fresh
        (others.restrict ⟨input :: after, rfl⟩)
      exact lost (step_identified unrecorded.1 kept unrecorded.2 (not_not.mp identified)
        faithful))
    (fun world input identified renamed =>
      not_identified_of_renamed (not_not.mp identified) renamed)
  constructor
  · rintro ⟨identified, _⟩
    exact never.mp fun before within lost => lost (identified before within)
  · intro faithful
    have identified : ∀ before, before <+: inputs →
        (Lib.run step (start env host id ip hash require2fa) before).Identified :=
      fun before within => not_not.mp (never.mpr faithful before within)
    refine ⟨identified, ?_⟩
    rw [Lib.along_iff_forall_split]
    rintro before input after rfl authorized ongoing own key other
    exact step_sessions_of_identified (identified before ⟨input :: after, rfl⟩)
      (Lib.along_iff_forall_split.mp faithful before input after rfl) authorized ongoing
      own other

end Runs

/-- The user accepts a connection. -/
def acceptance : Input := ⟨.plain, .fromCm .authorize⟩

/-- The peer then says it is B. -/
def loginAsB : Input :=
  ⟨.plain, .received (some (.ok ⟨[], some (.loginRequest
    { LoginRequest.empty with myId := "B" })⟩))⟩

/-- The peer closes the connection for good. -/
def farewell : Input :=
  ⟨.plain, .received (some (.ok ⟨[], some (.misc (.closeReason ""))⟩))⟩

/-- A host on which B has a session. -/
def hostOfB : Host :=
  { Host.empty with
    sessions := fun key => if key = ⟨"B", "", 0⟩ then some ⟨0, [], true⟩ else none }

/-- A connection that is accepted and hears nothing else. -/
theorem identity_fixed_iff_accepted :
    ((∀ before, before <+: [acceptance] →
        (Lib.run step (start .plain hostOfB 1 (.v4 0) ⟨[], []⟩ none) before
          ).Identified) ∧
      Lib.Along step
        (fun world input => world.conn.authorized = true → world.phase ≠ .ended →
          (∀ host, input.event ≠ .hostChanged host) → ∀ key ∉ world.ownKeys,
            (world.step input).host.sessions key = world.host.sessions key)
        (start .plain hostOfB 1 (.v4 0) ⟨[], []⟩ none) [acceptance]) ↔
      Lib.Along step (fun world input => ¬world.Renamed input)
        (start .plain hostOfB 1 (.v4 0) ⟨[], []⟩ none) [acceptance] :=
  identity_fixed_iff .plain hostOfB 1 (.v4 0) ⟨[], []⟩ none [acceptance]
    (fun _ member => (by cases member))
    ⟨fun _ changed => (by cases changed), trivial⟩

/-- Once accepted, a peer takes the identity of B, and B's session is forgotten
when it leaves. -/
theorem accepted_peer_takes_identity :
    let renamed := Lib.run step (start .plain hostOfB 1 (.v4 0) ⟨[], []⟩ none)
      [acceptance, loginAsB]
    renamed.conn.authorized = true ∧ renamed.phase = .running ∧
      renamed.ownKeys = [⟨"", "", 0⟩] ∧ renamed.conn.sessionKey = ⟨"B", "", 0⟩ ∧
      (renamed.host.sessions ⟨"B", "", 0⟩).isSome = true ∧
      ((renamed.step farewell).host.sessions ⟨"B", "", 0⟩).isSome = false := by
  decide

end World

end Server
end OneDesk
