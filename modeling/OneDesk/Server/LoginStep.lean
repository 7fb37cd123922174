import OneDesk.Server.MessageFrame
import OneDesk.Server.Start

/-!
# How a login changes a connection

A login request adds a kind of connection to those asked for before, and a way
to be approved turns the kinds asked for into what is granted.  Both are
functions of the login part alone; the handlers of a login are shown to compute
them, to make no password known, and to announce nothing but the powers asked
for.
-/

namespace OneDesk
namespace Server

open OneDesk.Stream OneDesk.Common

namespace LoginRequest

variable (env : Env) (token : Option TerminalUserToken) (lr : LoginRequest)

/-- The kind of connection asked for is not available. -/
def refused : Bool :=
  match lr.union with
  | some (.fileTransfer _ _) => !env.permission "enable-file-transfer"
  | some .viewCamera => !env.permission "enable-camera"
  | some (.terminal serviceId) =>
      !env.permission "enable-terminal" ||
        (env.build.os == .windows && lr.osLogin.username != "" && !env.isInstalled) ||
        (!env.build.isMobile &&
          ((env.fillTerminalUserToken token lr.osLogin).2.isSome ||
            env.terminalUserMismatch serviceId
              (env.fillTerminalUserToken token lr.osLogin).1))
  | some (.portForward host port) =>
      !env.permission "enable-tunnel" ||
        !env.connects (World.forwardAddress host port)
  | none => env.isInPrivacyMode

/-- The desktop is there, or at least a password can be checked. -/
def desktopReady : Bool :=
  World.desktopError env lr == "" ||
    World.desktopError env lr == "Desktop session not ready"

/-- The host gives the connection up because of this request. -/
def turnedAway : Bool :=
  lr.refused env token || lr.desktopReady env && !World.dialed env lr

/-- The request gets as far as the question who approves it. -/
def considered : Bool :=
  !lr.refused env token && lr.desktopReady env && World.dialed env lr

end LoginRequest

namespace LoginState

variable (login : LoginState)

/-- Authorized for the kind asked for. -/
def granted : LoginState :=
  { login with authorized := true, authedConnId := some login.authConnType }

/-- After `send_logon_response`, with or without its second factor. -/
def logon (missing : Bool) : LoginState :=
  if login.authorized || missing then login else login.granted

/-- The second factor is not asked for any more. -/
def unlocked : LoginState := { login with require2fa := none }

/-- The peer answered a switch of sides. -/
def switched : LoginState := { login with fromSwitch := true }

/-- After `on_close`. -/
def hungUp : LoginState :=
  if login.closed then login
  else { login with closed := true, portForwardSocket := none }

/-- The kind of connection a request adds to those asked for before. -/
def asking (env : Env) (lr : LoginRequest) : LoginState :=
  match lr.union with
  | some (.fileTransfer dir showHidden) =>
      if env.permission "enable-file-transfer" then
        { login with fileTransfer := some (dir, showHidden) }
      else login
  | some .viewCamera =>
      if env.permission "enable-camera" then { login with viewCamera := true }
      else login
  | some (.terminal _) =>
      if !env.permission "enable-terminal" ||
          (env.build.os == .windows && lr.osLogin.username != "" &&
            !env.isInstalled) then
        login
      else { login with terminal := true }
  | some (.portForward host port) =>
      if env.permission "enable-tunnel" then
        let address := World.forwardAddress host port
        { login with
          portForwardAddress := address
          portForwardSocket :=
            if env.connects address then some address
            else login.portForwardSocket }
      else login
  | none => login

@[simp] theorem logon_of_authorized
    {login : LoginState}
    (authorized : login.authorized = true)
    (missing : Bool) :
    login.logon missing = login := by
  simp [logon, authorized]

@[simp] theorem logon_missing : login.logon true = login := by
  simp [logon]

theorem logon_present
    {login : LoginState}
    (unauthorized : login.authorized = false) :
    login.logon false = login.granted := by
  simp [logon, unauthorized]

@[simp] theorem logon_false_authorized : (login.logon false).authorized = true := by
  unfold logon
  split
  next already => simpa using already
  next => rfl

/-- Asking adds to the kinds and to the target of a connection only. -/
theorem asking_frame (env : Env) (lr : LoginRequest) :
    ∃ fileTransfer viewCamera terminal socket address, login.asking env lr =
      { login with
        fileTransfer := fileTransfer
        viewCamera := viewCamera
        terminal := terminal
        portForwardSocket := socket
        portForwardAddress := address } := by
  unfold asking
  split
  · split <;> exact ⟨_, _, _, _, _, rfl⟩
  · split <;> exact ⟨_, _, _, _, _, rfl⟩
  · split <;> exact ⟨_, _, _, _, _, rfl⟩
  · split <;> exact ⟨_, _, _, _, _, rfl⟩
  · exact ⟨_, _, _, _, _, rfl⟩

/-- What is asked for does not depend on the request stored. -/
theorem asking_stored
    (env : Env)
    (lr stored : LoginRequest)
    (require2fa : Option String) :
    { login with lr := stored, require2fa := require2fa }.asking env lr =
      { login.asking env lr with lr := stored, require2fa := require2fa } := by
  unfold asking
  cases lr.union with
  | none => rfl
  | some union =>
      cases union with
      | fileTransfer dir showHidden => dsimp only; split <;> rfl
      | viewCamera => dsimp only; split <;> rfl
      | terminal serviceId => dsimp only; split <;> rfl
      | portForward host port => dsimp only; split <;> rfl

@[simp] theorem asking_authorized (env : Env) (lr : LoginRequest) :
    (login.asking env lr).authorized = login.authorized := by
  obtain ⟨_, _, _, _, _, same⟩ := login.asking_frame env lr
  rw [same]

@[simp] theorem asking_closed (env : Env) (lr : LoginRequest) :
    (login.asking env lr).closed = login.closed := by
  obtain ⟨_, _, _, _, _, same⟩ := login.asking_frame env lr
  rw [same]

@[simp] theorem logon_closed (missing : Bool) :
    (login.logon missing).closed = login.closed := by
  unfold logon
  split <;> rfl

end LoginState

/-- What a connection can be used for once it is authorized. -/
structure Powers where
  fileTransfer : Bool
  viewCamera : Bool
  terminal : Bool
  target : String
  deriving DecidableEq

/-- The powers asked for so far. -/
def LoginState.powers (login : LoginState) : Powers :=
  ⟨login.fileTransfer.isSome, login.viewCamera, login.terminal,
    login.portForwardAddress⟩

/-- The powers a login message shows. -/
def CmLogin.powers (cm : CmLogin) : Powers :=
  ⟨cm.isFileTransfer, cm.isViewCamera, cm.isTerminal, cm.portForward⟩

@[simp] theorem LoginState.logon_powers
    (login : LoginState)
    (missing : Bool) :
    (login.logon missing).powers = login.powers := by
  unfold LoginState.logon
  split <;> rfl

/-- A password the tables know: none at all, the temporary password, or that of
a session. -/
def LoginTables.Knows (tables : LoginTables) (password : Bytes) : Prop :=
  password = [] ∨ password = tables.temporaryPassword ∨
    ∃ key session, tables.sessions key = some session ∧
      session.randomPassword = password

/-- Tables after a handler: the temporary password is the same, and sessions
have no password that was not known before. -/
structure Remembers (before after : LoginTables) : Prop where
  temporary : after.temporaryPassword = before.temporaryPassword
  sessions : ∀ key session, after.sessions key = some session →
    before.Knows session.randomPassword

namespace Remembers

theorem of_eq
    {before after : LoginTables}
    (temporary : after.temporaryPassword = before.temporaryPassword)
    (sessions : after.sessions = before.sessions) :
    Remembers before after := by
  refine ⟨temporary, ?_⟩
  intro key session found
  rw [sessions] at found
  exact .inr (.inr ⟨key, session, found, rfl⟩)

/-- What is known after was known before. -/
theorem knows
    {before after : LoginTables}
    (remembers : Remembers before after)
    {password : Bytes}
    (known : after.Knows password) :
    before.Knows password := by
  rcases known with empty | temporary | ⟨key, session, stored, same⟩
  · exact .inl empty
  · exact .inr (.inl (temporary.trans remembers.temporary))
  · rw [← same]
    exact remembers.sessions key session stored

theorem trans
    {first second third : LoginTables}
    (left : Remembers first second)
    (right : Remembers second third) :
    Remembers first third where
  temporary := right.temporary.trans left.temporary
  sessions := fun key session found => left.knows (right.sessions key session found)

/-- One session is replaced or removed. -/
theorem of_update
    {before after : LoginTables}
    {key : SessionKey}
    {replaced : Option Session}
    (temporary : after.temporaryPassword = before.temporaryPassword)
    (sessions : after.sessions = Function.update before.sessions key replaced)
    (known : ∀ session, replaced = some session →
      before.Knows session.randomPassword) :
    Remembers before after := by
  refine ⟨temporary, ?_⟩
  intro current session found
  rw [sessions] at found
  by_cases same : current = key
  · subst same
    rw [Function.update_self] at found
    exact known session found
  · rw [Function.update_of_ne same] at found
    exact .inr (.inr ⟨current, session, found, rfl⟩)

end Remembers

/-- A handler gives the connection a new login part; no password becomes known,
every new effect is allowed, and so is the release of every modifier key held
anew. -/
structure Leads (allowed : Effect → Prop) (login : LoginState)
    (before after : World) : Prop where
  login : after.conn.toLoginState = login
  remembers : Remembers before.host.toLoginTables after.host.toLoginTables
  phase : after.phase = before.phase
  pressed : ∀ key ∈ after.conn.pressedModifiers,
    key ∈ before.conn.pressedModifiers ∨ allowed (.releaseKey key)
  out : ∀ effect ∈ after.out, effect ∈ before.out ∨ allowed effect

namespace Leads

variable {allowed : Effect → Prop}

theorem refl (world : World) : Leads allowed world.conn.toLoginState world world :=
  ⟨rfl, .of_eq rfl rfl, rfl, fun _ member => .inl member, fun _ member => .inl member⟩

theorem trans
    {middleLogin login : LoginState}
    {before middle after : World}
    (left : Leads allowed middleLogin before middle)
    (right : Leads allowed login middle after) :
    Leads allowed login before after where
  login := right.login
  remembers := left.remembers.trans right.remembers
  phase := right.phase.trans left.phase
  pressed := by
    intro key member
    rcases right.pressed key member with earlier | new
    · exact left.pressed key earlier
    · exact .inr new
  out := by
    intro effect member
    rcases right.out effect member with earlier | new
    · exact left.out effect earlier
    · exact .inr new

/-- A handler that keeps the login can follow. -/
theorem keep
    {login : LoginState}
    {before middle after : World}
    (left : Leads allowed login before middle)
    (right : Keeps allowed middle after) :
    Leads allowed login before after where
  login := right.login.trans left.login
  remembers := by
    rw [right.tables]
    exact left.remembers
  phase := right.phase.trans left.phase
  pressed := by
    rw [right.pressed]
    exact left.pressed
  out := by
    intro effect member
    rcases right.out effect member with earlier | new
    · exact left.out effect earlier
    · exact .inr new

/-- A handler that changes tables only can follow. -/
theorem follow
    {login : LoginState}
    {before middle after : World}
    (left : Leads allowed login before middle)
    (right : Leads allowed middle.conn.toLoginState middle after) :
    Leads allowed login before after := by
  rw [left.login] at right
  exact left.trans right

theorem of_keeps
    {before after : World}
    (kept : Keeps allowed before after) :
    Leads allowed before.conn.toLoginState before after :=
  (refl before).keep kept

/-- A change of the connection. -/
theorem modify
    (world : World)
    {change : Connection → Connection}
    {login : LoginState}
    (changed : (change world.conn).toLoginState = login)
    (pressed : (change world.conn).pressedModifiers = world.conn.pressedModifiers) :
    Leads allowed login world (world.modify change) where
  login := changed
  remembers := .of_eq rfl rfl
  phase := rfl
  pressed := fun _ member => .inl (pressed ▸ member)
  out := fun _ member => .inl member

/-- A change of the host that makes no password known. -/
theorem modifyHost
    (world : World)
    {change : Host → Host}
    (remembers : Remembers world.host.toLoginTables
      (change world.host).toLoginTables) :
    Leads allowed world.conn.toLoginState world (world.modifyHost change) :=
  ⟨rfl, remembers, rfl, fun _ member => .inl member, fun _ member => .inl member⟩

end Leads

namespace Host

variable (env : Env) (host : Host)

theorem retainSessions_remembers :
    Remembers host.toLoginTables (host.retainSessions env).toLoginTables := by
  refine ⟨rfl, ?_⟩
  intro key session found
  exact .inr (.inr ⟨key, session, (Option.mem_filter_iff.mp found).1, rfl⟩)

theorem updateOrInsertSession_remembers
    (key : SessionKey)
    (tfa : Option Bool) :
    Remembers host.toLoginTables (host.updateOrInsertSession env key
      (some host.temporaryPassword) tfa).toLoginTables := by
  unfold updateOrInsertSession
  split
  · refine .of_update rfl rfl ?_
    rintro session ⟨⟩
    exact .inr (.inl rfl)
  · refine .of_update rfl rfl ?_
    rintro session ⟨⟩
    exact .inr (.inl rfl)

theorem setSession2fa_remembers (key : SessionKey) :
    Remembers host.toLoginTables (host.setSession2fa env key).toLoginTables := by
  unfold setSession2fa
  split
  next old stored =>
    refine .of_update rfl rfl ?_
    rintro session ⟨⟩
    exact .inr (.inr ⟨key, old, stored, rfl⟩)
  next =>
    refine .of_update rfl rfl ?_
    rintro session ⟨⟩
    exact .inl rfl

theorem checkRemoveSession_remembers (connId : Int) (key : SessionKey) :
    Remembers host.toLoginTables (host.checkRemoveSession connId key).toLoginTables := by
  unfold checkRemoveSession
  split
  · dsimp only
    split
    · refine .of_update rfl rfl ?_
      rintro session ⟨⟩
    · exact .of_eq rfl rfl
  · exact .of_eq rfl rfl

theorem touch_remembers (cell : Option Nat) :
    Remembers host.toLoginTables (host.touch env cell).toLoginTables := by
  cases cell with
  | none => exact .of_eq rfl rfl
  | some cell => exact .of_eq rfl rfl

end Host

namespace World

/-- The world in which it is decided about a login request. -/
def asking (env : Env) (world : World) (lr : LoginRequest) : World :=
  (world.handleLoginRequestWithoutValidation env lr).modify fun conn =>
    { conn with toLoginState := conn.toLoginState.asking env lr }

/-- The login in which it is decided is the one asked for. -/
theorem asking_login (env : Env) (world : World) (lr : LoginRequest) :
    ∃ require2fa, (world.asking env lr).conn.toLoginState =
      { world.conn.asking env lr with lr := lr, require2fa := require2fa } :=
  ⟨_, LoginState.asking_stored world.conn.toLoginState env lr lr _⟩

/-- The cascade approves a login request. -/
def approves (env : Env) (world : World) (lr : LoginRequest) : Bool :=
  world.conn.shouldAutoApproveFileTransfer world.host lr.myId ||
    env.approveMode == .auto ||
    desktopError env lr == "" && world.accepts env lr

/-- `validate_password` accepts the temporary and the permanent password, each
where it is enabled. -/
theorem validatePassword_snd (env : Env) (world : World) :
    (world.validatePassword env).2 =
      (env.temporaryEnabled &&
          world.conn.validateOnePassword env world.host.temporaryPassword ||
        env.permanentEnabled &&
          world.conn.validateOnePassword env env.permanentPassword) := by
  unfold validatePassword
  split
  · simp [*]
  · split <;> simp [*]

namespace SameLoginCongr

variable (env : Env) {first second : World} (same : SameLogin first second)

include same

theorem validateOnePassword (password : Bytes) :
    second.conn.validateOnePassword env password =
      first.conn.validateOnePassword env password := by
  unfold Connection.validateOnePassword Connection.passwordResponse
  rw [same.login]

theorem isRecentSession (tfa : Bool) :
    (second.isRecentSession env tfa).2 = (first.isRecentSession env tfa).2 := by
  unfold World.isRecentSession Host.retainSessions modifyHost
  simp only [validateOnePassword env same, same.login, same.tables]

theorem checkFailure (table : Fin 2) :
    (second.checkFailure env table).2 = (first.checkFailure env table).2 := by
  unfold World.checkFailure
  simp only [same.login, same.tables]

theorem validatePassword :
    (second.validatePassword env).2 = (first.validatePassword env).2 := by
  rw [validatePassword_snd, validatePassword_snd, validateOnePassword env same,
    validateOnePassword env same, same.tables]

theorem secondFactorMissing :
    (second.secondFactorMissing env).2 = (first.secondFactorMissing env).2 := by
  unfold World.secondFactorMissing
  rw [same.login]
  split
  · dsimp only
    rw [isRecentSession env same]
  · rfl

theorem accepts (lr : LoginRequest) :
    second.accepts env lr = first.accepts env lr := by
  unfold World.accepts World.clickOnly Env.hasValidPassword
  rw [isRecentSession env same, checkFailure env same, validatePassword env same,
    same.tables]

theorem approves (lr : LoginRequest) :
    second.approves env lr = first.approves env lr := by
  unfold World.approves Connection.shouldAutoApproveFileTransfer
  rw [accepts env same, same.login, same.tables]

end SameLoginCongr

section Login

variable {allowed : Effect → Prop}
  (ordinary : ∀ effect, effect.isOrdinary = true → allowed effect)
  (env : Env) (world : World)

theorem isRecentSession_leads (tfa : Bool) :
    Leads allowed world.conn.toLoginState world (world.isRecentSession env tfa).1 :=
  Leads.modifyHost world (Host.retainSessions_remembers env world.host)

theorem validatePassword_leads :
    Leads allowed world.conn.toLoginState world (world.validatePassword env).1 := by
  unfold validatePassword
  split
  · dsimp only
    refine Leads.modifyHost world ?_
    exact Host.updateOrInsertSession_remembers env world.host _ _
  · split
    · exact Leads.refl world
    · exact Leads.refl world

theorem updateFailure_leads
    (checked : Checked)
    (removing : Bool)
    (table : Fin 2) :
    Leads allowed world.conn.toLoginState world
      (world.updateFailure checked removing table) :=
  Leads.modifyHost world (.of_eq rfl rfl)

theorem secondFactorMissing_leads :
    Leads allowed world.conn.toLoginState world (world.secondFactorMissing env).1 := by
  unfold secondFactorMissing
  split
  · exact isRecentSession_leads env world true
  · exact Leads.refl world

theorem secondFactorMissing_of_unlocked
    (unlocked : world.conn.require2fa = none) :
    (world.secondFactorMissing env).2 = false := by
  simp [secondFactorMissing, unlocked]

theorem secondFactorMissing_of_fromSwitch
    (fromSwitch : world.conn.fromSwitch = true) :
    (world.secondFactorMissing env).2 = false := by
  unfold secondFactorMissing
  split
  · simp [fromSwitch]
  · rfl

include ordinary

theorem checkFailure_keeps (table : Fin 2) :
    Keeps allowed world (world.checkFailure env table).1 := by
  unfold checkFailure
  dsimp only
  split
  next refusal _ =>
    exact (sendLoginError_keeps ordinary env world refusal.error).trans
      (Keeps.emit _ (ordinary _ rfl))
  next => exact Keeps.refl world

theorem authorize_leads :
    Leads allowed world.conn.granted world world.authorize := by
  have authorized : Leads allowed world.conn.granted world
      ((world.modify fun conn =>
        { conn with
          authorized := true
          authedConnId := some world.conn.authConnType
          sessionLastRecvTime :=
            (world.host.sessions world.conn.sessionKey).map Session.lastRecvTime
        }).modifyHost fun host =>
          { host with
            authedConns := host.authedConns ++
              [⟨world.conn.id, world.conn.authConnType, world.conn.sessionKey,
                world.conn.authConnType == .remote &&
                  getVersionNumber world.conn.lr.version ≥
                    getVersionNumber "1.3.9" &&
                  world.conn.lr.myPlatform == "Windows"⟩] }) :=
    ⟨rfl, .of_eq rfl rfl, rfl, fun _ member => .inl member,
      fun _ member => .inl member⟩
  unfold authorize
  dsimp only
  split
  · exact authorized.keep (Keeps.emit _ (ordinary _ rfl))
  · exact authorized

/-- `send_logon_response` authorizes unless a second factor is missing. -/
theorem sendLogonResponse_leads
    (granted : world.conn.authorized = false → ∀ name, allowed (.subscribed name)) :
    Leads allowed (world.conn.logon (world.secondFactorMissing env).2) world
      (world.sendLogonResponse env) := by
  have factor : Leads allowed world.conn.toLoginState world
      (world.secondFactorMissing env).1 :=
    secondFactorMissing_leads env world
  unfold sendLogonResponse
  cases authorized : world.conn.authorized with
  | true =>
      rw [LoginState.logon_of_authorized authorized]
      exact Leads.refl world
  | false =>
      simp only [Bool.false_eq_true, ↓reduceIte]
      cases missing : (world.secondFactorMissing env).2 with
      | true =>
          rw [LoginState.logon_missing]
          exact (factor.keep (Keeps.emit _ (ordinary _ rfl))).keep
            (sendLoginError_keeps ordinary env _ _)
      | false =>
          rw [LoginState.logon_present authorized]
          simp only [Bool.false_eq_true, ↓reduceIte]
          have granting := authorize_leads ordinary (world.secondFactorMissing env).1
          rw [factor.login] at granting
          exact (factor.trans granting).keep
            (answerLogon_keeps ordinary env _ (granted authorized))

/-- Without a missing second factor, `send_logon_response` authorizes. -/
theorem sendLogonResponse_present
    {login : LoginState}
    {current : World}
    (reached : Leads allowed login world current)
    (present : (current.secondFactorMissing env).2 = false)
    (granted : login.authorized = false → ∀ name, allowed (.subscribed name)) :
    Leads allowed (login.logon false) world (current.sendLogonResponse env) := by
  have logon := sendLogonResponse_leads ordinary env current
    (by rw [reached.login]; exact granted)
  rw [present, reached.login] at logon
  exact reached.trans logon

omit ordinary in
/-- The connection manager is told about the login reached. -/
theorem tryStartCm_leads
    {login : LoginState}
    {current : World}
    (reached : Leads allowed login world current)
    (announced : ∀ cm : CmLogin, cm.powers = login.powers →
      allowed (.toCm (.login cm)))
    (peerId name : String)
    (authorized : Bool) :
    Leads allowed login world (current.tryStartCm peerId name authorized) := by
  refine reached.keep (Keeps.emit current (announced _ ?_))
  rw [← reached.login]
  rfl

/-- An approved login is authorized unless a second factor is missing. -/
theorem approveLogin_leads
    (lr : LoginRequest)
    (granted : ∀ name, allowed (.subscribed name))
    (announced : ∀ cm : CmLogin, cm.powers = world.conn.powers →
      allowed (.toCm (.login cm))) :
    Leads allowed (world.conn.logon (world.secondFactorMissing env).2) world
      (world.approveLogin env lr) := by
  have logon := sendLogonResponse_leads ordinary env world (fun _ => granted)
  refine tryStartCm_leads world logon ?_ _ _ _
  rw [LoginState.logon_powers]
  exact announced

theorem loginByPassword_leads
    (lr : LoginRequest)
    (errMsg : String)
    (granted : ∀ name, allowed (.subscribed name))
    (announced : ∀ cm : CmLogin, cm.powers = world.conn.powers →
      allowed (.toCm (.login cm))) :
    ∃ missing, Leads allowed
      (if errMsg = "" ∧ (world.checkFailure env 0).2.refusal.isNone = true ∧
          (world.validatePassword env).2 = true then
        world.conn.logon missing
      else world.conn.toLoginState) world (world.loginByPassword env lr errMsg) := by
  have checked := checkFailure_keeps ordinary env world 0
  unfold loginByPassword
  dsimp only
  rw [SameLoginCongr.validatePassword env checked.toSameLogin]
  cases refusal : (world.checkFailure env 0).2.refusal with
  | some reason =>
      refine ⟨true, ?_⟩
      simpa using Leads.of_keeps checked
  | none =>
      have counted : ∀ removing, Leads allowed world.conn.toLoginState world
          (((world.checkFailure env 0).1.validatePassword env).1.updateFailure
            (world.checkFailure env 0).2 removing 0) := by
        intro removing
        refine Leads.follow ?_ (updateFailure_leads _ _ _ _)
        exact (Leads.of_keeps checked).follow (validatePassword_leads env _)
      by_cases valid : (world.validatePassword env).2 = true
      · by_cases ready : errMsg = ""
        · have logon := approveLogin_leads ordinary env _ lr granted
            (by rw [(counted true).login]; exact announced)
          rw [(counted true).login] at logon
          generalize (secondFactorMissing env _).2 = missing at logon
          refine ⟨missing, ?_⟩
          simpa [valid, ready] using (counted true).trans logon
        · refine ⟨true, ?_⟩
          simpa [valid, ready] using
            (counted true).keep (sendLoginError_keeps ordinary env _ errMsg)
      · refine ⟨true, ?_⟩
        by_cases ready : errMsg = ""
        · have told := (counted false).keep
            (sendLoginError_keeps ordinary env _ "Wrong Password")
          simpa [valid, ready] using
            tryStartCm_leads world told announced lr.myId lr.myName false
        · simpa [valid, ready] using (counted false).keep
            (sendLoginError_keeps ordinary env _
              "Desktop session not ready, password wrong")

/-- The branches of the cascade after the one for clicks. -/
theorem loginWithoutClick_leads
    (lr : LoginRequest)
    (granted : ∀ name, allowed (.subscribed name))
    (announced : ∀ cm : CmLogin, cm.powers = world.conn.powers →
      allowed (.toCm (.login cm))) :
    ∃ missing, Leads allowed
      (if desktopError env lr == "" && ((world.isRecentSession env false).2 ||
          !lr.password.isEmpty && (world.checkFailure env 0).2.refusal.isNone &&
            (world.validatePassword env).2) then
        world.conn.logon missing
      else world.conn.toLoginState) world
      (if (world.isRecentSession env false).2 then
        (if desktopError env lr = "" then
          (world.isRecentSession env false).1.approveLogin env lr
        else (world.isRecentSession env false).1.sendLoginError env
          (desktopError env lr), true)
      else if lr.password.isEmpty then
        (if desktopError env lr = "" then
          (world.isRecentSession env false).1.tryStartCm lr.myId lr.myName false
        else (world.isRecentSession env false).1.sendLoginError env
          "Desktop session not ready, password empty", true)
      else ((world.isRecentSession env false).1.loginByPassword env lr
        (desktopError env lr), true)).1 := by
  have recent : Leads allowed world.conn.toLoginState world
      (world.isRecentSession env false).1 :=
    isRecentSession_leads env world false
  have told : ∀ cm : CmLogin,
      cm.powers = (world.isRecentSession env false).1.conn.powers →
        allowed (.toCm (.login cm)) := by
    rw [recent.login]
    exact announced
  cases known : (world.isRecentSession env false).2 with
  | true =>
      by_cases ready : desktopError env lr = ""
      · have logon := approveLogin_leads ordinary env _ lr granted told
        rw [recent.login] at logon
        generalize (secondFactorMissing env _).2 = missing at logon
        refine ⟨missing, ?_⟩
        simpa [ready] using recent.trans logon
      · refine ⟨true, ?_⟩
        simpa [ready] using recent.keep (sendLoginError_keeps ordinary env _ _)
  | false =>
      cases empty : lr.password.isEmpty with
      | true =>
          refine ⟨true, ?_⟩
          by_cases ready : desktopError env lr = ""
          · simpa [ready] using
              tryStartCm_leads world recent announced lr.myId lr.myName false
          · simpa [ready] using recent.keep (sendLoginError_keeps ordinary env _ _)
      | false =>
          obtain ⟨missing, logon⟩ := loginByPassword_leads ordinary env
            (world.isRecentSession env false).1 lr (desktopError env lr) granted told
          have valid : ((world.isRecentSession env false).1.validatePassword env).2 =
              (world.validatePassword env).2 := by
            rw [validatePassword_snd, validatePassword_snd]
            rfl
          have checked : ((world.isRecentSession env false).1.checkFailure env 0).2 =
              (world.checkFailure env 0).2 := rfl
          rw [valid, checked, recent.login] at logon
          refine ⟨missing, ?_⟩
          simpa [and_assoc] using recent.trans logon

/-- What the cascade does: it gives up a request that dialed someone else, and
logs in what it approves. -/
theorem loginCascade_leads
    (lr : LoginRequest)
    (granted : ∀ name, allowed (.subscribed name))
    (announced : ∀ cm : CmLogin, cm.powers = world.conn.powers →
      allowed (.toCm (.login cm))) :
    ∃ missing, Leads allowed
      (if dialed env lr && world.approves env lr then world.conn.logon missing
      else world.conn.toLoginState) world
      (world.loginCascade env lr (desktopError env lr)).1 := by
  unfold loginCascade
  cases dialing : dialed env lr with
  | false =>
      refine ⟨true, ?_⟩
      simpa using Leads.of_keeps (sendLoginError_keeps ordinary env world "Offline")
  | true =>
      simp only [Bool.not_true, Bool.false_eq_true, ↓reduceIte, Bool.true_and]
      have approved := approveLogin_leads ordinary env world lr granted announced
      unfold approves
      cases auto : world.conn.shouldAutoApproveFileTransfer world.host lr.myId with
      | true => exact ⟨_, by simpa using approved⟩
      | false =>
          by_cases mode : env.approveMode = .auto
          · exact ⟨_, by simpa [mode] using approved⟩
          · have notAuto : (env.approveMode == .auto) = false := by
              simpa using mode
            simp only [Bool.false_eq_true, ↓reduceIte, Bool.false_or, mode, notAuto]
            unfold accepts
            cases click : world.clickOnly env with
            | true =>
                refine ⟨true, ?_⟩
                have told := tryStartCm_leads world (Leads.refl world) announced
                  lr.myId lr.myName false
                simp only [↓reduceIte, Bool.not_true, Bool.false_and, Bool.and_false,
                  Bool.false_eq_true]
                split
                · exact told.keep (sendLoginError_keeps ordinary env _ _)
                · exact told
            | false =>
                simp only [Bool.false_eq_true, ↓reduceIte, Bool.not_false, Bool.true_and]
                exact loginWithoutClick_leads ordinary env world lr granted announced

omit ordinary in
theorem loginCascade_snd (lr : LoginRequest) (errMsg : String) :
    (world.loginCascade env lr errMsg).2 = dialed env lr := by
  unfold loginCascade
  cases dialed env lr with
  | false => rfl
  | true =>
      simp only [Bool.not_true, Bool.false_eq_true, ↓reduceIte]
      split
      · rfl
      · split
        · rfl
        · split
          · rfl
          · split
            · rfl
            · split <;> rfl

theorem logonUser_keeps (osLogin : OsLogin) :
    Keeps allowed world (world.logonUser env osLogin) := by
  unfold logonUser
  split
  · exact Keeps.emit world (ordinary _ rfl)
  · exact Keeps.refl world

theorem tryStartDesktop_keeps (lr : LoginRequest) :
    Keeps allowed world (world.tryStartDesktop env lr) := by
  unfold tryStartDesktop
  split
  · exact Keeps.emit world (ordinary _ rfl)
  · exact Keeps.refl world

/-- Before it decides, a login request starts what the session needs. -/
theorem started_keeps (lr : LoginRequest) :
    Keeps allowed world ((world.tryStartCmIpc env).tryStartDesktop env lr) :=
  (tryStartCmIpc_keeps env world).trans (tryStartDesktop_keeps ordinary env _ lr)

theorem checkTerminalUser_keeps (lr : LoginRequest) (serviceId : String) :
    Keeps allowed world (world.checkTerminalUser env lr serviceId).1 := by
  have filled : ∀ token, Keeps allowed world
      ((world.logonUser env lr.osLogin).modify fun conn =>
        { conn with terminalUserToken := token }) :=
    fun token => (logonUser_keeps ordinary env world _).trans (Keeps.modify _ rfl rfl)
  unfold checkTerminalUser
  split
  · exact Keeps.refl world
  · dsimp only
    split
    · exact (filled _).trans (sendLoginError_keeps ordinary env _ _)
    · split
      · exact (filled _).trans (sendLoginError_keeps ordinary env _ _)
      · exact filled _

theorem loginTerminal_leads (lr : LoginRequest) (serviceId : String) :
    Leads allowed
      (if !env.permission "enable-terminal" ||
          (env.build.os == .windows && lr.osLogin.username != "" &&
            !env.isInstalled) then
        world.conn.toLoginState
      else { world.conn.toLoginState with terminal := true })
      world (world.loginTerminal env lr serviceId).1 := by
  unfold loginTerminal
  cases env.permission "enable-terminal" with
  | false => exact Leads.of_keeps (sendLoginError_keeps ordinary env world _)
  | true =>
      simp only [Bool.not_true, Bool.false_eq_true, ↓reduceIte, Bool.false_or]
      by_cases portable : env.build.os = .windows ∧ lr.osLogin.username ≠ "" ∧
          env.isInstalled = false
      · rw [if_pos portable, if_pos (by simpa [and_assoc] using portable)]
        exact Leads.of_keeps (sendLoginError_keeps ordinary env world _)
      · rw [if_neg portable, if_neg (by simpa [and_assoc] using portable)]
        refine Leads.keep ?_ (checkTerminalUser_keeps ordinary env _ lr serviceId)
        exact Leads.modify world rfl rfl

theorem loginPortForward_leads (host : String) (port : Int) :
    Leads allowed
      (if env.permission "enable-tunnel" then
        { world.conn.toLoginState with
          portForwardAddress := forwardAddress host port
          portForwardSocket :=
            if env.connects (forwardAddress host port) then
              some (forwardAddress host port)
            else world.conn.portForwardSocket }
      else world.conn.toLoginState)
      world (world.loginPortForward env host port).1 := by
  unfold loginPortForward
  cases env.permission "enable-tunnel" with
  | false => exact Leads.of_keeps (sendLoginError_keeps ordinary env world _)
  | true =>
      simp only [Bool.not_true, Bool.false_eq_true, ↓reduceIte]
      have tried : Leads allowed
          { world.conn.toLoginState with
            portForwardAddress := forwardAddress host port } world
          ((world.modify fun conn => { conn with
            portForwardAddress := forwardAddress host port }).emit
            (.connect (forwardAddress host port))) := by
        refine Leads.keep ?_ (Keeps.emit _ (ordinary _ rfl))
        exact Leads.modify world rfl rfl
      cases env.connects (forwardAddress host port) with
      | true =>
          simp only [↓reduceIte]
          refine tried.trans ?_
          exact Leads.modify _ rfl rfl
      | false => exact tried.keep (sendLoginError_keeps ordinary env _ _)

/-- Asking for a kind of connection. -/
theorem loginKind_leads (lr : LoginRequest) :
    Leads allowed (world.conn.asking env lr) world (world.loginKind env lr).1 := by
  unfold loginKind LoginState.asking
  cases lr.union with
  | none =>
      cases env.isInPrivacyMode with
      | true => exact Leads.of_keeps (sendLoginError_keeps ordinary env world _)
      | false => exact Leads.refl world
  | some union =>
      cases union with
      | fileTransfer dir showHidden =>
          cases env.permission "enable-file-transfer" with
          | true =>
              simp only [↓reduceIte]
              exact Leads.modify world rfl rfl
          | false => exact Leads.of_keeps (sendLoginError_keeps ordinary env world _)
      | viewCamera =>
          cases env.permission "enable-camera" with
          | true =>
              simp only [↓reduceIte]
              exact Leads.modify world rfl rfl
          | false => exact Leads.of_keeps (sendLoginError_keeps ordinary env world _)
      | terminal serviceId => exact loginTerminal_leads ordinary env world lr serviceId
      | portForward host port =>
          exact loginPortForward_leads ordinary env world host port

omit ordinary in
theorem logonUser_host (osLogin : OsLogin) :
    (world.logonUser env osLogin).host = world.host := by
  unfold logonUser
  split <;> rfl

omit ordinary in
theorem checkTerminalUser_host (lr : LoginRequest) (serviceId : String) :
    (world.checkTerminalUser env lr serviceId).1.host = world.host := by
  unfold checkTerminalUser
  split
  · rfl
  · dsimp only
    split
    · exact logonUser_host env world lr.osLogin
    · split
      · exact logonUser_host env world lr.osLogin
      · exact logonUser_host env world lr.osLogin

omit ordinary in
/-- Asking for a kind of connection changes nothing on the host. -/
theorem loginKind_host (lr : LoginRequest) :
    (world.loginKind env lr).1.host = world.host := by
  unfold loginKind loginTerminal loginPortForward
  split
  · split <;> rfl
  · split <;> rfl
  · split
    · rfl
    · split
      · rfl
      · exact checkTerminalUser_host env _ lr _
  · split
    · rfl
    · dsimp only
      split <;> rfl
  · split <;> rfl

omit ordinary in
theorem checkTerminalUser_snd (lr : LoginRequest) (serviceId : String) :
    (world.checkTerminalUser env lr serviceId).2 =
      !(!env.build.isMobile &&
        ((env.fillTerminalUserToken world.conn.terminalUserToken lr.osLogin).2.isSome ||
          env.terminalUserMismatch serviceId
            (env.fillTerminalUserToken world.conn.terminalUserToken lr.osLogin).1)) := by
  unfold checkTerminalUser
  cases env.build.isMobile with
  | true => rfl
  | false =>
      simp only [Bool.false_eq_true, ↓reduceIte, Bool.not_false, Bool.true_and]
      generalize env.fillTerminalUserToken _ _ = token
      cases token.2 with
      | some error => rfl
      | none => cases env.terminalUserMismatch serviceId token.1 <;> rfl

omit ordinary in
theorem loginKind_snd (lr : LoginRequest) :
    (world.loginKind env lr).2 = !lr.refused env world.conn.terminalUserToken := by
  unfold loginKind LoginRequest.refused
  cases lr.union with
  | none => cases env.isInPrivacyMode <;> rfl
  | some union =>
      cases union with
      | fileTransfer dir showHidden =>
          cases env.permission "enable-file-transfer" <;> rfl
      | viewCamera => cases env.permission "enable-camera" <;> rfl
      | terminal serviceId =>
          dsimp only
          unfold loginTerminal
          cases env.permission "enable-terminal" with
          | false => rfl
          | true =>
              by_cases portable : env.build.os = .windows ∧ lr.osLogin.username ≠ "" ∧
                  env.isInstalled = false
              · simp [portable]
              · have installed : (env.build.os == .windows &&
                    lr.osLogin.username != "" && !env.isInstalled) = false := by
                  simpa [and_assoc] using portable
                simp only [Bool.not_true, Bool.false_eq_true, ↓reduceIte, portable,
                  installed, Bool.false_or]
                exact checkTerminalUser_snd env (world.markTerminal serviceId) lr _
      | portForward host port =>
          dsimp only
          unfold loginPortForward
          cases env.permission "enable-tunnel" with
          | false => rfl
          | true =>
              simp only [Bool.not_true, Bool.false_eq_true, ↓reduceIte]
              cases env.connects (forwardAddress host port) <;> rfl

omit ordinary in
/-- The world in which it is decided agrees with the one the cascade sees. -/
theorem asking_sameLogin (lr : LoginRequest) :
    SameLogin (world.asking env lr)
      ((((world.handleLoginRequestWithoutValidation env lr).loginKind env lr
        ).1.tryStartCmIpc env).tryStartDesktop env lr) := by
  have asked : Leads (fun _ => True) _ _ _ :=
    loginKind_leads (fun _ _ => trivial) env
      (world.handleLoginRequestWithoutValidation env lr) lr
  have started : Keeps (fun _ => True) _ _ := started_keeps (fun _ _ => trivial) env
    ((world.handleLoginRequestWithoutValidation env lr).loginKind env lr).1 lr
  refine ⟨started.login.trans asked.login, ?_, started.phase.trans asked.phase⟩
  rw [started.tables, loginKind_host]
  rfl

/-- The cascade is reached and approves. -/
def admits (env : Env) (world : World) (lr : LoginRequest) : Bool :=
  lr.considered env world.conn.terminalUserToken &&
    (world.asking env lr).approves env lr

/-- A login request of a connection that is not authorized. -/
theorem onLoginRequest_leads
    (lr : LoginRequest)
    (unauthorized : world.conn.authorized = false)
    (granted : ∀ name, allowed (.subscribed name))
    (announced : ∀ cm : CmLogin, cm.powers = (world.asking env lr).conn.powers →
      allowed (.toCm (.login cm))) :
    (∃ missing, Leads allowed
      (if admits env world lr then (world.asking env lr).conn.logon missing
      else (world.asking env lr).conn.toLoginState)
      world (world.onLoginRequest env lr).1) ∧
    (world.onLoginRequest env lr).2 =
      !lr.turnedAway env world.conn.terminalUserToken := by
  have asked : Leads allowed (world.asking env lr).conn.toLoginState world
      ((world.handleLoginRequestWithoutValidation env lr).loginKind env lr).1 := by
    refine Leads.trans (Leads.modify world rfl rfl) (loginKind_leads ordinary env _ lr)
  have go : ((world.handleLoginRequestWithoutValidation env lr).loginKind env lr).2 =
      !lr.refused env world.conn.terminalUserToken := loginKind_snd env _ lr
  have same := asking_sameLogin env world lr
  unfold onLoginRequest admits LoginRequest.considered LoginRequest.turnedAway
  have stored : (world.handleLoginRequestWithoutValidation env lr).conn.authorized =
      false := unauthorized
  simp only [stored, Bool.false_eq_true, ↓reduceIte]
  generalize (world.handleLoginRequestWithoutValidation env lr).loginKind env lr =
    kind at asked go same
  obtain ⟨kind, continues⟩ := kind
  subst go
  cases lr.refused env world.conn.terminalUserToken with
  | true => exact ⟨⟨true, by simpa using asked⟩, rfl⟩
  | false =>
      simp only [Bool.not_false, Bool.true_and, Bool.false_or]
      have started := asked.keep (started_keeps ordinary env kind lr)
      by_cases ready : lr.desktopReady env = true
      · have goesOn : ¬(desktopError env lr ≠ "" ∧
            desktopError env lr ≠ "Desktop session not ready") := by
          simpa [LoginRequest.desktopReady, or_iff_not_imp_left] using ready
        rw [if_neg goesOn, ready]
        refine ⟨?_, by simp [loginCascade_snd]⟩
        obtain ⟨missing, decided⟩ := loginCascade_leads ordinary env
          ((kind.tryStartCmIpc env).tryStartDesktop env lr) lr granted
          (by rw [started.login]; exact announced)
        rw [SameLoginCongr.approves env same, started.login] at decided
        exact ⟨missing, started.trans decided⟩
      · have stops : desktopError env lr ≠ "" ∧
            desktopError env lr ≠ "Desktop session not ready" := by
          simpa [LoginRequest.desktopReady, not_or] using ready
        rw [if_pos stops]
        refine ⟨⟨true, ?_⟩, by simp [ready]⟩
        simpa [ready] using started.keep (sendLoginError_keeps ordinary env _ _)

omit ordinary in
/-- A login request of a connection that is not authorized ends the main loop if
it is turned away. -/
theorem onLoginRequest_snd
    (lr : LoginRequest)
    (unauthorized : world.conn.authorized = false) :
    (world.onLoginRequest env lr).2 =
      !lr.turnedAway env world.conn.terminalUserToken :=
  (@onLoginRequest_leads (fun _ => True) (fun _ _ => trivial) env world lr unauthorized
    (fun _ => trivial) (fun _ _ => trivial)).2

/-- A file transfer that is approved because of another connection lacks at most
its second factor. -/
theorem onLoginRequest_autoApproved
    (lr : LoginRequest)
    (unauthorized : world.conn.authorized = false)
    (considered : lr.considered env world.conn.terminalUserToken = true)
    (approved : (world.asking env lr).conn.shouldAutoApproveFileTransfer
      (world.asking env lr).host lr.myId = true)
    (granted : ∀ name, allowed (.subscribed name))
    (announced : ∀ cm : CmLogin, cm.powers = (world.asking env lr).conn.powers →
      allowed (.toCm (.login cm))) :
    Leads allowed ((world.asking env lr).conn.logon
      ((world.asking env lr).secondFactorMissing env).2) world
      (world.onLoginRequest env lr).1 := by
  have asked : Leads allowed (world.asking env lr).conn.toLoginState world
      ((world.handleLoginRequestWithoutValidation env lr).loginKind env lr).1 :=
    Leads.trans (Leads.modify world rfl rfl) (loginKind_leads ordinary env _ lr)
  have started := asked.keep (started_keeps ordinary env _ lr)
  have same := asking_sameLogin env world lr
  unfold LoginRequest.considered at considered
  simp only [Bool.and_eq_true, Bool.not_eq_true'] at considered
  obtain ⟨⟨notRefused, ready⟩, dialing⟩ := considered
  have go : ((world.handleLoginRequestWithoutValidation env lr).loginKind env lr).2 =
      !lr.refused env world.conn.terminalUserToken := loginKind_snd env _ lr
  rw [notRefused, Bool.not_false] at go
  have goesOn : ¬(desktopError env lr ≠ "" ∧
      desktopError env lr ≠ "Desktop session not ready") := by
    simpa [LoginRequest.desktopReady, or_iff_not_imp_left] using ready
  have stored : (world.handleLoginRequestWithoutValidation env lr).conn.authorized =
      false := unauthorized
  unfold onLoginRequest
  simp only [stored, Bool.false_eq_true, ↓reduceIte]
  generalize (world.handleLoginRequestWithoutValidation env lr).loginKind env lr =
    kind at go same started
  obtain ⟨kind, continues⟩ := kind
  subst go
  dsimp only at same started ⊢
  generalize (kind.tryStartCmIpc env).tryStartDesktop env lr = session at same started
  have approving : session.loginCascade env lr (desktopError env lr) =
      (session.approveLogin env lr, true) := by
    have auto : session.conn.shouldAutoApproveFileTransfer
        session.host lr.myId = true := by
      rw [← approved]
      unfold Connection.shouldAutoApproveFileTransfer
      rw [same.login, same.tables]
    simp [loginCascade, dialing, auto]
  rw [if_neg goesOn, approving]
  have logon := approveLogin_leads ordinary env session lr granted
    (by rw [started.login]; exact announced)
  rw [SameLoginCongr.secondFactorMissing env same, started.login] at logon
  exact started.trans logon

/-- A right code logs the connection in, whatever happened before. -/
theorem onAuth2fa_leads
    (code : String)
    (hwid : Bytes)
    (granted : world.conn.authorized = false → ∀ name, allowed (.subscribed name))
    (announced : ∀ cm : CmLogin, cm.powers = world.conn.powers →
      allowed (.toCm (.login cm))) :
    Leads allowed
      (if provesCode env world code then world.conn.unlocked.logon false
      else world.conn.toLoginState) world (world.onAuth2fa env code hwid) := by
  have checked := checkFailure_keeps ordinary env world 1
  unfold onAuth2fa provesCode
  dsimp only
  cases refusal : (world.checkFailure env 1).2.refusal with
  | some reason => simpa using Leads.of_keeps checked
  | none =>
      have counted : ∀ removing, Leads allowed world.conn.toLoginState world
          ((world.checkFailure env 1).1.updateFailure (world.checkFailure env 1).2
            removing 1) :=
        fun removing => (Leads.of_keeps checked).follow (updateFailure_leads _ _ _ _)
      simp only [Option.isSome_none, Bool.false_eq_true, ↓reduceIte,
        Option.isNone_none, Bool.true_and]
      cases right : world.conn.require2fa.bind fun totp => env.checkCurrent totp code with
      | none => simpa using Leads.of_keeps checked
      | some correct =>
          cases correct with
          | false =>
              simpa using (counted false).keep
                (sendLoginError_keeps ordinary env _ "Wrong 2FA Code")
          | true =>
              simp only [beq_self_eq_true, ↓reduceIte]
              have passing := counted true
              generalize (world.checkFailure env 1).1.updateFailure _ true 1 =
                current at passing
              have unlocked : Leads allowed world.conn.unlocked world
                  ((current.modify fun conn => { conn with require2fa := none }
                    ).modifyHost fun host =>
                      host.setSession2fa env current.conn.sessionKey) := by
                refine (passing.trans (Leads.modify current ?_ rfl)).follow
                  (Leads.modifyHost _ ?_)
                · exact congrArg LoginState.unlocked passing.login
                · exact Host.setSession2fa_remembers env _ _
              have logon := sendLogonResponse_present ordinary env world unlocked
                (secondFactorMissing_of_unlocked env _ rfl) granted
              have told := tryStartCm_leads world logon
                (by rw [LoginState.logon_powers]; exact announced)
              split
              · exact (told _ _ _).follow (Leads.modifyHost _ (.of_eq rfl rfl))
              · exact told _ _ _

/-- A switch-sides answer carries the uuid stored for its peer. -/
def carriesUuid (env : Env) (world : World) (uuid : Bytes) (lr : LoginRequest) : Bool :=
  uuid.length == 16 &&
    ((world.host.retainSwitchSides env).switchSidesUuid lr.myId).map Prod.snd ==
      some uuid

/-- The login part after a request is stored. -/
def storing (env : Env) (world : World) (lr : LoginRequest) : LoginState :=
  (world.handleLoginRequestWithoutValidation env lr).conn.toLoginState

omit ordinary in
theorem storing_leads (lr : LoginRequest) :
    Leads allowed (storing env world lr) world
      (world.handleLoginRequestWithoutValidation env lr) :=
  Leads.modify world rfl rfl

theorem onSwitchSidesResponse_leads
    (uuid : Bytes)
    (lr : LoginRequest)
    (flutter : env.build.flutter = true)
    (granted : world.conn.authorized = false → ∀ name, allowed (.subscribed name))
    (announced : ∀ cm : CmLogin, cm.powers = world.conn.powers →
      allowed (.toCm (.login cm))) :
    Leads allowed
      (if carriesUuid env world uuid lr then
        (storing env world lr).switched.logon false
      else storing env world lr)
      world (world.onSwitchSidesResponse env uuid (some lr)) := by
  unfold onSwitchSidesResponse carriesUuid
  have sameHost : (world.handleLoginRequestWithoutValidation env lr).host =
      world.host := rfl
  simp only [flutter, sameHost]
  have removed : Leads allowed (storing env world lr) world
      ((world.handleLoginRequestWithoutValidation env lr).modifyHost fun _ =>
        { world.host.retainSwitchSides env with
          switchSidesUuid := Function.update
            (world.host.retainSwitchSides env).switchSidesUuid lr.myId none }) := by
    exact (storing_leads env world lr).follow (Leads.modifyHost _ (.of_eq rfl rfl))
  by_cases carried : uuid.length = 16 ∧
      ((world.host.retainSwitchSides env).switchSidesUuid lr.myId).map Prod.snd =
        some uuid
  · rw [if_pos carried, if_pos (by simpa using carried)]
    generalize (world.handleLoginRequestWithoutValidation env lr).modifyHost _ =
      current at removed
    have switched : Leads allowed (storing env world lr).switched world
        (current.modify fun conn => { conn with fromSwitch := true }) :=
      removed.trans
        (Leads.modify current (congrArg LoginState.switched removed.login) rfl)
    have logon := sendLogonResponse_present ordinary env world switched
      (secondFactorMissing_of_fromSwitch env _ rfl) granted
    refine (tryStartCm_leads world logon ?_ _ _ _).keep (tryStartCmIpc_keeps env _)
    rw [LoginState.logon_powers]
    exact announced
  · rw [if_neg carried, if_neg (by simpa using carried)]
    exact removed

end Login

end World

end Server
end OneDesk
