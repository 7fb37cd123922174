import OneDesk.Server.LoginStep

/-!
# What one event does to a login

The login part of a connection changes in a few ways only: the peer asks for a
kind of connection, a way to be approved lets it in, or the connection closes.
This module says once which of them an event can cause and how the main loop
ends, so that the properties of logging in never look into a handler.
-/

namespace OneDesk
namespace Server

open OneDesk.Stream OneDesk.Common

namespace LoginState

variable (login : LoginState)

/-- Hanging up changes the socket and whether the connection is closed only. -/
theorem hungUp_frame :
    ∃ socket, login.hungUp =
      { login with portForwardSocket := socket, closed := true } := by
  unfold hungUp
  split
  next already => exact ⟨login.portForwardSocket, by rw [← already]⟩
  next => exact ⟨none, rfl⟩

@[simp] theorem hungUp_powers : login.hungUp.powers = login.powers := by
  obtain ⟨_, same⟩ := login.hungUp_frame
  rw [same]
  rfl

@[simp] theorem hungUp_authorized : login.hungUp.authorized = login.authorized := by
  obtain ⟨_, same⟩ := login.hungUp_frame
  rw [same]

@[simp] theorem hungUp_authedConnId :
    login.hungUp.authedConnId = login.authedConnId := by
  obtain ⟨_, same⟩ := login.hungUp_frame
  rw [same]

@[simp] theorem hungUp_closed : login.hungUp.closed = true := by
  obtain ⟨_, same⟩ := login.hungUp_frame
  rw [same]

end LoginState

namespace World

section Handlers

variable {allowed : Effect → Prop}
  (ordinary : ∀ effect, effect.isOrdinary = true → allowed effect)
  (env : Env) (world : World)

theorem holdModifier_leads
    (key : Option Nat)
    (isPress : Bool)
    (held : ∀ key, allowed (.releaseKey key)) :
    Leads allowed world.conn.toLoginState world (world.holdModifier key isPress) := by
  cases key with
  | none => exact Leads.refl world
  | some key =>
      exact ⟨rfl, .of_eq rfl rfl, rfl, fun other _ => .inr (held other),
        fun _ member => .inl member⟩

/-- Whatever a key event does, it leaves the login alone. -/
theorem onKeyEvent_leads
    (event : KeyEvent)
    (keyed : ∀ press, allowed (.input (.key event press)))
    (mobile : allowed (.mobileKey event))
    (held : ∀ key, allowed (.releaseKey key)) :
    Leads allowed world.conn.toLoginState world (world.onKeyEvent env event) := by
  have holding : ∀ (key : Option Nat) (isPress press : Bool),
      Leads allowed world.conn.toLoginState world
        ((world.holdModifier key isPress).emit (.input (.key event press))) :=
    fun key isPress press => (holdModifier_leads world key isPress held).keep
      (Keeps.emit _ (keyed press))
  unfold onKeyEvent
  split
  · exact Leads.refl world
  · split
    · exact Leads.refl world
    · exact (holdModifier_leads world _ _ held).keep (Keeps.emit _ mobile)
  all_goals
    split
    · exact Leads.refl world
    · refine Leads.keep ?_ (updateAutoDisconnectTimer_keeps env _)
      split
      · dsimp only
        split
        · exact holding _ _ false
        · exact holding _ _ false
        · exact holding _ _ true
        · exact holding _ _ false
      · exact Leads.refl world

include ordinary

/-- Closing locks the screen where the options say so. -/
theorem onClose_leads
    (lock : Bool)
    (locked : world.conn.closed = false →
      (lock && world.conn.lockAfterSessionEnd && world.conn.keyboard &&
        !env.build.isMobile) = true → allowed .lockScreen) :
    Leads allowed world.conn.hungUp world (world.onClose env lock) := by
  unfold onClose LoginState.hungUp
  cases opened : world.conn.closed with
  | true => exact Leads.refl world
  | false =>
      simp only [Bool.false_eq_true, ↓reduceIte]
      have muted : Keeps allowed world (world.emit (.voiceCallInput false)) :=
        Keeps.emit world (ordinary _ rfl)
      have farewell : ∀ (current : World) (unseen : Bool), Keeps allowed current
          (current.sendToCm (if unseen then .disconnected else .close)) := by
        intro current unseen
        cases unseen <;> exact sendToCm_keeps ordinary current rfl
      have finished : Keeps allowed world
          (if lock && world.conn.lockAfterSessionEnd && world.conn.keyboard &&
              !env.build.isMobile then
            (world.emit (.voiceCallInput false)).emit .lockScreen
          else world.emit (.voiceCallInput false)) :=
        Keeps.ite (fun locking => muted.trans (Keeps.emit _ (locked opened locking)))
          (fun _ => muted)
      have told := finished.trans (farewell _ (!env.build.isMobile &&
        (world.conn.chatUnanswered ||
          world.conn.fileTransferred && env.build.flutter)))
      refine (Leads.of_keeps told).trans (Leads.modify _ ?_ rfl)
      exact congrArg (fun login : LoginState =>
        { login with closed := true, portForwardSocket := none }) told.login

omit ordinary in
/-- Sessions forgotten at the end of a connection. -/
theorem checkRemoveSession_leads :
    Leads allowed world.conn.toLoginState world world.checkRemoveSession :=
  Leads.modifyHost world
    (Host.checkRemoveSession_remembers world.host world.conn.id world.conn.sessionKey)

end Handlers

/-- What a message does to the login of its connection, and whether the main
loop goes on after it. -/
inductive MessageMove (env : Env) (world : World) :
    Message → LoginState → Bool → Prop
  /-- The login stays; the loop is left this way for another Windows session, by
  connections without a socket. -/
  | keeps (message : Message) (goes : Bool)
      (stays : goes = false →
        world.conn.portForwardSocket = none ∧ env.build.os = .windows) :
      MessageMove env world message world.conn.toLoginState goes
  | hangsUp (message : Message) :
      MessageMove env world message world.conn.hungUp false
  /-- A login request after the login changes nothing but the stored request. -/
  | stores (lr : LoginRequest)
      (authorized : world.conn.authorized = true) :
      MessageMove env world (.loginRequest lr) (storing env world lr) true
  | asks (lr : LoginRequest)
      (unauthorized : world.conn.authorized = false) :
      MessageMove env world (.loginRequest lr)
        (world.asking env lr).conn.toLoginState
        (!lr.turnedAway env world.conn.terminalUserToken)
  | enters (lr : LoginRequest)
      (unauthorized : world.conn.authorized = false)
      (admitted : admits env world lr = true) :
      MessageMove env world (.loginRequest lr) (world.asking env lr).conn.granted true
  | proves (code : String) (hwid : Bytes)
      (right : provesCode env world code = true) :
      MessageMove env world (.auth2fa code hwid)
        (world.conn.unlocked.logon false) true
  | answers (uuid : Bytes) (lr : LoginRequest) :
      MessageMove env world (.switchSidesResponse uuid (some lr))
        (storing env world lr) true
  | switches (uuid : Bytes) (lr : LoginRequest)
      (flutter : env.build.flutter = true)
      (carried : carriesUuid env world uuid lr = true) :
      MessageMove env world (.switchSidesResponse uuid (some lr))
        ((storing env world lr).switched.logon false) true

/-- Whether a connection in the main loop acts on a message that is no login. -/
def heeds (world : World) : Message → Bool
  | .misc (.closeReason _) => true
  | _ => world.conn.authorized && world.conn.portForwardSocket.isNone

/-- Effects every event may have are allowed, depending on the powers of the login
it leads to: ordinary ones, logins with these powers, and services where a
session starts. -/
structure Allows (allowed : Powers → Effect → Prop) (world : World) : Prop where
  ordinary : ∀ powers effect, effect.isOrdinary = true → allowed powers effect
  announced : ∀ powers (cm : CmLogin), cm.powers = powers →
    allowed powers (.toCm (.login cm))
  fresh : world.conn.authorized = false → ∀ powers name,
    allowed powers (.subscribed name)

/-- What a message itself asks for is allowed too. -/
structure Lets (allowed : Powers → Effect → Prop) (env : Env) (world : World)
    (message : Message) : Prop extends Allows allowed world where
  remote : world.conn.isRemote = true → ∀ powers name, allowed powers (.subscribed name)
  injected : world.heeds message = true → world.injects env message = true →
    ∀ powers effect, effect.isInput = true → allowed powers effect
  held : ∀ event, message = .keyEvent event → world.heeds message = true →
    world.injects env message = true → ∀ powers key, allowed powers (.releaseKey key)
  granted : world.heeds message = true → ∀ powers, ∀ name ∈ world.subscribes env message,
    allowed powers (.subscribed name)
  locked : ∀ reason, message = .misc (.closeReason reason) →
    (world.conn.lockAfterSessionEnd && world.conn.keyboard &&
      !env.build.isMobile) = true → ∀ powers, allowed powers .lockScreen

section Messages

variable (env : Env) (world : World) {allowed : Powers → Effect → Prop}

theorem admits_not_turnedAway
    {lr : LoginRequest}
    (admitted : admits env world lr = true) :
    lr.turnedAway env world.conn.terminalUserToken = false := by
  unfold admits LoginRequest.considered at admitted
  unfold LoginRequest.turnedAway
  simp only [Bool.and_eq_true, Bool.not_eq_true'] at admitted
  obtain ⟨⟨⟨notRefused, _⟩, dialing⟩, _⟩ := admitted
  simp [notRefused, dialing]

/-- Who is admitted does not depend on the effects so far. -/
theorem admits_cleared (lr : LoginRequest) :
    admits env (world.cleared.noteReceipt env) lr =
      admits env (world.noteReceipt env) lr := by
  have same : SameLogin ((world.noteReceipt env).asking env lr)
      ((world.cleared.noteReceipt env).asking env lr) := ⟨rfl, rfl, rfl⟩
  unfold admits
  rw [SameLoginCongr.approves env same]
  rfl

theorem onLoginRequest_move
    {lr : LoginRequest}
    (lets : Lets allowed env world (.loginRequest lr)) :
    ∃ login, MessageMove env world (.loginRequest lr) login
        (world.onLoginRequest env lr).2 ∧
      Leads (allowed login.powers) login world (world.onLoginRequest env lr).1 := by
  cases authorized : world.conn.authorized with
  | true =>
      have stored : world.onLoginRequest env lr =
          (world.handleLoginRequestWithoutValidation env lr, true) := by
        unfold onLoginRequest
        exact if_pos authorized
      rw [stored]
      exact ⟨_, .stores lr authorized, storing_leads env world lr⟩
  | false =>
      have handled : (∃ missing, Leads
          (allowed (world.asking env lr).conn.powers) _ _ _) ∧ _ :=
        onLoginRequest_leads (lets.ordinary _) env world lr authorized
          (lets.fresh authorized _) (lets.announced _)
      obtain ⟨⟨missing, leads⟩, goes⟩ := handled
      have unchanged : (world.asking env lr).conn.authorized = false :=
        (LoginState.asking_authorized _ env lr).trans authorized
      cases admitted : admits env world lr with
      | false =>
          rw [admitted] at leads
          exact ⟨_, goes ▸ .asks lr authorized, leads⟩
      | true =>
          have away := admits_not_turnedAway env world admitted
          cases missing with
          | true =>
              simp only [admitted, ↓reduceIte, LoginState.logon_missing] at leads
              exact ⟨_, goes ▸ .asks lr authorized, leads⟩
          | false =>
              simp only [admitted, ↓reduceIte,
                LoginState.logon_present unchanged] at leads
              rw [goes, away]
              exact ⟨_, .enters lr authorized admitted, leads⟩

theorem onAuth2fa_move
    {code : String}
    {hwid : Bytes}
    (lets : Lets allowed env world (.auth2fa code hwid)) :
    ∃ login, MessageMove env world (.auth2fa code hwid) login true ∧
      Leads (allowed login.powers) login world (world.onAuth2fa env code hwid) := by
  have leads : Leads (allowed world.conn.powers) _ _ _ :=
    onAuth2fa_leads (lets.ordinary _) env world code hwid
      (fun unauthorized => lets.fresh unauthorized _) (lets.announced _)
  cases right : provesCode env world code with
  | false =>
      rw [right] at leads
      exact ⟨_, .keeps _ true (fun impossible => by cases impossible), leads⟩
  | true =>
      rw [right] at leads
      refine ⟨_, .proves code hwid right, ?_⟩
      rw [LoginState.logon_powers]
      exact leads

theorem onSwitchSidesResponse_move
    {uuid : Bytes}
    {request : Option LoginRequest}
    (lets : Lets allowed env world (.switchSidesResponse uuid request)) :
    ∃ login, MessageMove env world (.switchSidesResponse uuid request) login true ∧
      Leads (allowed login.powers) login world
        (world.onSwitchSidesResponse env uuid request) := by
  have ignored : world.onSwitchSidesResponse env uuid request = world →
      ∃ login, MessageMove env world (.switchSidesResponse uuid request) login true ∧
        Leads (allowed login.powers) login world
          (world.onSwitchSidesResponse env uuid request) := by
    intro same
    rw [same]
    exact ⟨_, .keeps _ true (fun impossible => by cases impossible), Leads.refl world⟩
  cases flutter : env.build.flutter with
  | false => exact ignored (by simp [onSwitchSidesResponse, flutter])
  | true =>
      cases request with
      | none => exact ignored (by simp [onSwitchSidesResponse])
      | some lr =>
          have leads : Leads (allowed world.conn.powers) _ _ _ :=
            onSwitchSidesResponse_leads (lets.ordinary _) env world uuid lr flutter
              (fun unauthorized => lets.fresh unauthorized _) (lets.announced _)
          cases carried : carriesUuid env world uuid lr with
          | false =>
              rw [carried] at leads
              exact ⟨_, .answers uuid lr, leads⟩
          | true =>
              rw [carried] at leads
              refine ⟨_, .switches uuid lr flutter carried, ?_⟩
              rw [LoginState.logon_powers]
              exact leads

/-- Besides hanging up, only the choice of a Windows session ends the loop. -/
theorem onAuthorizedMessage_snd
    {message : Message}
    (stays : ∀ misc, message = .misc misc → hangsUp env misc = false)
    (stops : (world.onAuthorizedMessage env message).2 = false) :
    env.build.os = .windows := by
  cases message with
  | misc misc =>
      have quiet := stays misc rfl
      change (world.onMisc env misc).2 = false at stops
      cases misc with
      | switchSidesRequest uuid =>
          have short : (env.build.flutter && uuid.length == 16) = false := quiet
          simp [onMisc, short] at stops
      | selectedSid sid =>
          by_contra other
          simp [onMisc, other] at stops
      | _ => cases stops
  | _ => cases stops

/-- A message of an authorized peer never changes a login but by closing. -/
theorem onAuthorizedMessage_move
    {message : Message}
    (heeded : world.heeds message = true)
    (noSocket : world.conn.portForwardSocket = none)
    (lets : Lets allowed env world message) :
    ∃ login, MessageMove env world message login
        (world.onAuthorizedMessage env message).2 ∧
      Leads (allowed login.powers) login world
        (world.onAuthorizedMessage env message).1 := by
  by_cases closes : ∃ misc, message = .misc misc ∧ hangsUp env misc = true
  · obtain ⟨misc, rfl, hanging⟩ := closes
    obtain ⟨uuid, rfl, left⟩ := onAuthorizedMessage_hangsUp hanging world
    rw [left]
    refine ⟨_, .hangsUp _, ?_⟩
    rw [LoginState.hungUp_powers]
    have asked : Keeps (allowed world.conn.powers) world
        (world.emit (.switchSides world.conn.lr.myId uuid)) :=
      Keeps.emit world (lets.ordinary _ _ rfl)
    have closed : Leads (allowed world.conn.powers) world.conn.hungUp
        (world.emit (.switchSides world.conn.lr.myId uuid))
        ((world.emit (.switchSides world.conn.lr.myId uuid)).onClose env false) :=
      onClose_leads (lets.ordinary _) env
        (world.emit (.switchSides world.conn.lr.myId uuid)) false
        (fun _ impossible => by cases impossible)
    exact (Leads.of_keeps asked).trans closed
  · have stays : ∀ misc, message = .misc misc → hangsUp env misc = false := by
      intro misc equal
      cases hanging : hangsUp env misc with
      | false => rfl
      | true => exact absurd ⟨misc, equal, hanging⟩ closes
    refine ⟨_, .keeps message _ (fun stops =>
      ⟨noSocket, onAuthorizedMessage_snd env world stays stops⟩), ?_⟩
    by_cases key : ∃ event, message = .keyEvent event ∧ world.injects env message = true
    · obtain ⟨event, rfl, injecting⟩ := key
      refine onKeyEvent_leads env world event (fun press => ?_) ?_ ?_
      · exact lets.injected heeded injecting _ _ rfl
      · exact lets.injected heeded injecting _ _ rfl
      · exact lets.held event rfl heeded injecting _
    · apply Leads.of_keeps
      apply onAuthorizedMessage_keeps (lets.ordinary _) env world
      · intro event equal
        cases injecting : world.injects env message with
        | false => rfl
        | true => exact absurd ⟨event, equal, injecting⟩ key
      · exact stays
      · exact fun injecting => lets.injected heeded injecting _
      · exact lets.granted heeded _
      · exact fun isRemote => lets.remote isRemote _

/-- What a message does to a login. -/
theorem onMessage_move
    {message : Message}
    (lets : Lets allowed env world message) :
    ∃ login, MessageMove env world message login (world.onMessage env message).2 ∧
      Leads (allowed login.powers) login world (world.onMessage env message).1 := by
  have gated : world.onMessage env message =
      (if world.conn.authorized then
        if world.conn.portForwardSocket.isSome then (world, true)
        else world.onAuthorizedMessage env message
      else (world, true)) →
      world.heeds message = (world.conn.authorized && world.conn.portForwardSocket.isNone) →
      ∃ login, MessageMove env world message login (world.onMessage env message).2 ∧
        Leads (allowed login.powers) login world
          (world.onMessage env message).1 := by
    intro equal heeding
    rw [equal]
    have ignored : ∃ login, MessageMove env world message login true ∧
        Leads (allowed login.powers) login world world :=
      ⟨_, .keeps message true (fun impossible => by cases impossible),
        Leads.refl world⟩
    split
    next authorized =>
      split
      · exact ignored
      next free =>
        have noSocket : world.conn.portForwardSocket = none := by simpa using free
        refine onAuthorizedMessage_move env world ?_ noSocket lets
        rw [heeding, authorized, noSocket]
        rfl
    next => exact ignored
  cases message with
  | loginRequest lr => exact onLoginRequest_move env world lets
  | auth2fa code hwid => exact onAuth2fa_move env world lets
  | testDelay time fromClient =>
      refine ⟨_, .keeps _ true (fun impossible => by cases impossible), ?_⟩
      exact Leads.of_keeps (onTestDelay_keeps (lets.ordinary _) env world _ _)
  | switchSidesResponse uuid request => exact onSwitchSidesResponse_move env world lets
  | misc misc =>
      cases misc with
      | closeReason reason =>
          refine ⟨_, .hangsUp _, ?_⟩
          rw [LoginState.hungUp_powers]
          refine Leads.follow ?_ (checkRemoveSession_leads _)
          refine onClose_leads (lets.ordinary _) env world true (fun _ locking => ?_)
          exact lets.locked reason rfl (by simpa using locking) _
      | _ => exact gated rfl rfl
  | _ => exact gated rfl rfl

end Messages

end World

/-- The connection leaves a loop: its login loses the socket and may be closed,
the temporary password may be renewed, every new effect is allowed, and so is
the release of every modifier key held anew. -/
structure Leaves (allowed : Effect → Prop) (env : Env) (before after : World) :
    Prop where
  login : ∃ socket closed, after.conn.toLoginState =
    { before.conn.toLoginState with portForwardSocket := socket, closed := closed }
  renewed : after.host.temporaryPassword = before.host.temporaryPassword ∨
    after.host.temporaryPassword = env.autoPassword
  sessions : ∀ key session, after.host.sessions key = some session →
    session.randomPassword = after.host.temporaryPassword ∨
      before.host.Knows session.randomPassword
  pressed : ∀ key ∈ after.conn.pressedModifiers,
    key ∈ before.conn.pressedModifiers ∨ allowed (.releaseKey key)
  out : ∀ effect ∈ after.out, effect ∈ before.out ∨ allowed effect

namespace Leaves

variable {allowed : Effect → Prop} {env : Env}

/-- Leaving without touching the tables. -/
theorem of_remembers
    {before after : World}
    (login : ∃ socket closed, after.conn.toLoginState =
      { before.conn.toLoginState with portForwardSocket := socket, closed := closed })
    (remembers : Remembers before.host.toLoginTables after.host.toLoginTables)
    (pressed : ∀ key ∈ after.conn.pressedModifiers,
      key ∈ before.conn.pressedModifiers ∨ allowed (.releaseKey key))
    (out : ∀ effect ∈ after.out, effect ∈ before.out ∨ allowed effect) :
    Leaves allowed env before after :=
  ⟨login, .inl remembers.temporary,
    fun key session found => .inr (remembers.sessions key session found), pressed, out⟩

theorem of_leads
    {before after : World}
    (leads : Leads allowed before.conn.toLoginState before after) :
    Leaves allowed env before after :=
  of_remembers ⟨_, _, leads.login⟩ leads.remembers leads.pressed leads.out

theorem of_hungUp
    {before after : World}
    (leads : Leads allowed before.conn.hungUp before after) :
    Leaves allowed env before after := by
  refine of_remembers ?_ leads.remembers leads.pressed leads.out
  obtain ⟨socket, same⟩ := before.conn.hungUp_frame
  exact ⟨socket, true, leads.login.trans same⟩

theorem trans
    {first second third : World}
    (left : Leaves allowed env first second)
    (right : Leaves allowed env second third) :
    Leaves allowed env first third := by
  have middle : ∀ password, password = second.host.temporaryPassword →
      password = third.host.temporaryPassword ∨ first.host.Knows password := by
    rintro password rfl
    rcases left.renewed with same | renewed
    · exact .inr (.inr (.inl same))
    · rcases right.renewed with same | again
      · exact .inl same.symm
      · exact .inl (renewed.trans again.symm)
  refine ⟨?_, ?_, ?_, ?_, ?_⟩
  · obtain ⟨_, _, leftLogin⟩ := left.login
    obtain ⟨socket, closed, rightLogin⟩ := right.login
    refine ⟨socket, closed, ?_⟩
    rw [rightLogin, leftLogin]
  · rcases right.renewed with same | renewed
    · rw [same]
      exact left.renewed
    · exact .inr renewed
  · intro key session found
    rcases right.sessions key session found with
      latest | empty | temporary | ⟨other, old, stored, same⟩
    · exact .inl latest
    · exact .inr (.inl empty)
    · exact middle _ temporary
    · rw [← same]
      rcases left.sessions other old stored with temporary | known
      · exact middle _ temporary
      · exact .inr known
  · intro key member
    rcases right.pressed key member with earlier | new
    · exact left.pressed key earlier
    · exact .inr new
  · intro effect member
    rcases right.out effect member with earlier | new
    · exact left.out effect earlier
    · exact .inr new

end Leaves

namespace World

section Loop

variable {allowed : Effect → Prop}
  (ordinary : ∀ effect, effect.isOrdinary = true → allowed effect)
  (env : Env) (world : World)

include ordinary

omit ordinary in
theorem onClose_pressed (lock : Bool) :
    (world.onClose env lock).conn.pressedModifiers =
      world.conn.pressedModifiers := by
  unfold onClose
  split
  · rfl
  · dsimp only
    split <;> rfl

omit ordinary in
theorem removeConnection_keeps : Keeps allowed world (world.removeConnection env) :=
  Keeps.ite (fun _ => Keeps.modifyHost world rfl) (fun _ => Keeps.refl world)

omit ordinary in
theorem releaseModifiers_leads
    (released : ∀ key ∈ world.conn.pressedModifiers, allowed (.releaseKey key)) :
    Leads allowed world.conn.toLoginState world (world.releaseModifiers env) := by
  unfold releaseModifiers
  split
  · exact Leads.refl world
  · refine ⟨rfl, .of_eq rfl rfl, rfl, fun _ member => absurd member List.not_mem_nil, ?_⟩
    intro effect member
    rcases List.mem_append.mp member with earlier | new
    · exact .inl earlier
    · obtain ⟨key, held, rfl⟩ := List.mem_map.mp new
      exact .inr (released key held)

omit ordinary in
theorem dropAuthedConn_leads :
    Leads allowed world.conn.toLoginState world world.dropAuthedConn := by
  unfold dropAuthedConn
  split
  · exact Leads.modifyHost world (.of_eq rfl rfl)
  · exact Leads.refl world

/-- The end of a connection. -/
theorem finish_leaves
    (locked : world.conn.closed = false →
      (world.conn.lockAfterSessionEnd && world.conn.keyboard &&
        !env.build.isMobile) = true → allowed .lockScreen)
    (released : ∀ key ∈ world.conn.pressedModifiers, allowed (.releaseKey key)) :
    Leaves allowed env world (world.finish env) := by
  have removed : Keeps allowed world (world.removeConnection env) :=
    removeConnection_keeps env world
  have same : (world.removeConnection env).conn = world.conn := by
    unfold removeConnection
    split <;> rfl
  have closed : Leads allowed world.conn.hungUp (world.removeConnection env)
      ((world.removeConnection env).onClose env true) := by
    have leads := onClose_leads ordinary env (world.removeConnection env) true
      (by rw [same]; simpa using locked)
    rwa [same] at leads
  have hungUp := (Leads.of_keeps removed).trans closed
  have dropped := (hungUp.follow (releaseModifiers_leads env _ (by
    rw [onClose_pressed, same]; exact released))).follow (dropAuthedConn_leads _)
  have left : Leaves allowed env world _ := Leaves.of_hungUp dropped
  exact ⟨left.login, left.renewed, left.sessions, left.pressed, left.out⟩

omit ordinary in
@[simp] theorem updateTemporaryPassword_conn :
    (world.updateTemporaryPassword env).conn = world.conn := by
  unfold updateTemporaryPassword
  split <;> rfl

omit ordinary in
theorem updateTemporaryPassword_leaves :
    Leaves allowed env world (world.updateTemporaryPassword env) := by
  unfold updateTemporaryPassword
  split
  · refine ⟨⟨_, _, rfl⟩, .inr rfl, ?_, fun _ member => .inl member,
      fun _ member => .inl member⟩
    intro key session found
    exact .inr (.inr (.inr ⟨key, session, found, rfl⟩))
  · exact Leaves.of_leads (Leads.refl world)

omit ordinary in
@[simp] theorem cleanUp_conn : (world.cleanUp env).conn = world.conn := by
  unfold cleanUp
  rw [updateTemporaryPassword_conn]
  split
  · split <;> rfl
  · split <;> rfl

theorem cleanUp_leaves : Leaves allowed env world (world.cleanUp env) := by
  have emptied : Keeps allowed world
      (if env.build.unixFileCopyPaste then world.emit .emptyFileClipboard
      else world) :=
    Keeps.ite (fun _ => Keeps.emit world (ordinary _ rfl)) (fun _ => Keeps.refl world)
  unfold cleanUp
  refine Leaves.trans ?_ (updateTemporaryPassword_leaves env _)
  refine Leaves.of_leads (Leads.of_keeps ?_)
  refine Keeps.trans ?_ (Keeps.emit _ (ordinary _ rfl))
  exact Keeps.ite (fun _ => emptied.trans (Keeps.emit _ (ordinary _ rfl)))
    (fun _ => emptied)

/-- After the main loop a connection relays if it has a socket, else it ends. -/
theorem afterLoop_leaves
    (locked : world.conn.closed = false → world.conn.portForwardSocket = none →
      (world.conn.lockAfterSessionEnd && world.conn.keyboard &&
        !env.build.isMobile) = true → allowed .lockScreen)
    (released : ∀ key ∈ world.conn.pressedModifiers, allowed (.releaseKey key)) :
    Leaves allowed env world (world.afterLoop env) := by
  have cleaned := cleanUp_leaves ordinary env world
  unfold afterLoop
  dsimp only
  split
  · refine cleaned.trans (Leaves.of_remembers ?_ (.of_eq rfl rfl) ?_ ?_)
    · exact ⟨_, _, rfl⟩
    · exact fun _ member => .inl member
    · exact fun _ member => .inl member
  next noSocket =>
    rw [cleanUp_conn] at noSocket
    refine cleaned.trans (finish_leaves ordinary env _ ?_ ?_)
    · rw [cleanUp_conn]
      exact fun opened => locked opened noSocket
    · rw [cleanUp_conn]
      exact released

omit ordinary in
theorem afterLoop_phase :
    (world.afterLoop env).phase =
      match world.conn.portForwardSocket with
      | some address => .relaying address
      | none => .ended := by
  unfold afterLoop
  dsimp only
  rw [cleanUp_conn]
  cases world.conn.portForwardSocket with
  | none => rfl
  | some address => rfl

omit ordinary in
theorem afterLoop_authorized :
    (world.afterLoop env).conn.authorized = world.conn.authorized := by
  have left : Leaves (fun _ => True) env world (world.afterLoop env) :=
    afterLoop_leaves (fun _ _ => trivial) env world (fun _ _ _ => trivial)
      (fun _ _ => trivial)
  obtain ⟨_, _, login⟩ := left.login
  rw [login]

/-- A relay that ends locks nothing. -/
theorem bail_leaves
    (released : ∀ key ∈ world.conn.pressedModifiers, allowed (.releaseKey key)) :
    Leaves allowed env world (world.bail env) := by
  have hanging : Leads allowed world.conn.hungUp world (world.onClose env false) :=
    onClose_leads ordinary env world false (fun _ impossible => by cases impossible)
  have closed := hanging.follow (checkRemoveSession_leads _)
  refine (Leaves.of_hungUp closed).trans (finish_leaves ordinary env _ ?_ ?_)
  · rw [closed.login, LoginState.hungUp_closed]
    exact fun impossible => by cases impossible
  · change ∀ key ∈ (world.onClose env false).conn.pressedModifiers, _
    rw [onClose_pressed]
    exact released

theorem switchPermission_keeps
    (name : String)
    (enabled : Bool)
    (granted : ∀ name, allowed (.subscribed name)) :
    Keeps allowed world (world.switchPermission env name enabled) := by
  have told : ∀ (current : World) (permission : Permission),
      Keeps allowed world current →
        Keeps allowed world (current.sendPermission permission enabled) :=
    fun current permission reached => reached.trans (send_keeps ordinary current _)
  refine Keeps.ite (fun _ => ?_) (fun _ => ?_)
  · refine Keeps.trans ?_ (subscribe_keeps ordinary env _ (fun _ _ => granted _))
    refine Keeps.trans ?_ (subscribeFileClipboard_keeps ordinary env _)
    refine Keeps.trans ?_ (subscribeClipboard_keeps ordinary env _ (fun _ _ => granted _))
    exact told _ _ (Keeps.modify world rfl rfl)
  refine Keeps.ite (fun _ => ?_) (fun _ => ?_)
  · refine Keeps.trans ?_ (subscribeClipboard_keeps ordinary env _ (fun _ _ => granted _))
    exact told _ _ (Keeps.modify world rfl rfl)
  refine Keeps.ite (fun _ => ?_) (fun _ => ?_)
  · have switched : Keeps allowed world
        ((world.modify fun conn => { conn with audio := enabled }).sendPermission
          .audio enabled) :=
      told _ _ (Keeps.modify world rfl rfl)
    exact Keeps.ite
      (fun _ => switched.trans (subscribeAudio_keeps ordinary env _
        (fun _ _ => granted _)))
      (fun _ => switched)
  refine Keeps.ite (fun _ => ?_) (fun _ => ?_)
  · refine Keeps.trans ?_ (subscribeFileClipboard_keeps ordinary env _)
    have switched : Keeps allowed world
        ((world.modify fun conn => { conn with file := enabled }).sendPermission
          .file enabled) :=
      told _ _ (Keeps.modify world rfl rfl)
    exact Keeps.ite (fun _ => switched.trans (Keeps.emit _ (ordinary _ rfl)))
      (fun _ => switched)
  refine Keeps.ite (fun _ => told _ _ (Keeps.modify world rfl rfl)) (fun _ => ?_)
  refine Keeps.ite (fun _ => told _ _ (Keeps.modify world rfl rfl)) (fun _ => ?_)
  exact Keeps.ite (fun _ => told _ _ (Keeps.modify world rfl rfl))
    (fun _ => Keeps.refl world)

theorem onCmMessage_keeps
    (message : FromCm)
    (granted : ∀ name, allowed (.subscribed name)) :
    Keeps allowed world (world.onCmMessage env message) := by
  unfold onCmMessage
  cases message with
  | chatMessage text =>
      have told := send_keeps ordinary world (.chatMessage text)
      refine told.trans ?_
      exact Keeps.modify _ rfl rfl
  | switchPermission name enabled =>
      exact switchPermission_keeps ordinary env world name enabled granted
  | rawMessage bytes => exact send_keeps ordinary world _
  | clipboardFile files =>
      exact Keeps.ite (fun _ => send_keeps ordinary world _) (fun _ => Keeps.refl world)
  | privacyModeState => exact send_keeps ordinary world _
  | portableServiceRequestStart =>
      exact Keeps.ite (fun _ => Keeps.emit world (ordinary _ rfl))
        (fun _ => Keeps.refl world)
  | switchSidesBack => exact send_keeps ordinary world _
  | voiceCallResponse accepted =>
      exact handleVoiceCall_keeps ordinary env world accepted (granted _)
  | closeVoiceCall =>
      exact (closeVoiceCall_keeps ordinary env world).trans (send_keeps ordinary _ _)
  | authorize => exact Keeps.refl world
  | close => exact Keeps.refl world
  | cmErr error => exact Keeps.refl world
  | other => exact Keeps.refl world

theorem sendCloseReasonNoRetry_leads (reason : String) :
    Leads allowed world.conn.toLoginState world
      (world.sendCloseReasonNoRetry reason) :=
  (Leads.of_keeps (send_keeps ordinary world _)).follow (checkRemoveSession_leads _)

omit ordinary in
theorem noteReceipt_leads :
    Leads allowed world.conn.toLoginState world (world.noteReceipt env) :=
  ⟨rfl, Host.touch_remembers env world.host _, rfl, fun _ member => .inl member,
    fun _ member => .inl member⟩

end Loop

/-- What an event does to the login of a connection in its main loop. -/
inductive Move (env : Env) (world : World) : Event → LoginState → Prop
  | keeps (event : Event) : Move env world event world.conn.toLoginState
  | hangsUp (event : Event) : Move env world event world.conn.hungUp
  | authorizes : Move env world (.fromCm .authorize) (world.conn.unlocked.logon false)
  | message {bytes : Bytes} {message : Message} {login : LoginState} {goes : Bool}
      (move : MessageMove env (world.noteReceipt env) message login goes) :
      Move env world (.received (some (.ok ⟨bytes, some message⟩))) login

/-- How the main loop can end with a login: closed or handed over to another
Windows session, authorized with a socket, or turned away. -/
def Exits (env : Env) (world : World) (event : Event) (login : LoginState) : Prop :=
  login.portForwardSocket = none ∧ (login.closed = true ∨ env.build.os = .windows) ∨
    login.authorized = true ∧ login.portForwardSocket.isSome = true ∨
    world.conn.closed = true ∨
    ∃ bytes lr, event = .received (some (.ok ⟨bytes, some (.loginRequest lr)⟩)) ∧
      world.conn.authorized = false ∧
      login = ((world.noteReceipt env).asking env lr).conn.toLoginState ∧
      lr.turnedAway env world.conn.terminalUserToken = true

/-- Events other than messages at which the connection closes for good, and locks
the screen where the options say so. -/
def closes (env : Env) (world : World) : Event → Bool
  | .fromCm .close => true
  | .received none => true
  | .received (some (.error _)) => true
  | .webConsole listed => listed
  | .secondTimer =>
      match world.conn.autoDisconnectTimer with
      | some (since, minute) => (env.now - since) / 1000 > minute * 60
      | none => false
  | .testDelayTimer => env.now - world.lastRecvTime ≥ 30000
  | _ => false

/-- What an event itself asks for is allowed too. -/
structure Permits (allowed : Powers → Effect → Prop) (env : Env) (world : World)
    (event : Event) : Prop extends Allows allowed world where
  told : ∀ message, event = .fromCm message → ∀ powers name,
    allowed powers (.subscribed name)
  locked : world.closes env event = true →
    (world.conn.lockAfterSessionEnd && world.conn.keyboard &&
      !env.build.isMobile) = true → ∀ powers, allowed powers .lockScreen
  message : ∀ bytes message,
    event = .received (some (.ok ⟨bytes, some message⟩)) →
      Lets allowed env (world.noteReceipt env) message

/-- The main loop goes on only if the event was no login request to be turned
away. -/
def Stays (env : Env) (world : World) (event : Event) : Prop :=
  ∀ bytes lr, event = .received (some (.ok ⟨bytes, some (.loginRequest lr)⟩)) →
    world.conn.authorized = false →
    lr.turnedAway env world.conn.terminalUserToken = false

/-- One turn of the main loop: a move, after which the loop goes on or ends. -/
def Turns (allowed : Powers → Effect → Prop) (env : Env) (world : World)
    (event : Event) (after : World) : Prop :=
  ∃ login last, Move env world event login ∧
    Leads (allowed login.powers) login world last ∧
    (after = last ∧ login.closed = world.conn.closed ∧ Stays env world event ∨
      after = last.afterLoop env ∧ Exits env world event login)

section Turn

variable {allowed : Powers → Effect → Prop} {env : Env} {world : World} {event : Event}

theorem stays_of_other (other : ∀ frame, event ≠ .received frame) :
    Stays env world event :=
  fun _ _ received => absurd received (other _)

theorem turns_of_leads
    {after : World}
    (stays : Stays env world event)
    (leads : Leads (allowed world.conn.powers) world.conn.toLoginState world after) :
    Turns allowed env world event after :=
  ⟨_, after, .keeps event, leads, .inl ⟨rfl, rfl, stays⟩⟩

theorem turns_of_keeps
    {after : World}
    (other : ∀ frame, event ≠ .received frame)
    (kept : Keeps (allowed world.conn.powers) world after) :
    Turns allowed env world event after :=
  turns_of_leads (stays_of_other other) (Leads.of_keeps kept)

theorem turns_closeLoop
    {current : World}
    (ordinary : ∀ effect, effect.isOrdinary = true →
      allowed world.conn.powers effect)
    (reached : Leads (allowed world.conn.powers) world.conn.toLoginState world current)
    (lock : Bool)
    (locked : (lock && current.conn.lockAfterSessionEnd && current.conn.keyboard &&
      !env.build.isMobile) = true → allowed world.conn.powers .lockScreen) :
    Turns allowed env world event (current.closeLoop env lock) := by
  refine ⟨_, _, .hangsUp event, ?_, .inr ⟨rfl, ?_⟩⟩
  · rw [LoginState.hungUp_powers]
    have closed := onClose_leads ordinary env current lock (fun _ => locked)
    rw [reached.login] at closed
    exact reached.trans closed
  · unfold Exits LoginState.hungUp
    cases world.conn.closed with
    | true => exact .inr (.inr (.inl rfl))
    | false => exact .inl ⟨rfl, .inl rfl⟩

/-- An `Authorize` authorizes, with or without a second factor. -/
theorem onAuthorize_turns (permits : Permits allowed env world (.fromCm .authorize)) :
    Turns allowed env world (.fromCm .authorize) (world.onAuthorize env) := by
  have unlocked : Leads (allowed world.conn.powers) world.conn.unlocked world
      (world.modify fun conn => { conn with require2fa := none }) :=
    Leads.modify world rfl rfl
  have logon := sendLogonResponse_present (permits.ordinary _) env world unlocked
    (secondFactorMissing_of_unlocked env _ rfl) (fun _ => permits.told _ rfl _)
  refine ⟨_, (world.modify fun conn => { conn with require2fa := none }
    ).sendLogonResponse env, .authorizes, ?_, ?_⟩
  · rw [LoginState.logon_powers]
    exact logon
  · unfold onAuthorize
    dsimp only
    split
    next connected =>
      rw [logon.login] at connected
      exact .inr ⟨rfl, .inr (.inl ⟨LoginState.logon_false_authorized _, connected⟩)⟩
    next =>
      exact .inl ⟨rfl, LoginState.logon_closed _ _,
        stays_of_other fun _ => Event.noConfusion⟩

theorem exits_of_message
    {bytes : Bytes}
    {message : Message}
    {login : LoginState}
    (move : MessageMove env (world.noteReceipt env) message login false) :
    Exits env world (.received (some (.ok ⟨bytes, some message⟩))) login := by
  generalize stop : false = goes at move
  cases move with
  | keeps _ _ stays => exact .inl ⟨(stays stop.symm).1, .inr (stays stop.symm).2⟩
  | hangsUp =>
      unfold Exits LoginState.hungUp
      cases closed : world.conn.closed with
      | true => exact .inr (.inr (.inl rfl))
      | false =>
          have opened : (world.noteReceipt env).conn.closed = false := closed
          simp [opened]
  | asks lr unauthorized =>
      have turned : lr.turnedAway env (world.noteReceipt env).conn.terminalUserToken =
          true := by
        simpa using stop
      exact .inr (.inr (.inr ⟨bytes, lr, rfl, unauthorized, rfl, turned⟩))
  | stores => cases stop
  | enters => cases stop
  | proves => cases stop
  | answers => cases stop
  | switches => cases stop

theorem closed_of_message
    {message : Message}
    {login : LoginState}
    {goes : Bool}
    (move : MessageMove env world message login goes) :
    login.closed = world.conn.closed ∨ goes = false ∧ login = world.conn.hungUp := by
  cases move with
  | keeps => exact .inl rfl
  | hangsUp => exact .inr ⟨rfl, rfl⟩
  | stores => exact .inl rfl
  | asks lr => exact .inl (LoginState.asking_closed _ env lr)
  | enters lr => exact .inl (LoginState.asking_closed _ env lr)
  | proves => exact .inl (LoginState.logon_closed _ _)
  | answers => exact .inl rfl
  | switches => exact .inl (LoginState.logon_closed _ _)

/-- Only hanging up closes a connection. -/
theorem closed_of_move
    {login : LoginState}
    (move : Move env world event login) :
    login.closed = world.conn.closed ∨ login = world.conn.hungUp := by
  cases move with
  | keeps => exact .inl rfl
  | hangsUp => exact .inr rfl
  | authorizes => exact .inl (LoginState.logon_closed _ _)
  | message move =>
      rcases closed_of_message move with same | ⟨_, hungUp⟩
      · exact .inl same
      · exact .inr hungUp

/-- An authorized login keeps its kinds, its target and its type. -/
theorem move_of_authorized
    {login : LoginState}
    (move : Move env world event login)
    (authorized : world.conn.authorized = true) :
    ∃ lr require2fa fromSwitch socket closed, login =
      { world.conn.toLoginState with
        lr := lr
        require2fa := require2fa
        fromSwitch := fromSwitch
        portForwardSocket := socket
        closed := closed } := by
  have logon : ∀ login : LoginState, login.authorized = true →
      login.logon false = login := fun login already =>
    LoginState.logon_of_authorized already false
  cases move with
  | keeps => exact ⟨_, _, _, _, _, rfl⟩
  | hangsUp =>
      obtain ⟨socket, same⟩ := world.conn.hungUp_frame
      exact ⟨_, _, _, socket, _, same⟩
  | authorizes =>
      rw [logon world.conn.unlocked authorized]
      exact ⟨_, _, _, _, _, rfl⟩
  | message move =>
      cases move with
      | keeps => exact ⟨_, _, _, _, _, rfl⟩
      | hangsUp =>
          obtain ⟨socket, same⟩ := world.conn.hungUp_frame
          exact ⟨_, _, _, socket, _, same⟩
      | stores => exact ⟨_, _, _, _, _, rfl⟩
      | asks lr unauthorized => exact absurd (authorized.symm.trans unauthorized) (by simp)
      | enters lr unauthorized =>
          exact absurd (authorized.symm.trans unauthorized) (by simp)
      | proves =>
          rw [logon (world.noteReceipt env).conn.unlocked authorized]
          exact ⟨_, _, _, _, _, rfl⟩
      | answers => exact ⟨_, _, _, _, _, rfl⟩
      | switches uuid lr =>
          rw [logon (storing env (world.noteReceipt env) lr).switched authorized]
          exact ⟨_, _, _, _, _, rfl⟩

/-- A login that is not authorized stays so, or is granted what it asks for. -/
theorem move_of_unauthorized
    {login : LoginState}
    (move : Move env world event login)
    (unauthorized : world.conn.authorized = false) :
    login.authorized = false ∧ login.authedConnId = world.conn.authedConnId ∨
      login.authorized = true ∧ login.authedConnId = some login.authConnType := by
  have granted : ∀ login : LoginState, login.granted.authorized = true ∧
      login.granted.authedConnId = some login.granted.authConnType :=
    fun login => ⟨rfl, rfl⟩
  have logon : ∀ login : LoginState, login.authorized = false →
      (login.logon false).authorized = true ∧
        (login.logon false).authedConnId = some (login.logon false).authConnType := by
    intro login before
    rw [LoginState.logon_present before]
    exact granted login
  have asking : ∀ lr, ((world.noteReceipt env).asking env lr).conn.authorized = false ∧
      ((world.noteReceipt env).asking env lr).conn.authedConnId =
        world.conn.authedConnId := by
    intro lr
    obtain ⟨require2fa, stored⟩ := asking_login env (world.noteReceipt env) lr
    obtain ⟨_, _, _, _, _, asked⟩ := LoginState.asking_frame
      (world.noteReceipt env).conn.toLoginState env lr
    rw [stored, asked]
    exact ⟨unauthorized, rfl⟩
  cases move with
  | keeps => exact .inl ⟨unauthorized, rfl⟩
  | hangsUp =>
      exact .inl ⟨(LoginState.hungUp_authorized _).trans unauthorized,
        LoginState.hungUp_authedConnId _⟩
  | authorizes => exact .inr (logon world.conn.unlocked unauthorized)
  | message move =>
      cases move with
      | keeps => exact .inl ⟨unauthorized, rfl⟩
      | hangsUp =>
          exact .inl ⟨(LoginState.hungUp_authorized _).trans unauthorized,
        LoginState.hungUp_authedConnId _⟩
      | stores => exact .inl ⟨unauthorized, rfl⟩
      | asks lr => exact .inl (asking lr)
      | enters => exact .inr (granted _)
      | proves => exact .inr (logon _ unauthorized)
      | answers => exact .inl ⟨unauthorized, rfl⟩
      | switches uuid lr => exact .inr (logon _ unauthorized)

/-- A message of the peer. -/
theorem onReceived_turns
    {bytes : Bytes}
    {message : Message}
    (lets : Lets allowed env (world.noteReceipt env) message) :
    Turns allowed env world (.received (some (.ok ⟨bytes, some message⟩)))
      ((world.noteReceipt env).onReceived env message) := by
  obtain ⟨login, move, leads⟩ := onMessage_move env (world.noteReceipt env) lets
  refine ⟨login, ((world.noteReceipt env).onMessage env message).1, .message move,
    (noteReceipt_leads env world).trans leads, ?_⟩
  have stays : ((world.noteReceipt env).onMessage env message).2 = true →
      Stays env world (.received (some (.ok ⟨bytes, some message⟩))) := by
    intro goes _ lr received unauthorized
    cases received
    have turned := onLoginRequest_snd env (world.noteReceipt env) lr unauthorized
    rw [show ((world.noteReceipt env).onLoginRequest env lr).2 = true from goes] at turned
    exact Bool.not_eq_eq_eq_not.mp turned.symm
  unfold onReceived
  revert move leads stays
  generalize (world.noteReceipt env).onMessage env message = handled
  obtain ⟨handled, goes⟩ := handled
  intro move leads stays
  cases goes with
  | false => exact .inr ⟨rfl, exits_of_message move⟩
  | true =>
      dsimp only
      split
      next ready =>
        refine .inr ⟨rfl, .inr (.inl ?_)⟩
        simp only [Bool.and_eq_true] at ready
        rw [← leads.login]
        exact ⟨ready.1.2, ready.1.1⟩
      next =>
        rcases closed_of_message move with same | ⟨impossible, _⟩
        · exact .inl ⟨rfl, same, stays rfl⟩
        · cases impossible

theorem onTestDelayTimer_turns (permits : Permits allowed env world .testDelayTimer) :
    Turns allowed env world .testDelayTimer (world.onTestDelayTimer env) := by
  have probed : Keeps (allowed world.conn.powers) world
      (if world.conn.lastTestDelay.isNone &&
          !(world.conn.portForwardSocket.isSome && world.conn.authorized) then
        (world.modify fun conn => { conn with lastTestDelay := some env.now }).send
          (.testDelay env.now false)
      else world) := by
    refine Keeps.ite (fun _ => ?_) (fun _ => Keeps.refl world)
    exact (Keeps.modify world rfl rfl).trans (send_keeps (permits.ordinary _) _ _)
  unfold onTestDelayTimer
  split
  next silent =>
    refine turns_closeLoop (permits.ordinary _) (Leads.refl world) true ?_
    exact fun locking => permits.locked (by simpa [closes] using silent) locking _
  next =>
    apply turns_of_keeps (fun _ => Event.noConfusion)
    refine Keeps.ite (fun _ => ?_) (fun _ => probed)
    split
    · exact probed.trans (Keeps.emit _ (permits.ordinary _ _ rfl))
    · exact probed

theorem onSecondTimer_turns (permits : Permits allowed env world .secondTimer) :
    Turns allowed env world .secondTimer (world.onSecondTimer env) := by
  unfold onSecondTimer
  split
  next since minute timer =>
    split
    next expired =>
      refine turns_closeLoop (permits.ordinary _)
        (sendCloseReasonNoRetry_leads (permits.ordinary _) world _) true ?_
      exact fun locking => permits.locked (by simpa [closes, timer] using expired) locking _
    next => exact turns_of_keeps (fun _ => Event.noConfusion) (Keeps.refl world)
  next => exact turns_of_keeps (fun _ => Event.noConfusion) (Keeps.refl world)

theorem sent_turns
    {current : World}
    (permits : Permits allowed env world event)
    (other : ∀ frame, event ≠ .received frame)
    (reached : Keeps (allowed world.conn.powers) world current) :
    Turns allowed env world event
      (if env.sendError.isSome then (current.send .service).closeLoop env false
      else current.send .service) := by
  have sent := reached.trans (send_keeps (permits.ordinary _) current .service)
  split
  · refine turns_closeLoop (permits.ordinary _) (Leads.of_keeps sent) false ?_
    exact fun impossible => by cases impossible
  · exact turns_of_keeps other sent

theorem onQueued_turns
    {message : Queued}
    (permits : Permits allowed env world (.queued message)) :
    Turns allowed env world (.queued message) (world.onQueued env message) := by
  have other : ∀ message frame, Event.queued message ≠ .received frame :=
    fun _ _ => Event.noConfusion
  cases message with
  | stopService =>
      refine turns_closeLoop (permits.ordinary _)
        (sendCloseReasonNoRetry_leads (permits.ordinary _) world _) false ?_
      exact fun impossible => by cases impossible
  | lateAudioFrame => exact turns_of_keeps (other _) (Keeps.refl world)
  | peerInfo =>
      exact sent_turns permits (other _) (Keeps.emit world (permits.ordinary _ _ rfl))
  | other => exact sent_turns permits (other _) (Keeps.refl world)

theorem fromCm_turns
    {message : FromCm}
    (permits : Permits allowed env world (.fromCm message)) :
    Turns allowed env world (.fromCm message) (world.mainLoop env (.fromCm message)) := by
  have told : Turns allowed env world (.fromCm message)
      (world.onCmMessage env message) :=
    turns_of_keeps (fun _ => Event.noConfusion)
      (onCmMessage_keeps (permits.ordinary _) env world message
        (permits.told _ rfl _))
  cases message with
  | authorize => exact onAuthorize_turns permits
  | close =>
      refine turns_closeLoop (permits.ordinary _) ?_ true ?_
      · exact Leads.follow (Leads.modify world rfl rfl)
          (sendCloseReasonNoRetry_leads (permits.ordinary _) _ _)
      · exact fun locking => permits.locked rfl locking _
  | cmErr error =>
      unfold mainLoop
      dsimp only
      split
      · exact turns_of_keeps (fun _ => Event.noConfusion) (Keeps.refl world)
      · refine turns_closeLoop (permits.ordinary _) (Leads.refl world) false ?_
        exact fun impossible => by cases impossible
  | _ => exact told

theorem received_turns
    {frame : Option (Except String Frame)}
    (permits : Permits allowed env world (.received frame)) :
    Turns allowed env world (.received frame) (world.mainLoop env (.received frame)) := by
  have closed : ∀ frame, world.closes env (.received frame) = true →
      Permits allowed env world (.received frame) →
        Turns allowed env world (.received frame) (world.closeLoop env true) := by
    intro frame closing permits
    refine turns_closeLoop (permits.ordinary _) (Leads.refl world) true ?_
    exact fun locking => permits.locked closing locking _
  match frame with
  | none => exact closed _ rfl permits
  | some (.error _) => exact closed _ rfl permits
  | some (.ok ⟨bytes, some message⟩) =>
      exact onReceived_turns (permits.message bytes message rfl)
  | some (.ok ⟨bytes, none⟩) =>
      refine turns_of_leads ?_ (noteReceipt_leads env world)
      rintro _ _ ⟨⟩

/-- Every turn of the main loop is a move of the login, whichever branch is
ready, as long as nobody else changes the host. -/
theorem mainLoop_turns
    (permits : Permits allowed env world event)
    (own : ∀ host, event ≠ .hostChanged host) :
    Turns allowed env world event (world.mainLoop env event) := by
  have ignored : ∀ {event}, (∀ frame, event ≠ .received frame) →
      Turns allowed env world event world :=
    fun other => turns_of_keeps other (Keeps.refl world)
  cases event with
  | fromCm message => exact fromCm_turns permits
  | received frame => exact received_turns permits
  | fileTimer =>
      unfold mainLoop
      dsimp only
      split
      · refine turns_closeLoop (permits.ordinary _) (Leads.refl world) false ?_
        exact fun impossible => by cases impossible
      · exact ignored fun _ => Event.noConfusion
  | webConsole listed =>
      unfold mainLoop
      dsimp only
      split
      next closing =>
        refine turns_closeLoop (permits.ordinary _)
          (sendCloseReasonNoRetry_leads (permits.ordinary _) world _) true ?_
        exact fun locking => permits.locked closing locking _
      next => exact ignored fun _ => Event.noConfusion
  | video => exact sent_turns permits (fun _ => Event.noConfusion) (Keeps.refl world)
  | queued message => exact onQueued_turns permits
  | fromAuthed => exact ignored fun _ => Event.noConfusion
  | secondTimer => exact onSecondTimer_turns permits
  | testDelayTimer => exact onTestDelayTimer_turns permits
  | clipFile =>
      refine turns_of_keeps (fun _ => Event.noConfusion)
        (Keeps.ite (fun _ => ?_) (fun _ => Keeps.refl world))
      exact send_keeps (permits.ordinary _) world _
  | forwarded frame => exact ignored fun _ => Event.noConfusion
  | relayTimer => exact ignored fun _ => Event.noConfusion
  | hostChanged host => exact absurd rfl (own host)

/-- Every turn of the relay loop keeps the login or ends it. -/
theorem relayLoop_leaves
    {allowed : Effect → Prop}
    (ordinary : ∀ effect, effect.isOrdinary = true → allowed effect)
    (released : ∀ key ∈ world.conn.pressedModifiers, allowed (.releaseKey key))
    (own : ∀ host, event ≠ .hostChanged host) :
    Leaves allowed env world (world.relayLoop env event) ∧
      ((world.relayLoop env event).phase = world.phase ∨
        (world.relayLoop env event).phase = .ended) := by
  have bailed : Leaves allowed env world (world.bail env) ∧
      ((world.bail env).phase = world.phase ∨ (world.bail env).phase = .ended) :=
    ⟨bail_leaves ordinary env world released, .inr rfl⟩
  have ignored : Leaves allowed env world world ∧
      (world.phase = world.phase ∨ world.phase = .ended) :=
    ⟨Leaves.of_leads (Leads.refl world), .inl rfl⟩
  have relayed : ∀ effect : Effect, effect.isOrdinary = true →
      Leaves allowed env world ({ world with lastRecvTime := env.now }.emit effect) ∧
        (({ world with lastRecvTime := env.now }.emit effect).phase = world.phase ∨
          ({ world with lastRecvTime := env.now }.emit effect).phase = .ended) := by
    intro effect fine
    have kept : Keeps allowed { world with lastRecvTime := env.now }
        ({ world with lastRecvTime := env.now }.emit effect) :=
      Keeps.emit _ (ordinary effect fine)
    exact ⟨Leaves.of_remembers ⟨_, _, rfl⟩ (.of_eq rfl rfl)
      (fun _ member => .inl member) kept.out, .inl rfl⟩
  cases event with
  | fromCm message =>
      cases message with
      | close => exact bailed
      | cmErr error => exact bailed
      | _ => exact ignored
  | received frame =>
      match frame with
      | none => exact bailed
      | some (.error _) => exact bailed
      | some (.ok frame) => exact relayed (.forward frame.bytes) rfl
  | forwarded frame =>
      match frame with
      | none => exact bailed
      | some (.error _) => exact bailed
      | some (.ok bytes) => exact relayed (.send (.raw bytes)) rfl
  | relayTimer =>
      unfold relayLoop
      dsimp only
      split
      · exact bailed
      · exact ignored
  | webConsole listed =>
      cases listed with
      | true => exact bailed
      | false => exact ignored
  | hostChanged host => exact absurd rfl (own host)
  | _ => exact ignored

end Turn

section Start

variable (env : Env) (host : Host) (id : Int) (ip : IpAddr) (hash : Hash)
  (require2fa : Option String)

/-- Opening tells the peer which permissions it lacks. -/
theorem opened_keeps
    (world : World)
    (permissions : List (Permission × Bool)) :
    (permissions.foldl
      (fun current told =>
        if !told.2 || (env.build.os == .android && told.1 == .keyboard) then
          current.sendPermission told.1 told.2
        else current) world).conn = world.conn ∧
    Keeps (fun _ => True) world (permissions.foldl
      (fun current told =>
        if !told.2 || (env.build.os == .android && told.1 == .keyboard) then
          current.sendPermission told.1 told.2
        else current) world) := by
  constructor
  · induction permissions generalizing world with
    | nil => rfl
    | cons told permissions inductionHypothesis =>
        rw [List.foldl_cons, inductionHypothesis]
        split <;> rfl
  · refine Keeps.foldl _ (fun current told _ => ?_) world
    exact Keeps.ite (fun _ => send_keeps (fun _ _ => trivial) current _)
      (fun _ => Keeps.refl current)

/-- A connection starts in its main loop, or ends at once. -/
theorem start_cases :
    ((start env host id ip hash require2fa).phase = .running ∧
        (start env host id ip hash require2fa).conn =
          initialConnection env id ip hash require2fa ∧
        (start env host id ip hash require2fa).host.toLoginTables =
          host.toLoginTables) ∨
      ((start env host id ip hash require2fa).phase = .ended ∧
        (start env host id ip hash require2fa).conn =
          { initialConnection env id ip hash require2fa with closed := true } ∧
        (start env host id ip hash require2fa).host = host) := by
  unfold start
  dsimp only
  split
  · exact .inr ⟨rfl, rfl, rfl⟩
  · obtain ⟨conn, kept⟩ := opened_keeps env
      (World.send ⟨host, initialConnection env id ip hash require2fa, .running,
        env.now, []⟩ .hash) _
    exact .inl ⟨kept.phase, conn, kept.tables⟩

/-- No connection starts authorized. -/
theorem start_unauthorized :
    (start env host id ip hash require2fa).conn.authorized = false := by
  rcases start_cases env host id ip hash require2fa with ⟨_, conn, _⟩ | ⟨_, conn, _⟩
  · rw [conn]
    rfl
  · rw [conn]
    rfl

/-- A connection keeps the number it is started with. -/
theorem start_connId : (start env host id ip hash require2fa).conn.id = id := by
  rcases start_cases env host id ip hash require2fa with ⟨_, conn, _⟩ | ⟨_, conn, _⟩
  · rw [conn]
    rfl
  · rw [conn]
    rfl

/-- A start leaves the tables alone. -/
theorem start_tables :
    (start env host id ip hash require2fa).host.toLoginTables = host.toLoginTables := by
  rcases start_cases env host id ip hash require2fa with ⟨_, _, same⟩ | ⟨_, _, same⟩
  · exact same
  · rw [same]

end Start

section Step

variable {world : World} {input : Input}

theorem step_of_running
    {allowed : Powers → Effect → Prop}
    (running : world.phase = .running)
    (permits : Permits allowed input.env world.cleared input.event)
    (own : ∀ host, input.event ≠ .hostChanged host) :
    Turns allowed input.env world.cleared input.event (world.step input) := by
  unfold step
  rw [running]
  exact mainLoop_turns permits own

/-- Whatever an event does is allowed where everything is. -/
theorem permits_all
    (env : Env)
    (world : World)
    (event : Event) :
    Permits (fun _ _ => True) env world event := by
  have all : ∀ current : World, Allows (fun _ _ => True) current := fun current =>
    ⟨fun _ _ _ => trivial, fun _ _ _ => trivial, fun _ _ _ => trivial⟩
  refine ⟨all world, fun _ _ _ _ => trivial, fun _ _ _ => trivial, ?_⟩
  intro bytes message _
  exact ⟨all _, fun _ _ _ => trivial, fun _ _ _ _ _ => trivial,
    fun _ _ _ _ _ _ => trivial, fun _ _ _ _ => trivial, fun _ _ _ _ => trivial⟩

theorem step_of_relaying
    {allowed : Effect → Prop}
    {address : String}
    (relaying : world.phase = .relaying address)
    (ordinary : ∀ effect, effect.isOrdinary = true → allowed effect)
    (released : ∀ key ∈ world.conn.pressedModifiers, allowed (.releaseKey key))
    (own : ∀ host, input.event ≠ .hostChanged host) :
    Leaves allowed input.env world.cleared (world.step input) ∧
      ((world.step input).phase = .relaying address ∨
        (world.step input).phase = .ended) := by
  unfold step
  rw [relaying]
  have leaves : Leaves allowed input.env world.cleared
      (world.cleared.relayLoop input.env input.event) ∧ _ :=
    relayLoop_leaves ordinary released own
  refine ⟨leaves.1, ?_⟩
  rcases leaves.2 with same | ended
  · exact .inl (same.trans relaying)
  · exact .inr ended

theorem step_of_ended (ended : world.phase = .ended) :
    world.step input = world.cleared := by
  unfold step
  rw [ended]

/-- Whether a message authorizes is decided by its handler, not by how the main
loop goes on. -/
theorem step_received_authorized
    {bytes : Bytes}
    {message : Message}
    (running : world.phase = .running)
    (received : input.event = .received (some (.ok ⟨bytes, some message⟩))) :
    (world.step input).conn.authorized =
      ((world.cleared.noteReceipt input.env).onMessage input.env
        message).1.conn.authorized := by
  unfold step
  rw [running, received]
  change ((world.cleared.noteReceipt input.env).onReceived input.env
    message).conn.authorized = _
  unfold onReceived
  split
  next handled equal =>
    rw [equal]
    exact afterLoop_authorized input.env handled
  next handled equal =>
    rw [equal]
    split
    · exact afterLoop_authorized input.env handled
    · rfl

/-- Other connections change the host and nothing else. -/
theorem step_hostChanged
    {host : Host}
    (changed : input.event = .hostChanged host) :
    (world.step input).conn = world.conn ∧ (world.step input).phase = world.phase ∧
      (world.step input).out = [] := by
  unfold step
  rw [changed]
  cases phase : world.phase with
  | running => exact ⟨rfl, phase, rfl⟩
  | relaying address => exact ⟨rfl, phase, rfl⟩
  | ended => exact ⟨rfl, phase, rfl⟩

/-- Every event moves the login of a connection, or leaves it but for its
socket. -/
theorem step_login (world : World) (input : Input) :
    ∃ login socket closed, (world.step input).conn.toLoginState =
        { login with portForwardSocket := socket, closed := closed } ∧
      (login = world.conn.toLoginState ∨
        world.phase = .running ∧ Move input.env world.cleared input.event login) := by
  by_cases own : ∀ host, input.event ≠ .hostChanged host
  · cases phase : world.phase with
    | running =>
        obtain ⟨login, last, move, leads, ⟨rfl, _, _⟩ | ⟨left, _⟩⟩ :=
          step_of_running phase (permits_all _ _ _) own
        · exact ⟨login, _, _, leads.login, .inr ⟨rfl, move⟩⟩
        · have leaves : Leaves (fun _ => True) input.env last
              (last.afterLoop input.env) :=
            afterLoop_leaves (fun _ _ => trivial) input.env last
              (fun _ _ _ => trivial) (fun _ _ => trivial)
          obtain ⟨socket, closed, after⟩ := leaves.login
          rw [leads.login] at after
          exact ⟨login, socket, closed, left ▸ after, .inr ⟨rfl, move⟩⟩
    | relaying address =>
        obtain ⟨leaves, _⟩ := step_of_relaying phase (fun _ _ => trivial)
          (fun _ _ => trivial) own
        obtain ⟨socket, closed, after⟩ := leaves.login
        exact ⟨_, socket, closed, after, .inl rfl⟩
    | ended =>
        rw [step_of_ended phase]
        exact ⟨_, _, _, rfl, .inl rfl⟩
  · obtain ⟨host, changed⟩ := not_forall_not.mp own
    obtain ⟨conn, _, _⟩ := step_hostChanged changed
    exact ⟨_, _, _, by rw [conn], .inl rfl⟩

/-- After an event sessions have no password but those known before and the
temporary one. -/
theorem step_sessions
    {world : World}
    {input : Input}
    (own : ∀ host, input.event ≠ .hostChanged host)
    {key : SessionKey}
    {session : Session}
    (found : (world.step input).host.sessions key = some session) :
    session.randomPassword = (world.step input).host.temporaryPassword ∨
      world.host.Knows session.randomPassword := by
  cases phase : world.phase with
  | running =>
      obtain ⟨login, last, _, leads, ⟨rfl, _, _⟩ | ⟨left, _⟩⟩ :=
        step_of_running phase (permits_all _ _ _) own
      · exact .inr (leads.remembers.sessions key session found)
      · have leaves : Leaves (fun _ => True) input.env last (last.afterLoop input.env) :=
          afterLoop_leaves (fun _ _ => trivial) input.env last
            (fun _ _ _ => trivial) (fun _ _ => trivial)
        rw [left] at found ⊢
        rcases leaves.sessions key session found with latest | known
        · exact .inl latest
        · exact .inr (leads.remembers.knows known)
  | relaying address =>
      obtain ⟨leaves, _⟩ := step_of_relaying phase (fun _ _ => trivial)
          (fun _ _ => trivial) own
      exact leaves.sessions key session found
  | ended =>
      rw [step_of_ended phase] at found
      exact .inr (.inr (.inr ⟨key, session, found, rfl⟩))

end Step

end World

end Server
end OneDesk
