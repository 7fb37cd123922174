import OneDesk.Server.LoginMove
import OneDesk.Server.Loop
import OneDesk.Server.Spoken

/-!
# Before a connection is authorized

The handlers an unauthorized peer can reach either leave the connection where it
stands, or authorize it at one place.  Up to there they answer the peer, keep the
books of the login and show the login to the user.
-/

namespace OneDesk
namespace Server

open OneDesk.Stream OneDesk.Common

/-- Effects that belong to a login, and those of a connection that ends. -/
def Effect.isPreliminary : Effect → Bool
  | .send _ => true
  | .toCm (.login _) => true
  | .toCm .close => true
  | .toCm .disconnected => true
  | .alarm _ => true
  | .telegramCode => true
  | .startDesktop _ => true
  | .logonUser _ => true
  | .qos (.userNetworkDelay _) => true
  | .voiceCallInput on => !on
  | .videoFetched => true
  | .emptyFileClipboard => true
  | .privacyOff => true
  | _ => false

/-- What a login leaves alone until the connection is authorized. -/
structure Standing where
  id : Int
  authorized : Bool
  authedConnId : Option AuthConnType
  lockAfterSessionEnd : Bool
  pressedModifiers : List Nat
  authedConns : List AuthedConn
  trustedDevices : List TrustedDevice
  temporaryPassword : Bytes
  phase : Phase

/-- Where a connection stands. -/
def World.standing (world : World) : Standing where
  id := world.conn.id
  authorized := world.conn.authorized
  authedConnId := world.conn.authedConnId
  lockAfterSessionEnd := world.conn.lockAfterSessionEnd
  pressedModifiers := world.conn.pressedModifiers
  authedConns := world.host.authedConns
  trustedDevices := world.host.trustedDevices
  temporaryPassword := world.host.temporaryPassword
  phase := world.phase

/-- A handler leaves the connection where it stands and subscribes it to nothing,
and every new effect is allowed. -/
structure Waits (allowed : Effect → Prop) (before after : World) : Prop where
  standing : after.standing = before.standing
  services : after.host.services = before.host.services
  out : ∀ effect ∈ after.out, effect ∈ before.out ∨ allowed effect

namespace Waits

variable {allowed : Effect → Prop} {before middle after : World}

theorem refl (world : World) : Waits allowed world world :=
  ⟨rfl, rfl, fun _ member => .inl member⟩

theorem trans
    (left : Waits allowed before middle)
    (right : Waits allowed middle after) :
    Waits allowed before after where
  standing := right.standing.trans left.standing
  services := right.services.trans left.services
  out := by
    intro effect member
    rcases right.out effect member with earlier | new
    · exact left.out effect earlier
    · exact .inr new

/-- An allowed effect. -/
theorem emit
    (world : World)
    {effect : Effect}
    (permitted : allowed effect) :
    Waits allowed world (world.emit effect) := by
  refine ⟨rfl, rfl, ?_⟩
  intro other member
  rcases List.mem_append.mp member with earlier | new
  · exact .inl earlier
  · rw [List.mem_singleton.mp new]
    exact .inr permitted

/-- A change without an effect. -/
theorem silent
    (standing : after.standing = before.standing)
    (services : after.host.services = before.host.services)
    (out : after.out = before.out) :
    Waits allowed before after :=
  ⟨standing, services, fun _ member => .inl (out ▸ member)⟩

/-- A change of the connection that leaves it where it stands. -/
theorem modify
    (world : World)
    (change : Connection → Connection)
    (standing : (world.modify change).standing = world.standing) :
    Waits allowed world (world.modify change) :=
  .silent standing rfl rfl

theorem authorized
    (waits : Waits allowed before after) :
    after.conn.authorized = before.conn.authorized :=
  congrArg Standing.authorized waits.standing

theorem authedConns
    (waits : Waits allowed before after) :
    after.host.authedConns = before.host.authedConns :=
  congrArg Standing.authedConns waits.standing

end Waits

/-- A handler waits, probes no delay, and what it says to the peer introduces the
host. -/
structure Introduces (allowed : Effect → Prop) (before after : World) : Prop
    extends Waits allowed before after where
  asks : after.conn.lastTestDelay = before.conn.lastTestDelay
  said : ∃ replies, after.said = before.said ++ replies ∧
    ∀ reply ∈ replies, reply.introduces = true

namespace Introduces

variable {allowed : Effect → Prop} {before middle after : World}

theorem refl (world : World) : Introduces allowed world world where
  toWaits := .refl world
  asks := rfl
  said := ⟨[], by simp, by simp⟩

theorem trans
    (left : Introduces allowed before middle)
    (right : Introduces allowed middle after) :
    Introduces allowed before after where
  toWaits := left.toWaits.trans right.toWaits
  asks := right.asks.trans left.asks
  said := by
    obtain ⟨first, first_eq, firstIntroduces⟩ := left.said
    obtain ⟨second, second_eq, secondIntroduces⟩ := right.said
    refine ⟨first ++ second, ?_, ?_⟩
    · rw [second_eq, first_eq, List.append_assoc]
    · intro reply member
      rcases List.mem_append.mp member with earlier | later
      · exact firstIntroduces reply earlier
      · exact secondIntroduces reply later

/-- An allowed effect that introduces the host, if it is a message to the peer. -/
theorem emit
    (world : World)
    {effect : Effect}
    (permitted : allowed effect)
    (introduces : ∀ reply ∈ effect.toPeer, reply.introduces = true) :
    Introduces allowed world (world.emit effect) where
  toWaits := .emit world permitted
  asks := rfl
  said := by
    refine ⟨effect.toPeer.toList, world.said_emit effect, ?_⟩
    intro reply member
    exact introduces reply (Option.mem_toList.mp member)

/-- A change without an effect. -/
theorem silent
    (standing : after.standing = before.standing)
    (services : after.host.services = before.host.services)
    (out : after.out = before.out)
    (asks : after.conn.lastTestDelay = before.conn.lastTestDelay) :
    Introduces allowed before after where
  toWaits := .silent standing services out
  asks := asks
  said := ⟨[], by rw [World.said, out, World.said, List.append_nil], by simp⟩

/-- A change of the connection that leaves it where it stands. -/
theorem modify
    (world : World)
    (change : Connection → Connection)
    (standing : (world.modify change).standing = world.standing)
    (asks : (world.modify change).conn.lastTestDelay = world.conn.lastTestDelay) :
    Introduces allowed world (world.modify change) :=
  .silent standing rfl rfl asks

theorem authorized
    (introduces : Introduces allowed before after) :
    after.conn.authorized = before.conn.authorized :=
  introduces.toWaits.authorized

end Introduces

/-- After the authorization: the login, the record of the connection and the
effects so far stay, and the peer is told nothing more. -/
structure Tells (before after : World) : Prop where
  login : after.conn.toLoginState = before.conn.toLoginState
  authedConns : after.host.authedConns = before.host.authedConns
  phase : after.phase = before.phase
  out : before.out <+: after.out
  asks : after.conn.lastTestDelay = before.conn.lastTestDelay
  said : after.said = before.said

theorem Tells.refl (world : World) : Tells world world :=
  ⟨rfl, rfl, rfl, List.prefix_refl _, rfl, rfl⟩

theorem Tells.trans
    {before middle after : World}
    (left : Tells before middle)
    (right : Tells middle after) :
    Tells before after :=
  ⟨right.login.trans left.login, right.authedConns.trans left.authedConns,
    right.phase.trans left.phase, left.out.trans right.out, right.asks.trans left.asks,
    right.said.trans left.said⟩

/-- A handler waits, or waits up to the place where the connection becomes
authorized. -/
inductive Decides (allowed : Effect → Prop) (env : Env) (world : World) :
    World → Prop
  | waits {after : World} (waits : Waits allowed world after) :
      Decides allowed env world after
  | authorizes {after : World} (checked : World)
      (waits : Waits allowed world checked)
      (unauthorized : checked.conn.authorized = false)
      (tells : Tells (checked.authorize.answerLogon env) after) :
      Decides allowed env world after

/-- A handler of a login introduces the host, up to the place where the connection
becomes authorized. -/
inductive Settles (allowed : Effect → Prop) (env : Env) (world : World) :
    World → Prop
  | introduces {after : World} (introduces : Introduces allowed world after) :
      Settles allowed env world after
  | authorizes {after : World} (checked : World)
      (introduces : Introduces allowed world checked)
      (unauthorized : checked.conn.authorized = false)
      (tells : Tells (checked.authorize.answerLogon env) after) :
      Settles allowed env world after

namespace Settles

variable {allowed : Effect → Prop} {env : Env} {world middle after : World}

theorem decides
    (settles : Settles allowed env world after) :
    Decides allowed env world after := by
  cases settles with
  | introduces rest => exact .waits rest.toWaits
  | authorizes checked rest unauthorized tells =>
      exact .authorizes checked rest.toWaits unauthorized tells

theorem after_introduces
    (first : Introduces allowed world middle)
    (settles : Settles allowed env middle after) :
    Settles allowed env world after := by
  cases settles with
  | introduces rest => exact .introduces (first.trans rest)
  | authorizes checked rest unauthorized tells =>
      exact .authorizes checked (first.trans rest) unauthorized tells

/-- A handler that only tells something can follow. -/
theorem tell
    (settles : Settles allowed env world middle)
    (introduces : Introduces allowed middle after)
    (tells : Tells middle after) :
    Settles allowed env world after := by
  cases settles with
  | introduces first => exact .introduces (first.trans introduces)
  | authorizes checked first unauthorized earlier =>
      exact .authorizes checked first unauthorized (earlier.trans tells)

end Settles

namespace World

section Login

variable {allowed : Effect → Prop}
  (preliminary : ∀ effect, effect.isPreliminary = true → allowed effect)
  (env : Env) (world : World)

theorem isRecentSession_introduces (tfa : Bool) :
    Introduces allowed world (world.isRecentSession env tfa).1 :=
  .silent rfl rfl rfl rfl

theorem validatePassword_introduces :
    Introduces allowed world (world.validatePassword env).1 := by
  unfold validatePassword Host.updateOrInsertSession
  split
  · refine .silent ?_ ?_ rfl rfl
    · dsimp only [standing, modifyHost]
      split <;> rfl
    · dsimp only [modifyHost]
      split <;> rfl
  · split
    · exact .refl world
    · exact .refl world

theorem updateFailure_introduces
    (checked : Checked)
    (removing : Bool)
    (table : Fin 2) :
    Introduces allowed world (world.updateFailure checked removing table) :=
  .silent rfl rfl rfl rfl

theorem secondFactorMissing_introduces :
    Introduces allowed world (world.secondFactorMissing env).1 := by
  unfold secondFactorMissing
  split
  · exact isRecentSession_introduces env world true
  · exact .refl world

theorem stored_introduces (lr : LoginRequest) :
    Introduces allowed world (world.handleLoginRequestWithoutValidation env lr) :=
  .silent rfl rfl rfl rfl

theorem tryStartCmIpc_introduces : Introduces allowed world (world.tryStartCmIpc env) := by
  unfold tryStartCmIpc
  split
  · exact .refl world
  · exact .silent rfl rfl rfl rfl

theorem tryStartCmIpc_tells : Tells world (world.tryStartCmIpc env) := by
  unfold tryStartCmIpc
  split
  · exact .refl world
  · exact ⟨rfl, rfl, rfl, List.prefix_refl _, rfl, rfl⟩

theorem tryStartCm_tells (peerId name : String) (authorized : Bool) :
    Tells world (world.tryStartCm peerId name authorized) :=
  ⟨rfl, rfl, rfl, List.prefix_append _ _, rfl, by
    rw [tryStartCm, sendToCm, said_emit]
    exact List.append_nil _⟩

theorem setSession2fa_introduces (key : SessionKey) :
    Introduces allowed world (world.modifyHost fun host => host.setSession2fa env key) := by
  unfold Host.setSession2fa
  refine .silent ?_ ?_ rfl rfl
  · dsimp only [standing, modifyHost]
    split <;> rfl
  · dsimp only [modifyHost]
    split <;> rfl

/-- Without a missing second factor `send_logon_response` authorizes. -/
theorem sendLogonResponse_of_present
    (unauthorized : world.conn.authorized = false)
    (present : (world.secondFactorMissing env).2 = false) :
    world.sendLogonResponse env =
      ((world.secondFactorMissing env).1.authorize).answerLogon env := by
  unfold sendLogonResponse
  simp only [unauthorized, present, Bool.false_eq_true, if_false]

theorem authorizes_of_present
    {current after : World}
    (waits : Introduces allowed world current)
    (unauthorized : current.conn.authorized = false)
    (present : (current.secondFactorMissing env).2 = false)
    (tells : Tells (current.sendLogonResponse env) after) :
    Settles allowed env world after := by
  have factor : Introduces allowed current (current.secondFactorMissing env).1 :=
    secondFactorMissing_introduces env current
  rw [sendLogonResponse_of_present env current unauthorized present] at tells
  exact .authorizes _ (waits.trans factor) (factor.authorized.trans unauthorized) tells

include preliminary

theorem send_introduces
    (reply : Reply)
    (introduces : reply.introduces = true) :
    Introduces allowed world (world.send reply) :=
  .emit world (preliminary _ rfl) fun _ same => Option.mem_some.mp same ▸ introduces

theorem sendLoginError_introduces (error : String) :
    Introduces allowed world (world.sendLoginError env error) :=
  send_introduces preliminary world _ rfl

theorem tryStartCm_introduces (peerId name : String) (authorized : Bool) :
    Introduces allowed world (world.tryStartCm peerId name authorized) :=
  .emit world (preliminary _ rfl) (by simp [Effect.toPeer])

theorem checkFailure_introduces (table : Fin 2) :
    Introduces allowed world (world.checkFailure env table).1 := by
  unfold checkFailure
  dsimp only
  split
  next refusal _ =>
    exact (sendLoginError_introduces preliminary env world refusal.error).trans
      (.emit _ (preliminary _ rfl) (by simp [Effect.toPeer]))
  next => exact .refl world

/-- `send_logon_response` is where a connection becomes authorized. -/
theorem sendLogonResponse_settles
    (unauthorized : world.conn.authorized = false) :
    Settles allowed env world (world.sendLogonResponse env) := by
  have factor : Introduces allowed world (world.secondFactorMissing env).1 :=
    secondFactorMissing_introduces env world
  have notified : Introduces allowed (world.secondFactorMissing env).1
      ((world.secondFactorMissing env).1.emit .telegramCode) :=
    .emit _ (preliminary _ rfl) (by simp [Effect.toPeer])
  unfold sendLogonResponse
  rw [if_neg (by rw [unauthorized]; exact Bool.false_ne_true)]
  dsimp only
  split
  · exact .introduces ((factor.trans notified).trans
      (sendLoginError_introduces preliminary env _ _))
  · refine .authorizes _ factor (factor.authorized.trans unauthorized) ?_
    exact .refl _

theorem approveLogin_settles
    (lr : LoginRequest)
    (unauthorized : world.conn.authorized = false) :
    Settles allowed env world (world.approveLogin env lr) :=
  (sendLogonResponse_settles preliminary env world unauthorized).tell
    (tryStartCm_introduces preliminary _ _ _ _) (tryStartCm_tells _ _ _ _)

theorem loginByPassword_settles
    (lr : LoginRequest)
    (errMsg : String)
    (unauthorized : world.conn.authorized = false) :
    Settles allowed env world (world.loginByPassword env lr errMsg) := by
  have checked := checkFailure_introduces preliminary env world 0
  have counted : ∀ removing, Introduces allowed world
      (((world.checkFailure env 0).1.validatePassword env).1.updateFailure
        (world.checkFailure env 0).2 removing 0) := by
    intro removing
    exact (checked.trans (validatePassword_introduces env _)).trans
      (updateFailure_introduces _ _ _ _)
  unfold loginByPassword
  dsimp only
  split
  · exact .introduces checked
  · split
    · split
      · exact .after_introduces (counted true) (approveLogin_settles preliminary env _ lr
          ((counted true).authorized.trans unauthorized))
      · exact .introduces ((counted true).trans (sendLoginError_introduces preliminary env _ _))
    · split
      · exact .introduces (((counted false).trans
          (sendLoginError_introduces preliminary env _ _)).trans
            (tryStartCm_introduces preliminary _ _ _ _))
      · exact .introduces ((counted false).trans (sendLoginError_introduces preliminary env _ _))

theorem loginCascade_settles
    (lr : LoginRequest)
    (errMsg : String)
    (unauthorized : world.conn.authorized = false) :
    Settles allowed env world (world.loginCascade env lr errMsg).1 := by
  have recent : Introduces allowed world (world.isRecentSession env false).1 :=
    isRecentSession_introduces env world false
  unfold loginCascade
  dsimp only
  split
  · exact .introduces (sendLoginError_introduces preliminary env _ _)
  split
  · exact approveLogin_settles preliminary env world lr unauthorized
  split
  · exact approveLogin_settles preliminary env world lr unauthorized
  split
  · split
    · exact .introduces ((tryStartCm_introduces preliminary _ _ _ _).trans
        (sendLoginError_introduces preliminary env _ _))
    · exact .introduces (tryStartCm_introduces preliminary _ _ _ _)
  split
  · split
    · exact .after_introduces recent (approveLogin_settles preliminary env _ lr
        (recent.authorized.trans unauthorized))
    · exact .introduces (recent.trans (sendLoginError_introduces preliminary env _ _))
  split
  · split
    · exact .introduces (recent.trans (tryStartCm_introduces preliminary _ _ _ _))
    · exact .introduces (recent.trans (sendLoginError_introduces preliminary env _ _))
  · exact .after_introduces recent (loginByPassword_settles preliminary env _ lr errMsg
      (recent.authorized.trans unauthorized))

theorem logonUser_introduces (osLogin : OsLogin) :
    Introduces allowed world (world.logonUser env osLogin) := by
  unfold logonUser
  split
  · exact .emit world (preliminary _ rfl) (by simp [Effect.toPeer])
  · exact .refl world

theorem tryStartDesktop_introduces (lr : LoginRequest) :
    Introduces allowed world (world.tryStartDesktop env lr) := by
  unfold tryStartDesktop
  split
  · exact .emit world (preliminary _ rfl) (by simp [Effect.toPeer])
  · exact .refl world

theorem checkTerminalUser_introduces (lr : LoginRequest) (serviceId : String) :
    Introduces allowed world (world.checkTerminalUser env lr serviceId).1 := by
  unfold checkTerminalUser
  dsimp only
  have filled : ∀ token, Introduces allowed world
      ((world.logonUser env lr.osLogin).modify fun conn =>
        { conn with terminalUserToken := token }) :=
    fun token => (logonUser_introduces preliminary env world _).trans (.silent rfl rfl rfl rfl)
  split
  · exact .refl world
  split
  · exact (filled _).trans (sendLoginError_introduces preliminary env _ _)
  split
  · exact (filled _).trans (sendLoginError_introduces preliminary env _ _)
  · exact filled _

theorem loginPortForward_introduces
    (host : String)
    (port : Int)
    (connected : env.permission "enable-tunnel" = true →
      allowed (.connect (forwardAddress host port))) :
    Introduces allowed world (world.loginPortForward env host port).1 := by
  unfold loginPortForward
  dsimp only
  split
  · exact sendLoginError_introduces preliminary env _ _
  next permitted =>
    have tunnel : env.permission "enable-tunnel" = true := by simpa using permitted
    have addressed : Introduces allowed world (world.modify fun conn =>
        { conn with portForwardAddress := forwardAddress host port }) :=
      .silent rfl rfl rfl rfl
    have tried := addressed.trans (.emit _ (connected tunnel) (by simp [Effect.toPeer]))
    split
    · exact tried.trans (.silent rfl rfl rfl rfl)
    · exact tried.trans (sendLoginError_introduces preliminary env _ _)

/-- The set-up of a login for the kind it asks for. -/
theorem loginKind_introduces
    (lr : LoginRequest)
    (connected : ∀ host port, lr.union = some (.portForward host port) →
      env.permission "enable-tunnel" = true →
        allowed (.connect (forwardAddress host port))) :
    Introduces allowed world (world.loginKind env lr).1 := by
  unfold loginKind
  split
  · split
    · exact .silent rfl rfl rfl rfl
    · exact sendLoginError_introduces preliminary env _ _
  · split
    · exact .silent rfl rfl rfl rfl
    · exact sendLoginError_introduces preliminary env _ _
  · unfold loginTerminal
    split
    · exact sendLoginError_introduces preliminary env _ _
    split
    · exact sendLoginError_introduces preliminary env _ _
    · have marked : ∀ serviceId, Introduces allowed world (world.markTerminal serviceId) :=
        fun serviceId => .silent rfl rfl rfl rfl
      exact (marked _).trans (checkTerminalUser_introduces preliminary env _ lr _)
  next host port asked =>
    exact loginPortForward_introduces preliminary env world host port
      (connected host port asked)
  · split
    · exact sendLoginError_introduces preliminary env _ _
    · exact .refl world

theorem onLoginRequest_settles
    (lr : LoginRequest)
    (unauthorized : world.conn.authorized = false)
    (connected : ∀ host port, lr.union = some (.portForward host port) →
      env.permission "enable-tunnel" = true →
        allowed (.connect (forwardAddress host port))) :
    Settles allowed env world (world.onLoginRequest env lr).1 := by
  have stored : Introduces allowed world
      (world.handleLoginRequestWithoutValidation env lr) :=
    stored_introduces env world lr
  have kind := stored.trans (loginKind_introduces preliminary env _ lr connected)
  have started := (kind.trans (tryStartCmIpc_introduces env _)).trans
    (tryStartDesktop_introduces preliminary env _ lr)
  unfold onLoginRequest
  dsimp only
  rw [stored.authorized, unauthorized, if_neg Bool.false_ne_true]
  split
  next refused equal =>
    rw [equal] at kind
    exact .introduces kind
  next asked equal =>
    rw [equal] at started
    split
    · exact .introduces (started.trans (sendLoginError_introduces preliminary env _ _))
    · exact .after_introduces started (loginCascade_settles preliminary env _ lr _
        (started.authorized.trans unauthorized))

theorem onAuth2fa_settles
    (code : String)
    (hwid : Bytes)
    (unauthorized : world.conn.authorized = false) :
    Settles allowed env world (world.onAuth2fa env code hwid) := by
  have checked := checkFailure_introduces preliminary env world 1
  have counted : ∀ removing, Introduces allowed world
      ((world.checkFailure env 1).1.updateFailure (world.checkFailure env 1).2
        removing 1) :=
    fun removing => checked.trans (updateFailure_introduces _ _ _ _)
  unfold onAuth2fa
  dsimp only
  split
  · exact .introduces checked
  split
  · exact .introduces checked
  · exact .introduces ((counted false).trans (sendLoginError_introduces preliminary env _ _))
  · have unlocked := (counted true).trans
      (.modify _ (fun conn => { conn with require2fa := none }) rfl rfl)
    have passed := unlocked.trans (setSession2fa_introduces env _
      ((world.checkFailure env 1).1.updateFailure (world.checkFailure env 1).2 true
        1).conn.sessionKey)
    refine authorizes_of_present env world passed
      (passed.authorized.trans unauthorized)
      (secondFactorMissing_of_unlocked env _ rfl) ?_
    split
    · exact (tryStartCm_tells _ _ _ _).trans
        ⟨rfl, rfl, rfl, List.prefix_refl _, rfl, rfl⟩
    · exact tryStartCm_tells _ _ _ _

omit preliminary in
theorem onSwitchSidesResponse_settles
    (uuid : Bytes)
    (request : Option LoginRequest)
    (unauthorized : world.conn.authorized = false) :
    Settles allowed env world (world.onSwitchSidesResponse env uuid request) := by
  unfold onSwitchSidesResponse
  split
  next lr _ =>
    have stored : Introduces allowed world
        (world.handleLoginRequestWithoutValidation env lr) :=
      stored_introduces env world lr
    have removed : ∀ table, Introduces allowed world
        ((world.handleLoginRequestWithoutValidation env lr).modifyHost fun _ =>
          { (world.handleLoginRequestWithoutValidation env lr).host.retainSwitchSides
              env with switchSidesUuid := table }) :=
      fun table => stored.trans (.silent rfl rfl rfl rfl)
    dsimp only
    split
    · have switched := (removed (Function.update
          ((world.handleLoginRequestWithoutValidation env lr).host.retainSwitchSides
            env).switchSidesUuid lr.myId none)).trans
        (.modify _ (fun conn => { conn with fromSwitch := true }) rfl rfl)
      refine Settles.tell ?_ (tryStartCmIpc_introduces env _) (tryStartCmIpc_tells env _)
      exact authorizes_of_present env world switched
        (switched.authorized.trans unauthorized)
        (secondFactorMissing_of_fromSwitch env _ rfl) (tryStartCm_tells _ _ _ _)
    · exact .introduces (removed _)
  · exact .introduces (.refl world)

theorem onTestDelay_waits (time : Int) (fromClient : Bool) :
    Waits allowed world (world.onTestDelay env time fromClient) := by
  unfold onTestDelay
  split
  · exact .emit world (preliminary _ rfl)
  split
  · exact .refl world
  · dsimp only
    exact (Waits.modify world _ rfl).trans (.emit _ (preliminary _ rfl))

/-- A connection that never got to its options closes without locking the
screen. -/
theorem onClose_waits
    (lock : Bool)
    (unlocked : world.conn.lockAfterSessionEnd = false) :
    Waits allowed world (world.onClose env lock) := by
  have muted : Waits allowed world (world.emit (.voiceCallInput false)) :=
    .emit world (preliminary _ rfl)
  have told : ∀ unseen : Bool, Waits allowed (world.emit (.voiceCallInput false))
      ((world.emit (.voiceCallInput false)).sendToCm
        (if unseen then .disconnected else .close)) := by
    intro unseen
    cases unseen with
    | true => exact .emit _ (preliminary _ rfl)
    | false => exact .emit _ (preliminary _ rfl)
  unfold onClose
  split
  · exact .refl world
  · rw [unlocked]
    simp only [Bool.and_false, Bool.false_and, Bool.false_eq_true, if_false]
    exact (muted.trans (told _)).trans (.modify _ _ rfl)

omit preliminary in
theorem checkRemoveSession_waits : Waits allowed world world.checkRemoveSession := by
  unfold checkRemoveSession Host.checkRemoveSession
  refine .silent ?_ ?_ rfl
  · dsimp only [standing, modifyHost]
    split
    · split <;> rfl
    · rfl
  · dsimp only [modifyHost]
    split
    · split <;> rfl
    · rfl

theorem cleanUp_waits
    (unauthorized : world.conn.authorized = false) :
    Waits allowed world (world.cleanUp env) := by
  have emptied : Waits allowed world
      (if env.build.unixFileCopyPaste then world.emit .emptyFileClipboard
        else world) := by
    split
    · exact .emit world (preliminary _ rfl)
    · exact .refl world
  have visible : ∀ current, Waits allowed current
      (if env.privacyModeConnId = some world.conn.id then current.emit .privacyOff
        else current) := by
    intro current
    split
    · exact .emit current (preliminary _ rfl)
    · exact .refl current
  have fetched := (emptied.trans (visible _)).trans
    (.emit _ (preliminary .videoFetched rfl))
  unfold cleanUp updateTemporaryPassword
  dsimp only
  rw [if_neg (by rw [fetched.authorized, unauthorized]; exact Bool.false_ne_true)]
  exact fetched

end Login

/-- An unauthorized connection has nothing of a session yet: no options, no held
keys, no record. -/
structure IsBare (world : World) : Prop where
  unauthorized : world.conn.authorized = false
  unlocked : world.conn.lockAfterSessionEnd = false
  released : world.conn.pressedModifiers = []
  unregistered : world.conn.authedConnId = none

theorem IsBare.of_waits
    {allowed : Effect → Prop}
    {before after : World}
    (bare : before.IsBare)
    (waits : Waits allowed before after) :
    after.IsBare where
  unauthorized := waits.authorized.trans bare.unauthorized
  unlocked :=
    (congrArg Standing.lockAfterSessionEnd waits.standing).trans bare.unlocked
  released :=
    (congrArg Standing.pressedModifiers waits.standing).trans bare.released
  unregistered :=
    (congrArg Standing.authedConnId waits.standing).trans bare.unregistered

end World

/-- A connection that nobody authorized goes on, or leaves its main loop and is
at most taken off the services. -/
structure Idles (allowed : Effect → Prop) (before after : World) : Prop where
  standing : after.standing = { before.standing with phase := after.phase }
  services : after.host.services = before.host.services ∨
    after.host.services = (before.host.removeConnection before.conn.id).services
  out : ∀ effect ∈ after.out, effect ∈ before.out ∨ allowed effect

namespace Idles

variable {allowed : Effect → Prop} {before middle after : World}

theorem of_waits (waits : Waits allowed before after) : Idles allowed before after where
  standing := by
    rw [waits.standing]
    exact congrArg (fun phase => { before.standing with phase := phase })
      (congrArg Standing.phase waits.standing).symm
  services := .inl waits.services
  out := waits.out

theorem after_waits
    (first : Waits allowed before middle)
    (rest : Idles allowed middle after) :
    Idles allowed before after where
  standing := by rw [rest.standing, first.standing]
  services := by
    have sameId : middle.conn.id = before.conn.id :=
      congrArg Standing.id first.standing
    have removed : (middle.host.removeConnection middle.conn.id).services =
        (before.host.removeConnection before.conn.id).services := by
      simp only [Host.removeConnection, first.services, sameId]
    rcases rest.services with same | left
    · exact .inl (same.trans first.services)
    · exact .inr (left.trans removed)
  out := by
    intro effect member
    rcases rest.out effect member with earlier | new
    · exact first.out effect earlier
    · exact .inr new

theorem then_waits
    (first : Idles allowed before middle)
    (rest : Waits allowed middle after) :
    Idles allowed before after where
  standing := by
    have samePhase : after.phase = middle.phase :=
      congrArg Standing.phase rest.standing
    rw [rest.standing, first.standing, samePhase]
  services := by
    rcases first.services with same | left
    · exact .inl (rest.services.trans same)
    · exact .inr (rest.services.trans left)
  out := by
    intro effect member
    rcases rest.out effect member with earlier | new
    · exact first.out effect earlier
    · exact .inr new

/-- The connection enters another phase. -/
theorem enter
    (idles : Idles allowed before after)
    (phase : Phase)
    (lastRecvTime : Int) :
    Idles allowed before { after with phase := phase, lastRecvTime := lastRecvTime } where
  standing := congrArg (fun standing : Standing => { standing with phase := phase })
    idles.standing
  services := idles.services
  out := idles.out

end Idles

namespace World

section Ends

variable {allowed : Effect → Prop}
  (preliminary : ∀ effect, effect.isPreliminary = true → allowed effect)
  (env : Env) (world : World)

include preliminary

theorem finish_idles (bare : world.IsBare) : Idles allowed world (world.finish env) := by
  have left : Idles allowed world (world.removeConnection env) := by
    unfold removeConnection
    split
    · exact ⟨rfl, .inr rfl, fun _ member => .inl member⟩
    · exact .of_waits (.refl world)
  have sameConn : (world.removeConnection env).conn = world.conn := by
    unfold removeConnection
    split <;> rfl
  have closed := onClose_waits preliminary env (world.removeConnection env) true
    (by rw [sameConn, bare.unlocked])
  have pressed : ((world.removeConnection env).onClose env true).conn.pressedModifiers =
      [] := by
    rw [onClose_pressed, sameConn, bare.released]
  have released : Waits allowed ((world.removeConnection env).onClose env true)
      (((world.removeConnection env).onClose env true).releaseModifiers env) := by
    unfold releaseModifiers
    split
    · exact .refl _
    · refine .silent ?_ rfl ?_
      · simp only [standing, pressed]
      · simp only [pressed, List.map_nil, List.append_nil]
  have ended := (left.then_waits closed).then_waits released
  have unregistered : (((world.removeConnection env).onClose env true).releaseModifiers
      env).conn.authedConnId = none := by
    have same := congrArg Standing.authedConnId (closed.trans released).standing
    exact same.trans (by simp only [standing, sameConn, bare.unregistered])
  have dropped := ended.enter .ended
    (((world.removeConnection env).onClose env true).releaseModifiers env).lastRecvTime
  unfold finish dropAuthedConn
  rw [if_neg (by rw [unregistered]; exact Bool.false_ne_true)]
  exact dropped

/-- After the main loop an unauthorized connection ends, or relays. -/
theorem afterLoop_idles (bare : world.IsBare) :
    Idles allowed world (world.afterLoop env) := by
  have cleaned := cleanUp_waits preliminary env world bare.unauthorized
  unfold afterLoop
  dsimp only
  split
  · next address _ =>
      refine .after_waits (cleaned.trans (.modify _ (fun conn =>
        { conn with portForwardSocket := none }) rfl)) ?_
      exact (Idles.of_waits (.refl _)).enter (.relaying address) env.now
  · exact .after_waits cleaned (finish_idles preliminary env _ (bare.of_waits cleaned))

/-- A message of an unauthorized peer. -/
theorem onMessage_decides
    (message : Message)
    (bare : world.IsBare)
    (connected : ∀ lr host port, message = .loginRequest lr →
      lr.union = some (.portForward host port) →
        env.permission "enable-tunnel" = true →
          allowed (.connect (forwardAddress host port))) :
    Decides allowed env world (world.onMessage env message).1 := by
  have notAuthorized : ¬world.conn.authorized = true := by
    rw [bare.unauthorized]
    exact Bool.false_ne_true
  unfold onMessage
  split
  · exact .waits ((onClose_waits preliminary env world true bare.unlocked).trans
      (checkRemoveSession_waits _))
  next lr =>
    exact (onLoginRequest_settles preliminary env world lr bare.unauthorized
      (fun host port => connected lr host port rfl)).decides
  next code hwid =>
    exact (onAuth2fa_settles preliminary env world code hwid bare.unauthorized).decides
  next time fromClient =>
    exact .waits (onTestDelay_waits preliminary env world time fromClient)
  next uuid request =>
    exact (onSwitchSidesResponse_settles env world uuid request bare.unauthorized).decides
  · rw [if_neg notAuthorized]
    exact .waits (.refl world)

omit preliminary in
theorem onClose_out (lock : Bool) : world.out <+: (world.onClose env lock).out := by
  unfold onClose
  split
  · exact List.prefix_refl _
  · dsimp only
    split
    · exact (List.prefix_append _ _).trans
        ((List.prefix_append _ _).trans (List.prefix_append _ _))
    · exact (List.prefix_append _ _).trans (List.prefix_append _ _)

omit preliminary in
theorem cleanUp_out : world.out <+: (world.cleanUp env).out := by
  have emptied : world.out <+:
      (if env.build.unixFileCopyPaste then world.emit .emptyFileClipboard
        else world).out := by
    split
    · exact List.prefix_append _ _
    · exact List.prefix_refl _
  have visible : ∀ current : World, current.out <+:
      (if env.privacyModeConnId = some world.conn.id then current.emit .privacyOff
        else current).out := by
    intro current
    split
    · exact List.prefix_append _ _
    · exact List.prefix_refl _
  have updated : ∀ current : World,
      (current.updateTemporaryPassword env).out = current.out := by
    intro current
    unfold updateTemporaryPassword
    split <;> rfl
  unfold cleanUp
  dsimp only
  rw [updated]
  exact (emptied.trans (visible _)).trans (List.prefix_append _ _)

omit preliminary in
theorem finish_out : world.out <+: (world.finish env).out := by
  have removed : (world.removeConnection env).out = world.out := by
    unfold removeConnection
    split <;> rfl
  have released : ∀ current : World, current.out <+:
      (current.releaseModifiers env).out := by
    intro current
    unfold releaseModifiers
    split
    · exact List.prefix_refl _
    · exact List.prefix_append _ _
  have dropped : ∀ current : World, current.dropAuthedConn.out = current.out := by
    intro current
    unfold dropAuthedConn
    split <;> rfl
  have closed := onClose_out env (world.removeConnection env) true
  rw [removed] at closed
  unfold finish
  change _ <+: (dropAuthedConn _).out
  rw [dropped]
  exact closed.trans (released _)

omit preliminary in
theorem afterLoop_out : world.out <+: (world.afterLoop env).out := by
  unfold afterLoop
  dsimp only
  split
  · exact cleanUp_out env world
  · exact (cleanUp_out env world).trans (finish_out env _)

end Ends

/-! ## One event of an unauthorized connection -/

/-- Effects a frame may have before a login: preliminary ones, and the connection
that a login for port forwarding tries where tunnels are permitted. -/
def Preliminary
    (env : Env)
    (frame : Option (Except String Frame))
    (effect : Effect) : Prop :=
  effect.isPreliminary = true ∨
    ∃ bytes lr host port,
      frame = some (.ok ⟨bytes, some (.loginRequest lr)⟩) ∧
      lr.union = some (.portForward host port) ∧
      env.permission "enable-tunnel" = true ∧
      effect = .connect (forwardAddress host port)

section Events

variable (env : Env) (world : World)

theorem noteReceipt_waits {allowed : Effect → Prop} :
    Waits allowed world (world.noteReceipt env) := by
  unfold noteReceipt Host.touch
  cases world.conn.sessionLastRecvTime with
  | none => exact .silent rfl rfl rfl
  | some cell => exact .silent rfl rfl rfl

theorem authorize_authorized : world.authorize.conn.authorized = true := by
  unfold authorize
  dsimp only
  split <;> rfl

/-- Whoever is told about the login reached is authorized. -/
theorem tells_authorized
    {checked after : World}
    (tells : Tells (checked.authorize.answerLogon env) after) :
    after.conn.authorized = true := by
  have kept : Keeps (fun _ => True) checked.authorize
      (checked.authorize.answerLogon env) :=
    answerLogon_keeps (fun _ _ => trivial) env _ (fun _ => trivial)
  have login := tells.login.trans kept.login
  exact (congrArg LoginState.authorized login).trans (authorize_authorized checked)

/-- A message of an unauthorized peer, and how the main loop goes on. -/
theorem onReceived_unauthorized
    {allowed : Effect → Prop}
    (preliminary : ∀ effect, effect.isPreliminary = true → allowed effect)
    (message : Message)
    (bare : world.IsBare)
    (connected : ∀ lr host port, message = .loginRequest lr →
      lr.union = some (.portForward host port) →
        env.permission "enable-tunnel" = true →
          allowed (.connect (forwardAddress host port))) :
    Idles allowed world (world.onReceived env message) ∨
      (world.onReceived env message).conn.authorized = true ∧
        ∃ checked, Waits allowed world checked ∧
          (checked.authorize.answerLogon env).out <+:
            (world.onReceived env message).out := by
  have decides := onMessage_decides preliminary env world message bare connected
  have handled := onReceived_cases env world message
  generalize (world.onMessage env message).1 = last at decides handled
  cases decides with
  | waits waits =>
      left
      rcases handled with same | left
      · rw [same]
        exact .of_waits waits
      · rw [left]
        exact .after_waits waits
          (afterLoop_idles preliminary env last (bare.of_waits waits))
  | authorizes checked waits unauthorized tells =>
      right
      have authorized := tells_authorized env tells
      rcases handled with same | left
      · rw [same]
        exact ⟨authorized, checked, waits, tells.out⟩
      · rw [left, afterLoop_authorized]
        exact ⟨authorized, checked, waits, tells.out.trans (afterLoop_out env last)⟩

theorem closeLoop_idles
    {allowed : Effect → Prop}
    (preliminary : ∀ effect, effect.isPreliminary = true → allowed effect)
    (lock : Bool)
    (bare : world.IsBare) :
    Idles allowed world (world.closeLoop env lock) := by
  have closed := onClose_waits preliminary env world lock bare.unlocked
  exact .after_waits closed (afterLoop_idles preliminary env _ (bare.of_waits closed))

/-- A frame of an unauthorized peer has preliminary effects only, up to the place
where the connection becomes authorized. -/
theorem received_unauthorized
    (frame : Option (Except String Frame))
    (bare : world.IsBare) :
    Idles (Preliminary env frame) world (world.mainLoop env (.received frame)) ∨
      (world.mainLoop env (.received frame)).conn.authorized = true ∧
        ∃ checked, Waits (Preliminary env frame) world checked ∧
          (checked.authorize.answerLogon env).out <+:
            (world.mainLoop env (.received frame)).out := by
  have noted : Waits (Preliminary env frame) world (world.noteReceipt env) :=
    noteReceipt_waits env world
  match frame with
  | none => exact .inl (closeLoop_idles env world (fun _ => .inl) true bare)
  | some (.error _) => exact .inl (closeLoop_idles env world (fun _ => .inl) true bare)
  | some (.ok ⟨bytes, none⟩) => exact .inl (.of_waits noted)
  | some (.ok ⟨bytes, some message⟩) =>
      have connected : ∀ lr host port, message = .loginRequest lr →
          lr.union = some (.portForward host port) →
            env.permission "enable-tunnel" = true →
              Preliminary env (some (.ok ⟨bytes, some message⟩))
                (.connect (forwardAddress host port)) := by
        rintro lr host port rfl asked permitted
        exact .inr ⟨bytes, lr, host, port, rfl, asked, permitted, rfl⟩
      rcases onReceived_unauthorized env (world.noteReceipt env) (fun _ => .inl) message
          (bare.of_waits noted) connected with idles | ⟨authorized, checked, waits, out⟩
      · exact .inl (.after_waits noted idles)
      · exact .inr ⟨authorized, checked, noted.trans waits, out⟩

theorem onAuthorize_authorized
    (unauthorized : world.conn.authorized = false) :
    (world.onAuthorize env).conn.authorized = true := by
  have logon := sendLogonResponse_of_present env
    (world.modify fun conn => { conn with require2fa := none }) unauthorized
    (secondFactorMissing_of_unlocked env _ rfl)
  have authorized : ((world.modify fun conn =>
      { conn with require2fa := none }).sendLogonResponse env).conn.authorized =
        true := by
    rw [logon]
    exact tells_authorized env (.refl _)
  unfold onAuthorize
  dsimp only
  split
  · rw [afterLoop_authorized]
    exact authorized
  · exact authorized

/-- A message of the connection manager other than those that authorize, close or
change a permission. -/
theorem onCmMessage_waits
    (message : FromCm)
    (unregistered : world.conn.authedConnId = none)
    (other : ∀ name enabled, message ≠ .switchPermission name enabled) :
    Waits (fun _ => True) world (world.onCmMessage env message) := by
  have emitted : ∀ (current : World) effect,
      Waits (fun _ => True) current (current.emit effect) :=
    fun current effect => .emit current trivial
  have notCamera : ∀ current : World, current.conn.authedConnId = none →
      ¬current.conn.isAuthedViewCameraConn = true := by
    intro current none camera
    rw [LoginState.isAuthedViewCameraConn, none] at camera
    cases camera
  have closed : Waits (fun _ => True) world (world.closeVoiceCall env) := by
    unfold closeVoiceCall
    dsimp only
    split
    · next camera => exact absurd camera (notCamera _ unregistered)
    · exact ((emitted _ _).trans (emitted _ _)).trans (.modify _ _ rfl)
  cases message with
  | chatMessage text =>
      unfold onCmMessage
      exact (emitted world _).trans (.modify _ _ rfl)
  | switchPermission name enabled => exact absurd rfl (other name enabled)
  | rawMessage bytes => exact emitted world _
  | clipboardFile files =>
      unfold onCmMessage
      dsimp only
      split
      · exact emitted world _
      · exact .refl world
  | privacyModeState => exact emitted world _
  | portableServiceRequestStart =>
      unfold onCmMessage
      dsimp only
      split
      · exact emitted world _
      · exact .refl world
  | switchSidesBack => exact emitted world _
  | voiceCallResponse accepted =>
      unfold onCmMessage handleVoiceCall
      dsimp only
      split
      · exact .refl world
      · cases accepted with
        | true =>
            simp only [if_true]
            split
            · next camera => exact absurd camera (notCamera _ unregistered)
            · exact (((emitted _ _).trans (emitted _ _)).trans (emitted _ _)).trans
                (.modify _ _ rfl)
        | false =>
            simp only [Bool.false_eq_true, if_false]
            split
            · next camera => exact absurd camera (notCamera _ unregistered)
            · exact ((emitted _ _).trans (emitted _ _)).trans (.modify _ _ rfl)
  | closeVoiceCall => exact closed.trans (emitted _ _)
  | authorize => exact .refl world
  | close => exact .refl world
  | cmErr error => exact .refl world
  | other => exact .refl world

theorem Prepared.waits
    {world current : World}
    (prepared : world.Prepared current) :
    Waits (fun _ => True) world current := by
  induction prepared with
  | start => exact .refl world
  | emit effect _ waits => exact waits.trans (.emit _ trivial)
  | forget _ waits => exact waits.trans (checkRemoveSession_waits _)
  | dismiss _ waits => exact waits.trans (.modify _ _ rfl)
  | probe asked _ waits => exact waits.trans (.modify _ _ rfl)

theorem goesOn_idles
    {after : World}
    (bare : world.IsBare)
    (goes : world.GoesOn env after) :
    Idles (fun _ => True) world after := by
  obtain ⟨current, prepared, rfl | ⟨lock, rfl⟩⟩ := goes
  · exact .of_waits prepared.waits
  · exact .after_waits prepared.waits (closeLoop_idles env current (fun _ _ => trivial)
      lock (bare.of_waits prepared.waits))

/-- An event of the main loop of an unauthorized connection, other than a change
of its permissions. -/
theorem mainLoop_unauthorized
    (event : Event)
    (bare : world.IsBare)
    (own : ∀ host, event ≠ .hostChanged host)
    (other : ∀ name enabled, event ≠ .fromCm (.switchPermission name enabled)) :
    Idles (fun _ => True) world (world.mainLoop env event) ∨
      (world.mainLoop env event).conn.authorized = true := by
  have turn := mainLoop_turn env world event
  generalize reached : world.mainLoop env event = after at turn ⊢
  cases turn with
  | authorizes => exact .inr (onAuthorize_authorized env world bare.unauthorized)
  | asked message =>
      exact .inl (.of_waits (onCmMessage_waits env world message bare.unregistered
        (fun name enabled isSwitch => other name enabled (by rw [isSwitch]))))
  | received bytes message =>
      rw [← reached]
      rcases received_unauthorized env world (some (.ok ⟨bytes, message⟩)) bare with
        idles | ⟨authorized, _⟩
      · exact .inl ⟨idles.standing, idles.services, fun _ _ => .inr trivial⟩
      · exact .inr authorized
  | goesOn event goes => exact .inl (goesOn_idles env world bare goes)
  | hostChanged host => exact absurd rfl (own host)

theorem bail_idles (bare : world.IsBare) :
    Idles (fun _ => True) world (world.bail env) := by
  have closed : Waits (fun _ => True) world (world.onClose env false) :=
    onClose_waits (fun _ _ => trivial) env world false bare.unlocked
  have removed := closed.trans (checkRemoveSession_waits _)
  exact .after_waits removed
    (finish_idles (fun _ _ => trivial) env _ (bare.of_waits removed))

/-- An event of the relay loop of an unauthorized connection. -/
theorem relayLoop_unauthorized
    (event : Event)
    (bare : world.IsBare)
    (own : ∀ host, event ≠ .hostChanged host) :
    Idles (fun _ => True) world (world.relayLoop env event) := by
  have turn := relayLoop_turn env world event
  generalize world.relayLoop env event = after at turn ⊢
  cases turn with
  | bails event => exact bail_idles env world bare
  | passes event time passed => exact ⟨rfl, .inl rfl, fun _ _ => .inr trivial⟩
  | hostChanged host => exact absurd rfl (own host)

@[simp] theorem subscribe_standing (name : ServiceName) (sub : Bool) :
    (world.subscribe env name sub).standing = world.standing := by
  unfold subscribe
  split
  · split <;> rfl
  · rfl

@[simp] theorem subscribeFileClipboard_standing :
    (world.subscribeFileClipboard env).standing = world.standing := by
  unfold subscribeFileClipboard
  split
  · exact subscribe_standing env world _ _
  · rfl

@[simp] theorem subscribeAudio_standing :
    (world.subscribeAudio env).standing = world.standing := by
  unfold subscribeAudio
  split
  · split
    · exact subscribe_standing env world _ _
    · rfl
  · exact subscribe_standing env world _ _

/-- A change of permissions leaves a connection where it stands. -/
theorem switchPermission_standing (name : String) (enabled : Bool) :
    (world.switchPermission env name enabled).standing = world.standing := by
  unfold switchPermission
  split
  · simp only [subscribeClipboard, subscribe_standing, subscribeFileClipboard_standing]
    rfl
  split
  · simp only [subscribeClipboard, subscribe_standing]
    rfl
  split
  · dsimp only
    split
    · rw [subscribeAudio_standing]
      rfl
    · rfl
  split
  · dsimp only
    rw [subscribeFileClipboard_standing]
    split <;> rfl
  split
  · rfl
  split
  · rfl
  split
  · rfl
  · rfl

end Events

theorem IsBare.of_standing
    {before after : World}
    (bare : before.IsBare)
    (standing : after.standing = { before.standing with phase := after.phase }) :
    after.IsBare where
  unauthorized := (congrArg Standing.authorized standing).trans bare.unauthorized
  unlocked := (congrArg Standing.lockAfterSessionEnd standing).trans bare.unlocked
  released := (congrArg Standing.pressedModifiers standing).trans bare.released
  unregistered := (congrArg Standing.authedConnId standing).trans bare.unregistered

/-- An authorized connection stays authorized. -/
theorem step_authorized
    {world : World}
    {input : Input}
    (authorized : world.conn.authorized = true) :
    (world.step input).conn.authorized = true := by
  obtain ⟨login, socket, closed, after, same | ⟨_, move⟩⟩ := step_login world input
  · rw [after, same]
    exact authorized
  · obtain ⟨lr, require2fa, fromSwitch, otherSocket, otherClosed, rfl⟩ :=
      move_of_authorized move authorized
    rw [after]
    exact authorized

/-- A connection that is not authorized after an event was not before. -/
theorem unauthorized_of_step
    {world : World}
    {input : Input}
    (unauthorized : (world.step input).conn.authorized = false) :
    world.conn.authorized = false := by
  cases known : world.conn.authorized with
  | false => rfl
  | true => exact (step_authorized known).symm.trans unauthorized

/-- A connection that is not authorized after an event of its own stands where it
did, but for its phase. -/
theorem step_standing
    {world : World}
    {input : Input}
    (bare : world.IsBare)
    (own : ∀ host, input.event ≠ .hostChanged host)
    (unauthorized : (world.step input).conn.authorized = false) :
    (world.step input).standing =
      { world.standing with phase := (world.step input).phase } := by
  have cleared : world.cleared.IsBare :=
    ⟨bare.unauthorized, bare.unlocked, bare.released, bare.unregistered⟩
  unfold step at unauthorized ⊢
  cases phase : world.phase with
  | running =>
      rw [phase] at unauthorized
      by_cases other : ∀ name enabled,
          input.event ≠ .fromCm (.switchPermission name enabled)
      · rcases mainLoop_unauthorized input.env world.cleared input.event cleared own
          other with idles | authorized
        · exact idles.standing
        · exact absurd (authorized.symm.trans unauthorized) (by simp)
      · obtain ⟨name, switches⟩ := not_forall.mp other
        obtain ⟨enabled, switches⟩ := not_forall_not.mp switches
        dsimp only
        rw [switches]
        have standing := switchPermission_standing input.env world.cleared name enabled
        refine standing.trans ?_
        exact congrArg (fun phase => { world.cleared.standing with phase := phase })
          (congrArg Standing.phase standing).symm
  | relaying address =>
      exact (relayLoop_unauthorized input.env world.cleared input.event cleared
        own).standing
  | ended => rfl

/-- A connection that is not authorized after an event is as bare as before. -/
theorem step_bare
    {world : World}
    (input : Input)
    (bare : world.conn.authorized = false → world.IsBare)
    (unauthorized : (world.step input).conn.authorized = false) :
    (world.step input).IsBare := by
  have before := bare (unauthorized_of_step unauthorized)
  by_cases own : ∀ host, input.event ≠ .hostChanged host
  · exact before.of_standing (step_standing before own unauthorized)
  · obtain ⟨host, changed⟩ := not_forall_not.mp own
    obtain ⟨conn, _, _⟩ := step_hostChanged changed
    exact ⟨unauthorized, by rw [conn]; exact before.unlocked,
      by rw [conn]; exact before.released, by rw [conn]; exact before.unregistered⟩

section Runs

variable (env : Env) (host : Host) (id : Int) (ip : IpAddr) (hash : Hash)
  (require2fa : Option String)

theorem start_bare : (start env host id ip hash require2fa).IsBare := by
  rcases start_cases env host id ip hash require2fa with ⟨_, conn, _⟩ | ⟨_, conn, _⟩
  · exact ⟨by rw [conn]; rfl, by rw [conn]; rfl, by rw [conn]; rfl, by rw [conn]; rfl⟩
  · exact ⟨by rw [conn]; rfl, by rw [conn]; rfl, by rw [conn]; rfl, by rw [conn]; rfl⟩

/-- In every run, an unauthorized connection is bare. -/
theorem run_bare (inputs : List Input) :
    (Lib.run step (start env host id ip hash require2fa) inputs).conn.authorized =
        false →
      (Lib.run step (start env host id ip hash require2fa) inputs).IsBare :=
  Lib.run_invariant_always
    (fun world : World => world.conn.authorized = false → world.IsBare)
    (fun _ input bare unauthorized => step_bare input bare unauthorized) inputs
    (fun _ => start_bare env host id ip hash require2fa)

end Runs

/-- A peer that asks for a tunnel to port 22 of another machine, without a
password. -/
def tunnelFrame : Option (Except String Frame) :=
  some (.ok ⟨[], some (.loginRequest { LoginRequest.empty with
    username := "host", union := some (.portForward "10.0.0.1" 22) })⟩)

end World

end Server
end OneDesk
