import OneDesk.Server.LoginMove

/-!
# What the type of a connection keeps from its peer

A connection that is authorized for files, a terminal or the camera is not
authorized to control the host.  The handlers of `on_message` look at the type
only here and there, so that some messages get more than the type gives; every
run without such messages stays within it.
-/

namespace OneDesk
namespace Server

open OneDesk.Lib OneDesk.Stream OneDesk.Common

namespace AuthConnType

/-- Types that are not for controlling the host. -/
def isConfined : AuthConnType → Bool
  | .fileTransfer | .terminal | .viewCamera => true
  | .remote | .portForward => false

/-- Services a connection of a confined type must not receive. -/
def withholds : AuthConnType → ServiceName → Bool
  | _, .video .monitor _ => true
  | .viewCamera, _ => false
  | _, .audio => true
  | _, .clipboard => true
  | _, _ => false

end AuthConnType

namespace Effect

/-- Whether an effect brings keyboard or mouse input to a host. -/
def injects (os : TargetOs) : Effect → Bool
  | .input (.mouse _ simulate _) => simulate
  | .input (.key _ _) => true
  | .input (.pointer _) => true
  | .mobilePointer _ _ _ _ => true
  | .mobileKey _ => true
  | .releaseKey _ => true
  | .lockScreen => os == .linux || os == .macos
  | _ => false

/-- Whether an effect is kept from connections of a type. -/
def escapes (os : TargetOs) (connType : AuthConnType) (effect : Effect) : Bool :=
  effect.injects os ||
    match effect with
    | .subscribed name => connType.withholds name
    | _ => false

end Effect

namespace World

/-- Events of the connection itself have no effect that its type keeps from it;
the connection manager may still grant what it wants. -/
def Confined (world : World) (input : Input) : Prop :=
  ∀ connType, world.conn.authedConnId = some connType → connType.isConfined = true →
    (∀ message, input.event ≠ .fromCm message) →
    ∀ effect ∈ (world.step input).out,
      effect.escapes input.env.build.os connType = false

/-- A connection of a confined type gets no message that brings input or asks for
a service its type withholds, and does not close where that presses the keys
that lock the screen. -/
def Contained (world : World) (input : Input) : Prop :=
  world.phase = .running →
  ∀ connType, world.conn.authedConnId = some connType → connType.isConfined = true →
    (∀ message, input.event ≠ .fromCm message) →
    (world.closes input.env input.event = true → world.locks input.env = false) ∧
      ∀ bytes message,
        input.event = .received (some (.ok ⟨bytes, some message⟩)) →
        world.heeds message = true →
          world.injects input.env message = false ∧
            ∀ name ∈ world.subscribes input.env message,
              connType.withholds name = false

end World

namespace LoginState

variable (login : LoginState)

/-- The kind a type stands for was asked for. -/
def hasKind : AuthConnType → Bool
  | .fileTransfer => login.fileTransfer.isSome
  | .viewCamera => login.viewCamera
  | .terminal => login.terminal
  | .portForward | .remote => true

theorem hasKind_authConnType : login.hasKind login.authConnType = true := by
  unfold authConnType
  split
  next files => exact files
  next =>
    split
    · rfl
    · split
      next camera => exact camera
      next =>
        split
        next terminal => exact terminal
        next => rfl

/-- The authorized connections are those that have a type, and it is one they
asked for. -/
structure Typed : Prop where
  kind : ∀ connType, login.authedConnId = some connType →
    login.authorized = true ∧ login.hasKind connType = true
  recorded : login.authorized = true → ∃ connType, login.authedConnId = some connType

variable {login}

theorem Typed.not_isRemote
    (typed : login.Typed)
    {connType : AuthConnType}
    (recorded : login.authedConnId = some connType)
    (confined : connType.isConfined = true) :
    login.isRemote = false := by
  have kind := (typed.kind connType recorded).2
  unfold isRemote
  cases connType with
  | fileTransfer =>
      have asked : login.fileTransfer.isNone = false := by simpa [hasKind] using kind
      simp [asked]
  | viewCamera =>
      have asked : login.viewCamera = true := kind
      simp [asked]
  | terminal =>
      have asked : login.terminal = true := kind
      simp [asked]
  | remote => cases confined
  | portForward => cases confined

/-- A move keeps what holds of the type. -/
theorem Typed.move
    {env : Env}
    {world : World}
    {event : Event}
    (typed : world.conn.Typed)
    (move : World.Move env world event login) :
    login.Typed := by
  cases authorized : world.conn.authorized with
  | true =>
      obtain ⟨_, _, _, _, _, same⟩ := World.move_of_authorized move authorized
      rw [same]
      exact ⟨typed.kind, typed.recorded⟩
  | false =>
      rcases World.move_of_unauthorized move authorized with
        ⟨still, unrecorded⟩ | ⟨granted, recorded⟩
      · refine ⟨fun connType found => ?_, fun impossible => ?_⟩
        · rw [unrecorded] at found
          have already := (typed.kind connType found).1
          rw [authorized] at already
          cases already
        · rw [still] at impossible
          cases impossible
      · refine ⟨fun connType found => ?_, fun _ => ⟨_, recorded⟩⟩
        rw [recorded] at found
        cases found
        exact ⟨granted, login.hasKind_authConnType⟩

/-- Once recorded, a type never changes. -/
theorem Typed.stays
    {env : Env}
    {world : World}
    {event : Event}
    {connType : AuthConnType}
    (typed : world.conn.Typed)
    (move : World.Move env world event login)
    (found : world.conn.authedConnId = some connType) :
    login.authedConnId = some connType := by
  obtain ⟨_, _, _, _, _, same⟩ :=
    World.move_of_authorized move (typed.kind connType found).1
  rw [same]
  exact found

end LoginState

namespace Effect

theorem escapes_of_ordinary
    {os : TargetOs}
    {connType : AuthConnType}
    (effect : Effect)
    (ordinary : effect.isOrdinary = true) :
    effect.escapes os connType = false := by
  cases effect with
  | subscribed name =>
      cases name with
      | video source index =>
          cases source with
          | monitor => cases ordinary
          | camera => cases connType <;> rfl
      | audio => cases ordinary
      | clipboard => cases ordinary
      | _ => cases connType <;> rfl
  | input input =>
      cases input with
      | mouse event simulate showCursor =>
          have idle : simulate = false := by simpa [isOrdinary] using ordinary
          simp [escapes, injects, idle]
      | key event press => cases ordinary
      | pointer event => cases ordinary
      | blockOn => rfl
      | blockOff => rfl
  | mobilePointer kind mask x y => cases ordinary
  | mobileKey event => cases ordinary
  | releaseKey key => cases ordinary
  | lockScreen => cases ordinary
  | _ => rfl

/-- Where no keys lock the screen, locking it brings no input. -/
theorem escapes_lockScreen
    {env : Env}
    {world : World}
    {connType : AuthConnType}
    (keyless : world.locks env = false)
    (locking : (world.conn.lockAfterSessionEnd && world.conn.keyboard &&
      !env.build.isMobile) = true) :
    lockScreen.escapes env.build.os connType = false := by
  simp only [Bool.and_eq_true] at locking
  unfold World.locks at keyless
  rw [locking.1.1, locking.1.2] at keyless
  simpa [escapes, injects] using keyless

end Effect

namespace World

/-- A contained event of a connection stays within its type, up to the end of the
main loop. -/
theorem permits_inside
    {world : World}
    {input : Input}
    {connType : AuthConnType}
    (typed : world.conn.Typed)
    (recorded : world.conn.authedConnId = some connType)
    (confined : connType.isConfined = true)
    (running : world.phase = .running)
    (own : ∀ message, input.event ≠ .fromCm message)
    (contained : Contained world input) :
    Permits (fun _ effect => effect.escapes input.env.build.os connType = false)
      input.env world.cleared input.event := by
  obtain ⟨closing, messages⟩ := contained running connType recorded confined own
  have authorized := (typed.kind connType recorded).1
  have base : Allows (fun _ effect => effect.escapes input.env.build.os connType = false)
      world.cleared := by
    refine ⟨fun _ => Effect.escapes_of_ordinary, fun _ _ _ => rfl, ?_⟩
    intro unauthorized
    rw [show world.cleared.conn.authorized = true from authorized] at unauthorized
    cases unauthorized
  refine ⟨base, ?_, ?_, ?_⟩
  · exact fun message told => absurd told (own message)
  · exact fun closes locking _ => Effect.escapes_lockScreen (closing closes) locking
  · intro bytes message received
    have quiet := messages bytes message received
    refine ⟨⟨base.ordinary, base.announced, base.fresh⟩, ?_, ?_, ?_, ?_, ?_⟩
    · intro isRemote
      have notRemote := typed.not_isRemote recorded confined
      rw [show (world.cleared.noteReceipt input.env).conn.isRemote = false
        from notRemote] at isRemote
      cases isRemote
    · intro heeded injecting
      rw [show (world.cleared.noteReceipt input.env).injects input.env message = false
        from (quiet heeded).1] at injecting
      cases injecting
    · intro _ _ heeded injecting
      rw [show (world.cleared.noteReceipt input.env).injects input.env message = false
        from (quiet heeded).1] at injecting
      cases injecting
    · intro heeded _ name listed
      have fine := (quiet heeded).2 name listed
      simpa [Effect.escapes, Effect.injects] using fine
    · rintro reason rfl locking _
      have keyless : world.locks input.env = false := (quiet rfl).1
      exact Effect.escapes_lockScreen keyless locking

/-- No modifier key is held after an event that is no key event with input. -/
theorem permits_unheld
    {world : World}
    {input : Input}
    (unkeyed : ∀ bytes key,
      input.event = .received (some (.ok ⟨bytes, some (.keyEvent key)⟩)) →
      world.heeds (.keyEvent key) = true →
      world.injects input.env (.keyEvent key) = false) :
    Permits (fun _ effect => ∀ key, effect ≠ .releaseKey key)
      input.env world.cleared input.event := by
  have ordinary : ∀ (powers : Powers) (effect : Effect), effect.isOrdinary = true →
      ∀ key, effect ≠ .releaseKey key := by
    rintro _ _ fine key rfl
    cases fine
  have base : ∀ current : World,
      Allows (fun _ effect => ∀ key, effect ≠ .releaseKey key) current :=
    fun current => ⟨ordinary, fun _ _ _ _ => Effect.noConfusion,
      fun _ _ _ _ => Effect.noConfusion⟩
  refine ⟨base _, fun _ _ _ _ _ => Effect.noConfusion,
    fun _ _ _ _ => Effect.noConfusion, ?_⟩
  intro bytes message received
  refine ⟨base _, fun _ _ _ _ => Effect.noConfusion, ?_, ?_,
    fun _ _ _ _ _ => Effect.noConfusion, fun _ _ _ _ _ => Effect.noConfusion⟩
  · rintro _ _ _ effect fine key rfl
    cases fine
  · rintro event rfl heeded injecting
    rw [show (world.cleared.noteReceipt input.env).injects input.env (.keyEvent event) =
      false from unkeyed bytes event received heeded] at injecting
    cases injecting

/-- The type of a connection is one it asked for, and a connection without a type
or of a confined type holds no modifier key. -/
structure ConfinementInvariant (world : World) : Prop where
  typed : world.conn.Typed
  unheld : (∀ connType, world.conn.authedConnId = some connType →
    connType.isConfined = true) → world.conn.pressedModifiers = []

/-- What an end of the main loop adds stays within the type. -/
theorem afterLoop_inside
    {world last : World}
    {input : Input}
    {login : LoginState}
    (connType : AuthConnType)
    (authorized : world.conn.authorized = true)
    (move : Move input.env world.cleared input.event login)
    (reached : last.conn.toLoginState = login)
    (exits : Exits input.env world.cleared input.event login)
    (unheld : last.conn.pressedModifiers = []) :
    Leaves (fun effect => effect.escapes input.env.build.os connType = false)
      input.env last (last.afterLoop input.env) := by
  apply afterLoop_leaves Effect.escapes_of_ordinary
  · intro opened noSocket _
    rw [reached] at opened noSocket
    rcases exits with ⟨_, closed | windows⟩ | ⟨_, connected⟩ | closed |
      ⟨_, _, _, unauthorized, _⟩
    · rw [closed] at opened
      cases opened
    · simp [Effect.escapes, Effect.injects, windows]
    · rw [noSocket] at connected
      cases connected
    · rcases closed_of_move move with same | hungUp
      · rw [same, closed] at opened
        cases opened
      · rw [hungUp, LoginState.hungUp_closed] at opened
        cases opened
    · rw [show world.cleared.conn.authorized = true from authorized] at unauthorized
      cases unauthorized
  · rw [unheld]
    exact fun key held => absurd held List.not_mem_nil

/-- A contained event has no effect that the type keeps from its connection. -/
theorem ConfinementInvariant.confined
    {world : World}
    {input : Input}
    (holds : ConfinementInvariant world)
    (contained : Contained world input) :
    Confined world input := by
  intro connType recorded confines own effect member
  have authorized := (holds.typed.kind connType recorded).1
  have free : world.conn.pressedModifiers = [] := holds.unheld fun other found => by
    rw [recorded] at found
    cases found
    exact confines
  by_cases changes : ∃ host, input.event = .hostChanged host
  · obtain ⟨host, changed⟩ := changes
    rw [(step_hostChanged changed).2.2] at member
    cases member
  have outside : ∀ host, input.event ≠ .hostChanged host := not_exists.mp changes
  cases phase : world.phase with
  | running =>
      obtain ⟨login, last, move, leads, ends⟩ := step_of_running phase
        (permits_inside holds.typed recorded confines phase own contained) outside
      have early : ∀ effect ∈ last.out,
          effect.escapes input.env.build.os connType = false := by
        intro effect member
        rcases leads.out effect member with before | inside
        · cases before
        · exact inside
      have unheld : last.conn.pressedModifiers = [] := by
        apply List.eq_nil_iff_forall_not_mem.mpr
        intro key held
        rcases leads.pressed key held with before | impossible
        · rw [show world.cleared.conn.pressedModifiers = [] from free] at before
          cases before
        · cases impossible
      rcases ends with ⟨same, _⟩ | ⟨left, exits⟩
      · rw [same] at member
        exact early effect member
      · rw [left] at member
        have leaves := afterLoop_inside connType authorized move leads.login exits
          unheld
        rcases leaves.out effect member with before | inside
        · exact early effect before
        · exact inside
  | relaying address =>
      have released : ∀ key ∈ world.conn.pressedModifiers,
          (Effect.releaseKey key).escapes input.env.build.os connType = false := by
        rw [free]
        exact fun key held => absurd held List.not_mem_nil
      obtain ⟨leaves, _⟩ := step_of_relaying phase Effect.escapes_of_ordinary released
        outside
      rcases leaves.out effect member with before | inside
      · cases before
      · exact inside
  | ended =>
      rw [step_of_ended phase] at member
      cases member

/-- A connection that holds no key holds none after a contained event. -/
theorem ConfinementInvariant.step_unheld
    {world : World}
    {input : Input}
    (holds : ConfinementInvariant world)
    (contained : Contained world input)
    (confines : ∀ connType, world.conn.authedConnId = some connType →
      connType.isConfined = true) :
    (world.step input).conn.pressedModifiers = [] := by
  have free := holds.unheld confines
  have ordinary : ∀ effect : Effect, effect.isOrdinary = true →
      ∀ key, effect ≠ .releaseKey key := by
    rintro _ fine key rfl
    cases fine
  have empty : ∀ before after : World, before.conn.pressedModifiers = [] →
      (∀ key ∈ after.conn.pressedModifiers, key ∈ before.conn.pressedModifiers ∨
        ∀ other, Effect.releaseKey key ≠ .releaseKey other) →
      after.conn.pressedModifiers = [] := by
    intro before after none subset
    apply List.eq_nil_iff_forall_not_mem.mpr
    intro key held
    rcases subset key held with earlier | impossible
    · rw [none] at earlier
      cases earlier
    · exact impossible key rfl
  have none : ∀ current : World, current.conn.pressedModifiers = [] →
      ∀ key ∈ current.conn.pressedModifiers,
        ∀ other, Effect.releaseKey key ≠ .releaseKey other := by
    intro current unheld key held
    rw [unheld] at held
    cases held
  by_cases changes : ∃ host, input.event = .hostChanged host
  · obtain ⟨host, changed⟩ := changes
    rw [(step_hostChanged changed).1]
    exact free
  have outside : ∀ host, input.event ≠ .hostChanged host := not_exists.mp changes
  cases phase : world.phase with
  | running =>
      have unkeyed : ∀ bytes key,
          input.event = .received (some (.ok ⟨bytes, some (.keyEvent key)⟩)) →
          world.heeds (.keyEvent key) = true →
          world.injects input.env (.keyEvent key) = false := by
        intro bytes key received heeded
        have authorized : world.conn.authorized = true :=
          (Bool.and_eq_true_iff.mp heeded).1
        obtain ⟨connType, recorded⟩ := holds.typed.recorded authorized
        have own : ∀ message, input.event ≠ .fromCm message := by
          rw [received]
          exact fun _ => Event.noConfusion
        exact ((contained phase connType recorded (confines connType recorded) own).2
          bytes _ received heeded).1
      obtain ⟨_, last, _, leads, ends⟩ := step_of_running phase (permits_unheld unkeyed)
        outside
      have unheld := empty world.cleared last free leads.pressed
      rcases ends with ⟨same, _⟩ | ⟨left, _⟩
      · rw [same]
        exact unheld
      · rw [left]
        have leaves := afterLoop_leaves ordinary input.env last
          (fun _ _ _ _ => Effect.noConfusion) (none last unheld)
        exact empty last _ unheld leaves.pressed
  | relaying address =>
      obtain ⟨leaves, _⟩ := step_of_relaying phase ordinary (none world free) outside
      exact empty world.cleared _ free leaves.pressed
  | ended =>
      rw [step_of_ended phase]
      exact free

/-- A contained event keeps the invariant. -/
theorem ConfinementInvariant.step
    {world : World}
    {input : Input}
    (holds : ConfinementInvariant world)
    (contained : Contained world input) :
    ConfinementInvariant (world.step input) := by
  obtain ⟨login, socket, closed, after, reached⟩ := step_login world input
  have before : world.cleared.conn.Typed := holds.typed
  have typed : login.Typed := by
    rcases reached with same | ⟨_, move⟩
    · rw [same]
      exact holds.typed
    · exact before.move move
  refine ⟨?_, fun confines => ?_⟩
  · rw [after]
    exact ⟨typed.kind, typed.recorded⟩
  · apply holds.step_unheld contained
    intro connType recorded
    have still : login.authedConnId = some connType := by
      rcases reached with same | ⟨_, move⟩
      · rw [same]
        exact recorded
      · exact before.stays move recorded
    apply confines connType
    rw [after]
    exact still

theorem start_confinementInvariant
    (env : Env)
    (host : Host)
    (id : Int)
    (ip : IpAddr)
    (hash : Hash)
    (require2fa : Option String) :
    ConfinementInvariant (start env host id ip hash require2fa) := by
  have initial : (initialConnection env id ip hash require2fa).Typed := by
    refine ⟨fun _ impossible => ?_, fun impossible => ?_⟩
    · cases impossible
    · cases impossible
  rcases start_cases env host id ip hash require2fa with ⟨_, conn, _⟩ | ⟨_, conn, _⟩
  · rw [← conn] at initial
    refine ⟨initial, fun _ => ?_⟩
    rw [conn]
    rfl
  · refine ⟨?_, fun _ => ?_⟩
    · rw [conn]
      exact ⟨initial.kind, initial.recorded⟩
    · rw [conn]
      rfl

/-- A login for file transfer. -/
def fileTransferLogin : Input :=
  ⟨.plain, .received (some (.ok ⟨[], some (.loginRequest
    { LoginRequest.empty with
      username := "host"
      union := some (.fileTransfer "" false) })⟩))⟩

/-- A message of the peer. -/
def messageInput (message : Message) : Input :=
  ⟨.plain, .received (some (.ok ⟨[], some message⟩))⟩

end World

end Server
end OneDesk
