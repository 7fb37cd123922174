import OneDesk.Lib.Snapshot
import OneDesk.Server.LoginMove

/-!
# What the user of the host approves

The connection manager shows the logins it is told about, and a click of the
user travels back as an `Authorize` without any content.  A desk is a
connection with its connection manager and the messages between them; the
number of times the peer changed what it asks for tells whether a login that
was clicked on still says what would be granted.
-/

namespace OneDesk
namespace Server

open OneDesk.Lib OneDesk.Stream OneDesk.Common

/-- The type a login message stands for, in the order of `send_logon_response`. -/
def CmLogin.connType (cm : CmLogin) : AuthConnType :=
  if cm.isFileTransfer then .fileTransfer
  else if cm.portForward ≠ "" then .portForward
  else if cm.isViewCamera then .viewCamera
  else if cm.isTerminal then .terminal
  else .remote

/-- An effect tells the connection manager about no login but one with these
powers. -/
def Announces (powers : Powers) (effect : Effect) : Prop :=
  ∀ cm, effect = .toCm (.login cm) → cm.powers = powers

theorem announces_of_other
    {powers : Powers}
    {effect : Effect}
    (other : ∀ cm, effect ≠ .toCm (.login cm)) :
    Announces powers effect :=
  fun cm equal => absurd equal (other cm)

theorem announces_of_ordinary
    {powers : Powers}
    (effect : Effect)
    (ordinary : effect.isOrdinary = true) :
    Announces powers effect := by
  apply announces_of_other
  rintro cm rfl
  cases ordinary

namespace LoginState

/-- A connection has a target exactly when it has a socket to it. -/
def Aimed (login : LoginState) : Prop :=
  login.portForwardSocket = none ∧ login.portForwardAddress = "" ∨
    login.portForwardSocket = some login.portForwardAddress ∧
      login.portForwardAddress ≠ ""

theorem Aimed.isSome_iff
    {login : LoginState}
    (aimed : login.Aimed) :
    login.portForwardSocket.isSome = true ↔ login.portForwardAddress ≠ "" := by
  rcases aimed with ⟨socket, address⟩ | ⟨socket, address⟩
  · simp [socket, address]
  · simp [socket, address]

/-- The type granted is the one a login with the same powers stands for. -/
theorem Aimed.authConnType_eq
    {login : LoginState}
    {cm : CmLogin}
    (aimed : login.Aimed)
    (same : cm.powers = login.powers) :
    login.authConnType = cm.connType := by
  obtain ⟨files, camera, terminal, target⟩ := Powers.mk.inj same
  unfold authConnType CmLogin.connType
  rw [files, camera, terminal, target]
  simp only [aimed.isSome_iff]

end LoginState

namespace World

theorem forwardAddress_ne_empty (host : String) (port : Int) :
    forwardAddress host port ≠ "" := by
  unfold forwardAddress
  split
  · decide
  · intro empty
    have letters := congrArg String.toList empty
    simp at letters

/-- A request that is not turned away leaves its connection aimed. -/
theorem asking_aimed
    {env : Env}
    {token : Option TerminalUserToken}
    {lr : LoginRequest}
    {login : LoginState}
    (aimed : login.Aimed)
    (kept : lr.turnedAway env token = false) :
    (login.asking env lr).Aimed := by
  have notRefused : lr.refused env token = false := by
    unfold LoginRequest.turnedAway at kept
    exact (Bool.or_eq_false_iff.mp kept).1
  unfold LoginRequest.refused at notRefused
  unfold LoginState.asking
  split
  · split <;> exact aimed
  · split <;> exact aimed
  · split <;> exact aimed
  next host port union =>
    rw [union] at notRefused
    simp only [Bool.or_eq_false_iff, Bool.not_eq_eq_eq_not, Bool.not_false] at notRefused
    simp only [notRefused.1, notRefused.2, ↓reduceIte]
    exact .inr ⟨rfl, forwardAddress_ne_empty host port⟩
  · exact aimed

/-- A login request of a connection that is not authorized asks for something
else than was asked for before. -/
def changesPowers (world : World) (input : Input) : Bool :=
  match world.phase, input.event with
  | .running, .received (some (.ok ⟨_, some (.loginRequest lr)⟩)) =>
      !world.conn.authorized &&
        (world.conn.asking input.env lr).powers != world.conn.powers
  | _, _ => false

/-- Only such requests change the powers of a connection. -/
theorem powers_of_move
    {world : World}
    {input : Input}
    {login : LoginState}
    (running : world.phase = .running)
    (unchanged : world.changesPowers input = false)
    (move : Move input.env world.cleared input.event login) :
    login.powers = world.conn.powers := by
  have asking : ∀ bytes lr,
      input.event = .received (some (.ok ⟨bytes, some (.loginRequest lr)⟩)) →
      world.conn.authorized = false →
      ((world.cleared.noteReceipt input.env).asking input.env lr).conn.powers =
        world.conn.powers := by
    intro bytes lr received unauthorized
    unfold changesPowers at unchanged
    rw [running, received] at unchanged
    simp only [unauthorized, Bool.not_false, Bool.true_and, bne_eq_false_iff_eq]
      at unchanged
    obtain ⟨require2fa, stored⟩ := asking_login input.env
      (world.cleared.noteReceipt input.env) lr
    rw [stored]
    exact unchanged
  generalize input.event = event at move asking
  cases move with
  | keeps => rfl
  | hangsUp => exact LoginState.hungUp_powers _
  | authorizes => exact LoginState.logon_powers _ _
  | message move =>
      cases move with
      | keeps => rfl
      | hangsUp => exact LoginState.hungUp_powers _
      | stores => rfl
      | asks lr unauthorized => exact asking _ lr rfl unauthorized
      | enters lr unauthorized => exact asking _ lr rfl unauthorized
      | proves => exact LoginState.logon_powers _ _
      | answers => rfl
      | switches => exact LoginState.logon_powers _ _

theorem step_powers
    {world : World}
    {input : Input}
    (unchanged : world.changesPowers input = false) :
    (world.step input).conn.powers = world.conn.powers := by
  obtain ⟨login, _, _, after, same | ⟨running, move⟩⟩ := step_login world input
  · rw [after, same]
    rfl
  · have same := powers_of_move running unchanged move
    rw [after]
    exact same

/-- The logins the connection manager is told about in one event. -/
def logins (world : World) : List CmLogin :=
  world.out.filterMap fun effect =>
    match effect with
    | .toCm (.login cm) => some cm
    | _ => none

theorem mem_logins
    {world : World}
    {cm : CmLogin} :
    cm ∈ world.logins ↔ .toCm (.login cm) ∈ world.out := by
  unfold logins
  rw [List.mem_filterMap]
  constructor
  · rintro ⟨effect, member, found⟩
    split at found
    next => cases found; exact member
    next => cases found
  · exact fun member => ⟨_, member, rfl⟩

theorem permits_announces
    (env : Env)
    (world : World)
    (event : Event) :
    Permits Announces env world event := by
  have base : ∀ current : World, Allows Announces current := fun current =>
    ⟨fun _ => announces_of_ordinary, fun _ cm same other equal => by cases equal; exact same,
      fun _ _ _ => announces_of_other fun _ => Effect.noConfusion⟩
  refine ⟨base world, ?_, ?_, ?_⟩
  · exact fun _ _ _ _ => announces_of_other fun _ => Effect.noConfusion
  · exact fun _ _ _ => announces_of_other fun _ => Effect.noConfusion
  · intro bytes message _
    refine ⟨base _, ?_, ?_, ?_, ?_, ?_⟩
    · exact fun _ _ _ => announces_of_other fun _ => Effect.noConfusion
    · rintro _ _ _ effect fine cm rfl
      cases fine
    · exact fun _ _ _ _ _ _ => announces_of_other fun _ => Effect.noConfusion
    · exact fun _ _ _ _ => announces_of_other fun _ => Effect.noConfusion
    · exact fun _ _ _ _ => announces_of_other fun _ => Effect.noConfusion

/-- What the connection manager is told are the powers after the event. -/
theorem step_logins
    {world : World}
    {input : Input}
    {cm : CmLogin}
    (told : cm ∈ (world.step input).logins) :
    cm.powers = (world.step input).conn.powers := by
  rw [mem_logins] at told
  by_cases changes : ∃ host, input.event = .hostChanged host
  · obtain ⟨host, changed⟩ := changes
    rw [(step_hostChanged changed).2.2] at told
    cases told
  have outside : ∀ host, input.event ≠ .hostChanged host := not_exists.mp changes
  cases phase : world.phase with
  | running =>
      obtain ⟨login, last, _, leads, ends⟩ := step_of_running phase
        (permits_announces _ _ _) outside
      have early : .toCm (.login cm) ∈ last.out → cm.powers = login.powers := by
        intro member
        rcases leads.out _ member with before | announced
        · cases before
        · exact announced cm rfl
      rcases ends with ⟨same, _⟩ | ⟨left, _⟩
      · rw [same] at told ⊢
        rw [leads.login]
        exact early told
      · have leaves : Leaves (Announces login.powers) input.env last _ :=
          afterLoop_leaves announces_of_ordinary input.env last
            (fun _ _ _ => announces_of_other fun _ => Effect.noConfusion)
            (fun _ _ => announces_of_other fun _ => Effect.noConfusion)
        obtain ⟨_, _, after⟩ := leaves.login
        rw [left] at told ⊢
        rw [after, leads.login]
        rcases leaves.out _ told with before | announced
        · exact early before
        · exact announced cm rfl
  | relaying address =>
      have leaves : Leaves (Announces world.conn.powers) input.env world.cleared _ ∧ _ :=
        step_of_relaying phase announces_of_ordinary
          (fun _ _ => announces_of_other fun _ => Effect.noConfusion) outside
      obtain ⟨_, _, after⟩ := leaves.1.login
      rw [after]
      rcases leaves.1.out _ told with before | announced
      · cases before
      · exact announced cm rfl
  | ended =>
      rw [step_of_ended phase] at told
      cases told

/-- A move after which the main loop goes on keeps a connection aimed. -/
theorem aimed_of_move
    {env : Env}
    {world : World}
    {event : Event}
    {login : LoginState}
    (aimed : world.conn.Aimed)
    (move : Move env world event login)
    (closed : login.closed = world.conn.closed)
    (stays : Stays env world event) :
    login.Aimed := by
  have logon : ∀ login : LoginState, login.Aimed → (login.logon false).Aimed := by
    intro login aimed
    unfold LoginState.logon
    split <;> exact aimed
  have hungUp : ∀ login : LoginState, login.Aimed → login.hungUp.closed = login.closed →
      login.hungUp.Aimed := by
    intro login aimed same
    rw [LoginState.hungUp_closed] at same
    unfold LoginState.hungUp
    rw [← same]
    exact aimed
  have asking : ∀ bytes lr,
      event = .received (some (.ok ⟨bytes, some (.loginRequest lr)⟩)) →
      world.conn.authorized = false →
      ((world.noteReceipt env).asking env lr).conn.Aimed := by
    intro bytes lr received unauthorized
    have asked := asking_aimed aimed (stays bytes lr received unauthorized)
    obtain ⟨require2fa, stored⟩ := asking_login env (world.noteReceipt env) lr
    rw [stored]
    exact asked
  cases move with
  | keeps => exact aimed
  | hangsUp => exact hungUp _ aimed closed
  | authorizes => exact logon world.conn.unlocked aimed
  | message move =>
      cases move with
      | keeps => exact aimed
      | hangsUp => exact hungUp _ aimed closed
      | stores => exact aimed
      | asks lr unauthorized => exact asking _ lr rfl unauthorized
      | enters lr unauthorized => exact asking _ lr rfl unauthorized
      | proves => exact logon (world.noteReceipt env).conn.unlocked aimed
      | answers => exact aimed
      | switches uuid lr => exact logon (storing env _ lr).switched aimed

/-- In its main loop a connection is aimed. -/
def AimedInvariant (world : World) : Prop :=
  world.phase = .running → world.conn.Aimed

theorem AimedInvariant.step
    {world : World}
    (holds : AimedInvariant world)
    (input : Input) :
    AimedInvariant (world.step input) := by
  intro running
  by_cases changes : ∃ host, input.event = .hostChanged host
  · obtain ⟨host, changed⟩ := changes
    obtain ⟨conn, phase, _⟩ := step_hostChanged changed
    rw [conn]
    exact holds (phase ▸ running)
  have outside : ∀ host, input.event ≠ .hostChanged host := not_exists.mp changes
  cases phase : world.phase with
  | running =>
      obtain ⟨login, last, move, leads, ⟨same, closed, stays⟩ | ⟨left, _⟩⟩ :=
        step_of_running phase (permits_all _ _ _) outside
      · rw [same, leads.login]
        have before : world.cleared.conn.Aimed := holds phase
        exact aimed_of_move before move closed stays
      · rw [left, afterLoop_phase] at running
        split at running <;> cases running
  | relaying address =>
      obtain ⟨_, same | ended⟩ := step_of_relaying phase (fun _ _ => trivial)
        (fun _ _ => trivial) outside
      · rw [same] at running
        cases running
      · rw [ended] at running
        cases running
  | ended =>
      rw [step_of_ended phase, show world.cleared.phase = .ended from phase] at running
      cases running

/-- The connection is authorized for what a login message says, and relays to
nothing but the target of that login. -/
structure Granted (cm : CmLogin) (world : World) : Prop where
  authorized : world.conn.authorized = true
  powers : world.conn.powers = cm.powers
  connType : world.conn.authedConnId = some cm.connType
  target : ∀ address, world.phase = .relaying address → address = cm.portForward

/-- An `Authorize` grants what is asked for at that time. -/
theorem step_authorize
    {env : Env}
    {world : World}
    {cm : CmLogin}
    (running : world.phase = .running)
    (unauthorized : world.conn.authorized = false)
    (aimed : world.conn.Aimed)
    (same : cm.powers = world.conn.powers) :
    Granted cm (world.step ⟨env, .fromCm .authorize⟩) := by
  have unlocked : Leads (fun _ => True) world.conn.unlocked world.cleared
      (world.cleared.modify fun conn => { conn with require2fa := none }) :=
    Leads.modify world.cleared rfl rfl
  have logon := sendLogonResponse_present (fun _ _ => trivial) env world.cleared unlocked
    (secondFactorMissing_of_unlocked env _ rfl) (fun _ _ => trivial)
  rw [LoginState.logon_present
    (show world.conn.unlocked.authorized = false from unauthorized)] at logon
  have handled : world.step ⟨env, .fromCm .authorize⟩ = world.cleared.onAuthorize env := by
    unfold step
    rw [running]
    rfl
  rw [handled]
  unfold onAuthorize
  dsimp only
  generalize (world.cleared.modify fun conn =>
    { conn with require2fa := none }).sendLogonResponse env = current at logon
  have connType : current.conn.authedConnId = some cm.connType := by
    rw [logon.login, ← aimed.authConnType_eq same]
    rfl
  split
  next connected =>
    have leaves : Leaves (fun _ => True) env current _ :=
      afterLoop_leaves (fun _ _ => trivial) env current (fun _ _ _ => trivial)
        (fun _ _ => trivial)
    obtain ⟨_, _, after⟩ := leaves.login
    refine ⟨?_, ?_, ?_, fun address relaying => ?_⟩
    · rw [after, logon.login]
      rfl
    · rw [after, logon.login, same]
      rfl
    · rw [after]
      exact connType
    · rw [afterLoop_phase, logon.login] at relaying
      rcases aimed with ⟨socket, _⟩ | ⟨socket, _⟩
      · rw [show world.conn.unlocked.granted.portForwardSocket = none from socket]
          at relaying
        cases relaying
      · rw [show world.conn.unlocked.granted.portForwardSocket =
          some world.conn.portForwardAddress from socket] at relaying
        cases relaying
        exact (congrArg Powers.target same).symm
  next =>
    refine ⟨?_, ?_, connType, fun address relaying => ?_⟩
    · rw [logon.login]
      rfl
    · rw [logon.login, same]
      rfl
    · rw [logon.phase, show world.cleared.phase = .running from running] at relaying
      cases relaying

end World

/-- A connection, its connection manager, and the messages between them.  A login
carries the number of changes of what is asked for before it was sent, and a
message of the connection manager the login its user was looking at. -/
structure Desk where
  world : World
  changes : Nat
  toCm : List (Snapshot CmLogin)
  shown : Option (Snapshot CmLogin)
  fromCm : List (FromCm × Option (Snapshot CmLogin))

/-- Events of a desk. -/
inductive DeskEvent
  /-- The connection handles something that is not from its connection manager. -/
  | serves (event : Event)
  /-- The connection manager shows the next login. -/
  | shows
  /-- The connection manager sends a message; its user authorizes only what is
  shown. -/
  | sends (message : FromCm)
  /-- The connection handles the next message of its connection manager. -/
  | hears

/-- An event of a desk with what the outside answers meanwhile. -/
structure DeskInput where
  env : Env
  event : DeskEvent

namespace Desk

/-- A connection starts with nothing to show. -/
def start (env : Env) (host : Host) (id : Int) (ip : IpAddr) (hash : Hash)
    (require2fa : Option String) : Desk :=
  ⟨World.start env host id ip hash require2fa, 0, [], none, []⟩

/-- The connection handles an event, and tells its connection manager. -/
def handle (desk : Desk) (input : Input) : Desk :=
  let world := desk.world.step input
  let changes :=
    if desk.world.changesPowers input then desk.changes + 1 else desk.changes
  { desk with
    world := world
    changes := changes
    toCm := desk.toCm ++ world.logins.map fun cm => ⟨cm, changes⟩ }

/-- One event of a desk. -/
def step (desk : Desk) (input : DeskInput) : Desk :=
  match input.event with
  | .serves (.fromCm _) => desk
  | .serves event => desk.handle ⟨input.env, event⟩
  | .shows =>
      match desk.toCm with
      | [] => desk
      | sent :: rest => { desk with shown := some sent, toCm := rest }
  | .sends message =>
      if message = .authorize ∧ desk.shown = none then desk
      else { desk with fromCm := desk.fromCm ++ [(message, desk.shown)] }
  | .hears =>
      match desk.fromCm with
      | [] => desk
      | (message, _) :: rest =>
          { desk with fromCm := rest }.handle ⟨input.env, .fromCm message⟩

/-- Where an `Authorize` authorizes, it grants what its user was looking at. -/
def GrantsSeen (desk : Desk) (input : DeskInput) : Prop :=
  ∀ seen rest, input.event = .hears → desk.fromCm = (.authorize, some seen) :: rest →
    desk.world.phase = .running → desk.world.conn.authorized = false →
    World.Granted seen.item (desk.step input).world

/-- Since the login was sent that the user was looking at, the peer has not
changed what it asks for. -/
def Fresh (desk : Desk) (input : DeskInput) : Prop :=
  ∀ seen rest, input.event = .hears → desk.fromCm = (.authorize, some seen) :: rest →
    desk.world.phase = .running → desk.world.conn.authorized = false →
    seen.version = desk.changes

/-- Every login that is shown or on its way, also those clicked on. -/
def known (desk : Desk) : List (Snapshot CmLogin) :=
  desk.toCm ++ desk.shown.toList ++ desk.fromCm.filterMap Prod.snd

/-- Logins sent after the last change say what would be granted. -/
structure Invariant (desk : Desk) : Prop where
  aimed : World.AimedInvariant desk.world
  described : Describes CmLogin.powers desk.changes desk.world.conn.powers desk.known

/-- Whatever the connection handles, logins sent after the last change say what
would be granted. -/
theorem Invariant.handle
    {desk : Desk}
    (holds : Invariant desk)
    (input : Input) :
    Invariant (desk.handle input) := by
  refine ⟨holds.aimed.step input, ?_⟩
  have described : Describes CmLogin.powers (desk.handle input).changes
      (desk.world.step input).conn.powers desk.known := by
    unfold Desk.handle
    dsimp only
    split
    · exact holds.described.change _
    next unchanged =>
      rw [World.step_powers (by simpa using unchanged)]
      exact holds.described
  have fresh : ∀ cm ∈ (desk.world.step input).logins,
      cm.powers = (desk.world.step input).conn.powers :=
    fun cm listed => World.step_logins listed
  refine (described.append fresh).subset ?_
  intro snapshot member
  simp only [known, Desk.handle, List.mem_append] at member ⊢
  tauto

/-- Every event of a desk keeps the invariant. -/
theorem Invariant.step
    (desk : Desk)
    (input : DeskInput)
    (holds : Invariant desk) :
    Invariant (desk.step input) := by
  have moved : ∀ changed : Desk, changed.world = desk.world →
      changed.changes = desk.changes → changed.known ⊆ desk.known →
      Invariant changed := by
    intro changed world changes included
    refine ⟨?_, ?_⟩
    · rw [world]
      exact holds.aimed
    · rw [world, changes]
      exact holds.described.subset included
  unfold Desk.step
  split
  · exact holds
  · exact holds.handle _
  · split
    · exact holds
    next sent rest queued =>
      refine moved _ rfl rfl ?_
      intro snapshot member
      simp only [known, queued, List.mem_append, List.mem_cons, Option.toList_some,
        List.not_mem_nil, or_false] at member ⊢
      tauto
  · split
    · exact holds
    · refine moved _ rfl rfl ?_
      intro snapshot member
      simp only [known, List.filterMap_append, List.mem_append, List.mem_filterMap,
        List.mem_singleton, exists_eq_left, Option.mem_toList] at member ⊢
      tauto
  · split
    · exact holds
    next message seen rest queued =>
      refine Invariant.handle ?_ _
      refine moved _ rfl rfl ?_
      intro snapshot member
      simp only [known, queued, List.mem_append, List.filterMap_cons] at member ⊢
      split
      · exact member
      · rw [List.mem_cons]
        tauto

theorem start_invariant
    (env : Env)
    (host : Host)
    (id : Int)
    (ip : IpAddr)
    (hash : Hash)
    (require2fa : Option String) :
    Invariant (start env host id ip hash require2fa) := by
  refine ⟨fun _ => ?_, Describes.nil⟩
  rcases World.start_cases env host id ip hash require2fa with ⟨_, conn, _⟩ | ⟨_, conn, _⟩
  · change (World.start env host id ip hash require2fa).conn.Aimed
    rw [conn]
    exact .inl ⟨rfl, rfl⟩
  · change (World.start env host id ip hash require2fa).conn.Aimed
    rw [conn]
    exact .inl ⟨rfl, rfl⟩

/-- A click on a fresh login grants what it says. -/
theorem Invariant.grantsSeen
    {desk : Desk}
    {input : DeskInput}
    (holds : Invariant desk)
    (fresh : Fresh desk input) :
    GrantsSeen desk input := by
  intro seen rest hears queued running unauthorized
  have clicked : seen ∈ desk.known := by
    simp [known, queued]
  have same : seen.item.powers = desk.world.conn.powers :=
    (holds.described seen clicked).2 (fresh seen rest hears queued running unauthorized)
  have handled : (desk.step input).world =
      desk.world.step ⟨input.env, .fromCm .authorize⟩ := by
    unfold Desk.step
    rw [hears]
    dsimp only
    rw [queued]
    rfl
  rw [handled]
  exact World.step_authorize running unauthorized (holds.aimed running) same

/-- In every run in which the peer changes nothing between the sending of a login
and the handling of a click on it, every click grants what its user was looking
at. -/
theorem grantsSeen_of_fresh
    (env : Env)
    (host : Host)
    (id : Int)
    (ip : IpAddr)
    (hash : Hash)
    (require2fa : Option String)
    (inputs : List DeskInput)
    (fresh : Along step Fresh (start env host id ip hash require2fa) inputs) :
    Along step GrantsSeen (start env host id ip hash require2fa) inputs := by
  rw [along_iff_forall_split]
  intro before input after split
  have invariant := run_invariant_always Invariant Invariant.step before
    (start_invariant env host id ip hash require2fa)
  exact invariant.grantsSeen (along_iff_forall_split.mp fresh before input after split)

/-- A login without a password, for the user to decide about. -/
def loginFor (env : Env) (union : LoginUnion) : DeskInput :=
  ⟨env, .serves (.received (some (.ok ⟨[], some (.loginRequest
    { LoginRequest.empty with username := "host", union := some union })⟩)))⟩

/-- The user clicks on a camera and grants a camera. -/
theorem grantsSeen_of_fresh_camera :
    Along step Fresh (start .plain .empty 1 (.v4 0) ⟨[], []⟩ none)
        [loginFor .plain .viewCamera, ⟨.plain, .shows⟩, ⟨.plain, .sends .authorize⟩,
          ⟨.plain, .hears⟩] ∧
      Along step GrantsSeen (start .plain .empty 1 (.v4 0) ⟨[], []⟩ none)
        [loginFor .plain .viewCamera, ⟨.plain, .shows⟩, ⟨.plain, .sends .authorize⟩,
          ⟨.plain, .hears⟩] ∧
      (run step (start .plain .empty 1 (.v4 0) ⟨[], []⟩ none)
        [loginFor .plain .viewCamera, ⟨.plain, .shows⟩, ⟨.plain, .sends .authorize⟩,
          ⟨.plain, .hears⟩]).world.conn.authedConnId = some .viewCamera := by
  have fresh : Along step Fresh (start .plain .empty 1 (.v4 0) ⟨[], []⟩ none)
      [loginFor .plain .viewCamera, ⟨.plain, .shows⟩, ⟨.plain, .sends .authorize⟩,
        ⟨.plain, .hears⟩] := by
    refine ⟨?_, ?_, ?_, ?_, trivial⟩
    · intro _ _ impossible
      cases impossible
    · intro _ _ impossible
      cases impossible
    · intro _ _ impossible
      cases impossible
    · intro seen rest _ queued _ _
      cases queued
      decide
  exact ⟨fresh, grantsSeen_of_fresh .plain .empty 1 (.v4 0) ⟨[], []⟩ none _ fresh,
    by decide⟩

/-- A camera is shown; then a request for files finds no desktop, and the user
clicks. -/
def staleClick : List DeskInput :=
  [loginFor .plain .viewCamera, ⟨.plain, .shows⟩,
    loginFor { Env.plain with tryStartDesktop := fun _ => "Desktop session not ready" }
      (.fileTransfer "" false),
    ⟨.plain, .sends .authorize⟩]

/-- A request about which the user is not told changes what the click grants. -/
theorem click_on_camera_grants_files :
    ((run step (start .plain .empty 1 (.v4 0) ⟨[], []⟩ none) staleClick).shown.map
        fun seen => seen.item.connType) = some .viewCamera ∧
      (run step (start .plain .empty 1 (.v4 0) ⟨[], []⟩ none)
        (staleClick ++ [⟨.plain, .hears⟩])).world.conn.authedConnId =
          some .fileTransfer ∧
      ¬Along step GrantsSeen (start .plain .empty 1 (.v4 0) ⟨[], []⟩ none)
        (staleClick ++ [⟨.plain, .hears⟩]) := by
  have files : (run step (start .plain .empty 1 (.v4 0) ⟨[], []⟩ none)
      (staleClick ++ [⟨.plain, .hears⟩])).world.conn.authedConnId =
        some .fileTransfer := by
    decide
  refine ⟨by decide, files, fun grants => ?_⟩
  have granted := along_iff_forall_split.mp grants staleClick ⟨.plain, .hears⟩ [] rfl
    _ _ rfl rfl rfl rfl
  rw [run_concat] at files
  have camera := files.symm.trans granted.connType
  exact absurd camera (by decide)

end Desk

end Server
end OneDesk
