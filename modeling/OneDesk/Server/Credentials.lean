import OneDesk.Server.SecondFactor

/-!
# Logging in to a host without credentials

All connections of a host share its tables, so what one of them does can let
another one in.  A system is a host with its connections; one event of the
system is one event of one connection, or a change by the user of the host.
-/

namespace OneDesk
namespace Server

open OneDesk.Lib OneDesk.Stream OneDesk.Common

/-- A connection without the host it runs on. -/
structure Member where
  conn : Connection
  phase : Phase
  lastRecvTime : Int

/-- The connection on its host. -/
def Member.world (member : Member) (host : Host) : World :=
  ⟨host, member.conn, member.phase, member.lastRecvTime, []⟩

/-- A host, its connections by id, and the temporary passwords it has had. -/
structure System where
  host : Host
  members : Int → Option Member
  issued : List Bytes

/-- Events of a system. -/
inductive SystemEvent
  /-- A peer connects. -/
  | opens (id : Int) (ip : IpAddr) (hash : Hash) (require2fa : Option String)
  /-- A connection handles one of its events. -/
  | serves (id : Int) (event : Event)
  /-- The user of the host asks a peer to switch sides. -/
  | insertSwitchSidesUuid (peerId : String) (uuid : Bytes)
  /-- The user of the host renews the temporary password. -/
  | updateTemporaryPassword
  /-- The user of the host changes trusted devices, the host its services. -/
  | configures (trustedDevices : List TrustedDevice) (services : List Service)

/-- An event of a system with what the outside answers meanwhile. -/
structure SystemInput where
  env : Env
  event : SystemEvent

namespace System

/-- A host at its start, without connections and sessions. -/
def init (host : Host) : System :=
  ⟨{ host with sessions := fun _ => none }, fun _ => none, [host.temporaryPassword]⟩

/-- A connection has handled something. -/
def put (system : System) (id : Int) (world : World) : System where
  host := world.host
  members := Function.update system.members id
    (some ⟨world.conn, world.phase, world.lastRecvTime⟩)
  issued := world.host.temporaryPassword :: system.issued

/-- One event of a system. -/
def step (system : System) (input : SystemInput) : System :=
  match input.event with
  | .opens id ip hash require2fa =>
      match system.members id with
      | some _ => system
      | none =>
          system.put id (World.start input.env system.host id ip hash require2fa)
  | .serves id event =>
      match system.members id, event with
      | none, _ => system
      | some _, .hostChanged _ => system
      | some member, event =>
          system.put id ((member.world system.host).step ⟨input.env, event⟩)
  | .insertSwitchSidesUuid peerId uuid =>
      { system with
        host :=
          { system.host with
            switchSidesUuid := Function.update system.host.switchSidesUuid peerId
              (some (input.env.now, uuid)) } }
  | .updateTemporaryPassword =>
      { system with
        host := { system.host with temporaryPassword := input.env.autoPassword }
        issued := input.env.autoPassword :: system.issued }
  | .configures trustedDevices services =>
      { system with
        host :=
          { system.host with
            trustedDevices := trustedDevices
            services := services } }

/-- The connection with this id is authorized. -/
def Authorized (id : Int) (system : System) : Prop :=
  ∃ member, system.members id = some member ∧ member.conn.authorized = true

end System

namespace World

/-- A login request answers the challenge with the temporary or the permanent
password of the host, or with a former temporary password by which the declared
session was entered less than thirty seconds ago. -/
def AnswersPassword (env : Env) (world : World) (issued : List Bytes)
    (lr : LoginRequest) : Prop :=
  ∃ password, password ≠ [] ∧
    world.conn.passwordResponse env password = lr.password ∧
    (env.temporaryEnabled = true ∧ password = world.host.temporaryPassword ∨
      env.permanentEnabled = true ∧ password = env.permanentPassword ∨
      password ∈ issued ∧ ∃ session,
        (world.host.retainSessions env).sessions
          ⟨lr.myId, lr.myName, lr.sessionId⟩ = some session ∧
        session.randomPassword = password)

/-- The peer presents a credential, or the connection manager authorizes. -/
def Presents (env : Env) (world : World) (issued : List Bytes) : Event → Prop
  | .fromCm .authorize => True
  | .received (some (.ok ⟨_, some (.loginRequest lr)⟩)) =>
      AnswersPassword env (world.noteReceipt env) issued lr
  | .received (some (.ok ⟨_, some (.switchSidesResponse uuid (some lr))⟩)) =>
      carriesUuid env (world.noteReceipt env) uuid lr = true
  | _ => False

/-- A file transfer is approved because some authorized connection declared the
same peer id, and no second factor is missing. -/
def AutoApproved (env : Env) (world : World) (lr : LoginRequest) : Prop :=
  lr.considered env world.conn.terminalUserToken = true ∧
    (world.asking env lr).conn.shouldAutoApproveFileTransfer
      (world.asking env lr).host lr.myId = true ∧
    ((world.asking env lr).secondFactorMissing env).2 = false

/-- A connection that is not authorized gets in without a credential: as a file
transfer of a peer id that is authorized already, or by a right code of the
second factor alone. -/
def Shortcut (world : World) (input : Input) : Prop :=
  RightCode world input ∨
    world.phase = .running ∧ world.conn.authorized = false ∧
      match input.event with
      | .received (some (.ok ⟨_, some (.loginRequest lr)⟩)) =>
          AutoApproved input.env (world.noteReceipt input.env) lr
      | _ => False

end World

/-- Every password of the tables was issued as a temporary password. -/
structure Issued (issued : List Bytes) (tables : LoginTables) : Prop where
  temporary : tables.temporaryPassword ∈ issued
  sessions : ∀ key session, tables.sessions key = some session →
    session.randomPassword = [] ∨ session.randomPassword ∈ issued

namespace Issued

variable {issued : List Bytes} {before after : LoginTables}

/-- What the tables know was issued. -/
theorem of_knows
    (holds : Issued issued before)
    {password : Bytes}
    (known : before.Knows password) :
    password = [] ∨ password ∈ issued := by
  rcases known with empty | rfl | ⟨key, session, stored, rfl⟩
  · exact .inl empty
  · exact .inr holds.temporary
  · exact holds.sessions key session stored

/-- A handler that makes no password known keeps what was issued. -/
theorem remember
    (holds : Issued issued before)
    (remembers : Remembers before after) :
    Issued issued after where
  temporary := by
    rw [remembers.temporary]
    exact holds.temporary
  sessions := fun key session found =>
    holds.of_knows (remembers.sessions key session found)

/-- A new temporary password is issued, and sessions may take it. -/
theorem renew
    {password : Bytes}
    (holds : Issued issued before)
    (temporary : after.temporaryPassword = password)
    (sessions : ∀ key session, after.sessions key = some session →
      session.randomPassword = after.temporaryPassword ∨
        before.Knows session.randomPassword) :
    Issued (password :: issued) after where
  temporary := by
    rw [temporary]
    exact List.mem_cons_self
  sessions := by
    intro key session found
    rcases sessions key session found with latest | known
    · rw [latest, temporary]
      exact .inr List.mem_cons_self
    · exact (holds.of_knows known).imp_right (List.mem_cons_of_mem _)

end Issued

namespace World

/-- The request decided about is the one received, for the same challenge. -/
theorem asking_request (env : Env) (world : World) (lr : LoginRequest) :
    (world.asking env lr).conn.lr = lr ∧
      (world.asking env lr).conn.hash = world.conn.hash := by
  obtain ⟨require2fa, stored⟩ := asking_login env world lr
  obtain ⟨_, _, _, _, _, asked⟩ := LoginState.asking_frame world.conn.toLoginState env lr
  rw [stored, asked]
  exact ⟨rfl, rfl⟩

/-- A validated password is not empty, and the request answers with it. -/
theorem response_of_validated
    {env : Env}
    {world : World}
    {lr : LoginRequest}
    {password : Bytes}
    (validated : (world.asking env lr).conn.validateOnePassword env password = true) :
    password ≠ [] ∧ world.conn.passwordResponse env password = lr.password := by
  obtain ⟨request, hash⟩ := asking_request env world lr
  unfold Connection.validateOnePassword Connection.passwordResponse at validated
  rw [request, hash] at validated
  split at validated
  next => cases validated
  next nonempty => exact ⟨by simpa using nonempty, beq_iff_eq.mp validated⟩

/-- A password the cascade accepts answers the challenge. -/
theorem answersPassword_of_accepts
    {env : Env}
    {world : World}
    {issued : List Bytes}
    {lr : LoginRequest}
    (holds : Issued issued world.host.toLoginTables)
    (accepted : (world.asking env lr).accepts env lr = true) :
    AnswersPassword env world issued lr := by
  unfold accepts at accepted
  simp only [Bool.and_eq_true, Bool.or_eq_true] at accepted
  obtain ⟨_, recent | ⟨_, valid⟩⟩ := accepted
  · unfold isRecentSession at recent
    have key : (world.asking env lr).conn.sessionKey =
        ⟨lr.myId, lr.myName, lr.sessionId⟩ := by
      unfold LoginState.sessionKey
      rw [(asking_request env world lr).1]
    dsimp only at recent
    rw [key] at recent
    split at recent
    next session stored =>
      simp only [Bool.false_and, Bool.false_or, Bool.not_false, Bool.true_and,
        Bool.and_eq_true] at recent
      obtain ⟨nonempty, answered⟩ := response_of_validated recent.2
      refine ⟨session.randomPassword, nonempty, answered, .inr (.inr ?_)⟩
      refine ⟨?_, session, stored, rfl⟩
      have old := (Option.mem_filter_iff.mp stored).1
      exact (holds.sessions _ session old).resolve_left nonempty
    next => cases recent
  · rw [validatePassword_snd] at valid
    simp only [Bool.and_eq_true, Bool.or_eq_true] at valid
    rcases valid with ⟨enabled, validated⟩ | ⟨enabled, validated⟩
    · obtain ⟨nonempty, answered⟩ := response_of_validated validated
      exact ⟨_, nonempty, answered, .inl ⟨enabled, rfl⟩⟩
    · obtain ⟨nonempty, answered⟩ := response_of_validated validated
      exact ⟨_, nonempty, answered, .inr (.inl ⟨enabled, rfl⟩)⟩

/-- Whether an automatic approval authorizes depends on the second factor only. -/
theorem autoApproved_authorized
    {world : World}
    {input : Input}
    {bytes : Bytes}
    {lr : LoginRequest}
    (running : world.phase = .running)
    (unauthorized : world.conn.authorized = false)
    (received : input.event =
      .received (some (.ok ⟨bytes, some (.loginRequest lr)⟩)))
    (considered : lr.considered input.env world.conn.terminalUserToken = true)
    (approved : ((world.noteReceipt input.env).asking input.env
      lr).conn.shouldAutoApproveFileTransfer
        ((world.noteReceipt input.env).asking input.env lr).host lr.myId = true) :
    (world.step input).conn.authorized =
      !(((world.noteReceipt input.env).asking input.env lr).secondFactorMissing
        input.env).2 := by
  have leads : Leads (fun _ => True) _ _ _ :=
    onLoginRequest_autoApproved (fun _ _ => trivial) input.env
      (world.cleared.noteReceipt input.env) lr unauthorized considered approved
      (fun _ => trivial) (fun _ _ => trivial)
  have same : SameLogin ((world.noteReceipt input.env).asking input.env lr)
      ((world.cleared.noteReceipt input.env).asking input.env lr) := ⟨rfl, rfl, rfl⟩
  rw [SameLoginCongr.secondFactorMissing input.env same] at leads
  rw [step_received_authorized running received]
  change ((world.cleared.noteReceipt input.env).onLoginRequest input.env
    lr).1.conn.authorized = _
  rw [leads.login]
  cases (((world.noteReceipt input.env).asking input.env lr).secondFactorMissing
      input.env).2 with
  | true =>
      rw [LoginState.logon_missing]
      exact (LoginState.asking_authorized _ input.env lr).trans unauthorized
  | false => exact LoginState.logon_false_authorized _

/-- A connection becomes authorized by a credential or by a shortcut. -/
theorem presents_or_shortcut
    {world : World}
    {input : Input}
    {issued : List Bytes}
    (holds : Issued issued world.host.toLoginTables)
    (notAuto : input.env.approveMode ≠ .auto)
    (unauthorized : ¬world.conn.authorized = true)
    (authorized : (world.step input).conn.authorized = true) :
    Presents input.env world issued input.event ∨ Shortcut world input := by
  rcases authorized_onset notAuto unauthorized authorized with ⟨running, factor⟩ | right
  · unfold Shortcut
    split at factor
    next event =>
      rw [event]
      exact .inl trivial
    next bytes lr event =>
      obtain ⟨closed, considered, approved | ⟨_, accepted⟩⟩ := factor
      · rw [autoApproved_authorized running closed event considered approved]
          at authorized
        rw [event]
        exact .inr (.inr ⟨running, closed, considered, approved, by simpa using authorized⟩)
      · rw [event]
        have noted := holds.remember (Host.touch_remembers input.env world.host
          world.conn.sessionLastRecvTime)
        exact .inl (answersPassword_of_accepts noted accepted)
    next bytes uuid lr event =>
      rw [event]
      exact .inl factor.2
    next => exact absurd factor id
  · exact .inr (.inl right)

/-- A shortcut authorizes. -/
theorem shortcut_authorizes
    {world : World}
    {input : Input}
    (cut : Shortcut world input) :
    (world.step input).conn.authorized = true := by
  rcases cut with right | ⟨running, unauthorized, approved⟩
  · exact (rightCode_authorizes right).1
  · split at approved
    next bytes lr event =>
      obtain ⟨considered, approved, present⟩ := approved
      rw [autoApproved_authorized running unauthorized event considered approved, present]
      rfl
    next => exact absurd approved id

end World

namespace System

variable {system : System} {input : SystemInput} {id : Int}

/-- A connection of the system presents a credential, or is authorized by the
connection manager. -/
def Credential (id : Int) (system : System) (input : SystemInput) : Prop :=
  ∃ member event, system.members id = some member ∧ input.event = .serves id event ∧
    (member.world system.host).Presents input.env system.issued event

/-- A connection of the system takes a shortcut. -/
def Shortcut (id : Int) (system : System) (input : SystemInput) : Prop :=
  ∃ member event, system.members id = some member ∧ input.event = .serves id event ∧
    (member.world system.host).Shortcut ⟨input.env, event⟩

@[simp] theorem put_host (world : World) : (system.put id world).host = world.host :=
  rfl

theorem authorized_put_self (world : World) :
    Authorized id (system.put id world) ↔ world.conn.authorized = true := by
  unfold Authorized put
  simp

theorem authorized_put_of_ne
    {other : Int}
    (different : id ≠ other)
    (world : World) :
    Authorized id (system.put other world) ↔ Authorized id system := by
  unfold Authorized put
  simp [Function.update_of_ne different]

/-- Serving an event of its own puts a connection back. -/
theorem step_serves
    {member : Member}
    {event : Event}
    (present : system.members id = some member)
    (serves : input.event = .serves id event)
    (own : ∀ host, event ≠ .hostChanged host) :
    system.step input =
      system.put id ((member.world system.host).step ⟨input.env, event⟩) := by
  unfold step
  rw [serves]
  dsimp only
  rw [present]
  cases event with
  | hostChanged host => exact absurd rfl (own host)
  | _ => rfl

/-- A step changes nothing but the host, opens a connection, or serves one. -/
theorem step_cases (system : System) (input : SystemInput) :
    (system.step input).members = system.members ∨
      (∃ id ip hash require2fa, system.members id = none ∧
        system.step input =
          system.put id (World.start input.env system.host id ip hash require2fa)) ∨
      ∃ id member event, system.members id = some member ∧
        input.event = .serves id event ∧ (∀ host, event ≠ .hostChanged host) ∧
        system.step input =
          system.put id ((member.world system.host).step ⟨input.env, event⟩) := by
  cases kind : input.event with
  | opens id ip hash require2fa =>
      cases present : system.members id with
      | some member => exact .inl (by simp [step, kind, present])
      | none =>
          refine .inr (.inl ⟨id, ip, hash, require2fa, present, ?_⟩)
          simp [step, kind, present]
  | serves id event =>
      cases present : system.members id with
      | none => exact .inl (by simp [step, kind, present])
      | some member =>
          by_cases own : ∀ host, event ≠ .hostChanged host
          · exact .inr (.inr ⟨id, member, event, present, rfl, own,
              step_serves present kind own⟩)
          · obtain ⟨host, changed⟩ := not_forall_not.mp own
            exact .inl (by simp [step, kind, present, changed])
  | insertSwitchSidesUuid peerId uuid => exact .inl (by simp [step, kind])
  | updateTemporaryPassword => exact .inl (by simp [step, kind])
  | configures trustedDevices services => exact .inl (by simp [step, kind])

/-- Every step keeps the passwords of the tables among those issued. -/
theorem issued_step
    (system : System)
    (input : SystemInput)
    (holds : Issued system.issued system.host.toLoginTables) :
    Issued (system.step input).issued (system.step input).host.toLoginTables := by
  have known : ∀ key session, system.host.sessions key = some session →
      system.host.Knows session.randomPassword :=
    fun key session found => .inr (.inr ⟨key, session, found, rfl⟩)
  cases kind : input.event with
  | opens id ip hash require2fa =>
      cases present : system.members id with
      | some member => simpa [step, kind, present] using holds
      | none =>
          simp only [step, kind, present]
          refine holds.renew rfl ?_
          intro key session found
          rw [put_host, World.start_tables] at found
          exact .inr (known key session found)
  | serves id event =>
      cases present : system.members id with
      | none => simpa [step, kind, present] using holds
      | some member =>
          by_cases own : ∀ host, event ≠ .hostChanged host
          · rw [step_serves present kind own]
            refine holds.renew rfl ?_
            exact fun key session found => World.step_sessions own found
          · obtain ⟨host, changed⟩ := not_forall_not.mp own
            simpa [step, kind, present, changed] using holds
  | insertSwitchSidesUuid peerId uuid =>
      simp only [step, kind]
      exact holds.remember (.of_eq rfl rfl)
  | updateTemporaryPassword =>
      simp only [step, kind]
      refine holds.renew rfl ?_
      exact fun key session found => .inr (known key session found)
  | configures trustedDevices services =>
      simp only [step, kind]
      exact holds.remember (.of_eq rfl rfl)

/-- A connection of the system becomes authorized by a credential or by a
shortcut of its own. -/
theorem credential_or_shortcut
    (holds : Issued system.issued system.host.toLoginTables)
    (notAuto : input.env.approveMode ≠ .auto)
    (unauthorized : ¬Authorized id system)
    (authorized : Authorized id (system.step input)) :
    Credential id system input ∨ Shortcut id system input := by
  rcases system.step_cases input with
    same | ⟨other, ip, hash, require2fa, _, opened⟩ |
      ⟨other, member, event, present, serves, own, served⟩
  · unfold Authorized at authorized
    rw [same] at authorized
    exact absurd authorized unauthorized
  · rw [opened] at authorized
    by_cases equal : id = other
    · subst equal
      rw [authorized_put_self, World.start_unauthorized] at authorized
      cases authorized
    · rw [authorized_put_of_ne equal] at authorized
      exact absurd authorized unauthorized
  · rw [served] at authorized
    by_cases equal : id = other
    · subst equal
      rw [authorized_put_self] at authorized
      have before : ¬(member.world system.host).conn.authorized = true :=
        fun already => unauthorized ⟨member, present, already⟩
      rcases World.presents_or_shortcut holds notAuto before authorized with
        presented | cut
      · exact .inl ⟨member, event, present, serves, presented⟩
      · exact .inr ⟨member, event, present, serves, cut⟩
    · rw [authorized_put_of_ne equal] at authorized
      exact absurd authorized unauthorized

/-- A shortcut authorizes the connection that takes it. -/
theorem shortcut_authorized
    (cut : Shortcut id system input) :
    Authorized id (system.step input) := by
  obtain ⟨member, event, present, serves, cut⟩ := cut
  have own : ∀ host, event ≠ .hostChanged host := by
    rintro host rfl
    rcases cut with ⟨_, _, impossible⟩ | ⟨_, _, impossible⟩
    · exact impossible
    · exact impossible
  rw [step_serves present serves own, authorized_put_self]
  exact World.shortcut_authorizes cut

/-- On a host that asks for a password, whatever its connections and their
interleaving, a connection that presents no credential is never authorized if
and only if it takes no shortcut. -/
theorem never_authorized_iff
    (host : Host)
    (id : Int)
    (inputs : List SystemInput)
    (byPassword : ∀ input ∈ inputs, input.env.approveMode = .password)
    (noCredential : Along step (fun system input => ¬Credential id system input)
      (init host) inputs) :
    (∀ before, before <+: inputs → ¬Authorized id (run step (init host) before)) ↔
      Along step (fun system input => ¬Shortcut id system input)
        (init host) inputs := by
  apply never_iff
  · rintro ⟨member, impossible, _⟩
    cases impossible
  · intro before input after split unauthorized authorized
    have issued : Issued (run step (init host) before).issued
        (run step (init host) before).host.toLoginTables := by
      apply run_invariant_always
        (fun system : System => Issued system.issued system.host.toLoginTables)
        issued_step before
      exact ⟨List.mem_singleton_self _, fun _ _ impossible => by cases impossible⟩
    have notAuto : input.env.approveMode ≠ .auto := by
      rw [byPassword input (by simp [split])]
      exact ApproveMode.noConfusion
    rcases credential_or_shortcut issued notAuto unauthorized authorized with
      credential | cut
    · exact absurd credential
        (along_iff_forall_split.mp noCredential before input after split)
    · exact cut
  · exact fun system input _ cut => shortcut_authorized cut

/-- A login of the peer "A" without a password. -/
def loginOfA (id : Int) (union : Option LoginUnion) : SystemInput :=
  ⟨.plain, .serves id (.received (some (.ok ⟨[], some (.loginRequest
    { LoginRequest.empty with myId := "A", username := "host", union := union })⟩)))⟩

/-- A peer connects to a host that asks for a password. -/
def openingOf (id : Int) : SystemInput :=
  ⟨.plain, .opens id (.v4 0) ⟨[], []⟩ none⟩

/-- An empty answer proves no password. -/
theorem loginOfA_noCredential
    (system : System)
    (id other : Int)
    (union : Option LoginUnion) :
    ¬Credential id system (loginOfA other union) := by
  rintro ⟨member, event, _, serves, presented⟩
  cases serves
  obtain ⟨password, nonempty, answered, _⟩ := presented
  change (password ++ _) ++ _ = ([] : Bytes) at answered
  simp only [List.append_eq_nil_iff] at answered
  exact nonempty answered.1.1

theorem openingOf_noCredential
    (system : System)
    (id other : Int) :
    ¬Credential id system (openingOf other) := by
  rintro ⟨_, _, _, impossible, _⟩
  cases impossible

/-- Alone on its host, a file transfer without a password stays outside. -/
theorem never_authorized_iff_alone :
    Along step (fun system input => ¬Credential 2 system input) (init .empty)
        [openingOf 2, loginOfA 2 (some (.fileTransfer "" false))] ∧
      ¬Authorized 2 (run step (init .empty)
        [openingOf 2, loginOfA 2 (some (.fileTransfer "" false))]) := by
  have noCredential : Along step (fun system input => ¬Credential 2 system input)
      (init .empty) [openingOf 2, loginOfA 2 (some (.fileTransfer "" false))] :=
    ⟨openingOf_noCredential _ _ _, loginOfA_noCredential _ _ _ _, trivial⟩
  have byPassword : ∀ input ∈ [openingOf 2, loginOfA 2 (some (.fileTransfer "" false))],
      input.env.approveMode = .password := by
    intro input member
    rcases List.mem_cons.mp member with rfl | member
    · decide
    · rw [List.mem_singleton.mp member]
      decide
  refine ⟨noCredential, (never_authorized_iff .empty 2 _ byPassword noCredential).mpr ?_
    _ (List.prefix_refl _)⟩
  refine ⟨?_, ?_, trivial⟩
  · rintro ⟨_, _, _, impossible, _⟩
    cases impossible
  · rintro ⟨member, event, present, serves, cut⟩
    cases serves
    change some _ = some member at present
    cases present
    rcases cut with ⟨_, _, wrong⟩ | ⟨_, _, _, approved, _⟩
    · exact wrong
    · exact absurd approved (by decide)

/-- Next to an authorized peer "A", whoever declares the id "A" is let in for
file transfer. -/
theorem declared_id_authorizes :
    (∀ input ∈ [openingOf 1, loginOfA 1 none, ⟨.plain, .serves 1 (.fromCm .authorize)⟩,
        openingOf 2, loginOfA 2 (some (.fileTransfer "" false))],
        input.env.approveMode = .password) ∧
      Along step (fun system input => ¬Credential 2 system input) (init .empty)
        [openingOf 1, loginOfA 1 none, ⟨.plain, .serves 1 (.fromCm .authorize)⟩,
          openingOf 2, loginOfA 2 (some (.fileTransfer "" false))] ∧
      Authorized 2 (run step (init .empty)
        [openingOf 1, loginOfA 1 none, ⟨.plain, .serves 1 (.fromCm .authorize)⟩,
          openingOf 2, loginOfA 2 (some (.fileTransfer "" false))]) := by
  refine ⟨?_, ?_, ?_⟩
  · intro input member
    simp only [List.mem_cons, List.not_mem_nil, or_false] at member
    rcases member with rfl | rfl | rfl | rfl | rfl <;> decide
  · refine ⟨openingOf_noCredential _ _ _, loginOfA_noCredential _ _ _ _, ?_,
      openingOf_noCredential _ _ _, loginOfA_noCredential _ _ _ _, trivial⟩
    rintro ⟨_, _, _, elsewhere, _⟩
    cases elsewhere
  · exact ⟨_, rfl, by decide⟩

end System

end Server
end OneDesk
