import OneDesk.Server.LoginMove

/-!
# What has to come before an authorization

A connection becomes authorized by one of four first factors, or by a right
code of the second factor alone.  First factors come first in a run exactly when
no right code does.
-/

namespace OneDesk
namespace Server

open OneDesk.Lib OneDesk.Stream OneDesk.Common

namespace World

/-- A login request is let through by `should_auto_approve_file_transfer`, or
its password is accepted. -/
def FirstFactorLogin (env : Env) (world : World) (lr : LoginRequest) : Prop :=
  world.conn.authorized = false ∧
    lr.considered env world.conn.terminalUserToken = true ∧
    ((world.asking env lr).conn.shouldAutoApproveFileTransfer
        (world.asking env lr).host lr.myId = true ∨
      env.approveMode ≠ .auto ∧ (world.asking env lr).accepts env lr = true)

/-- A first factor: the connection manager authorizes, a switch-sides answer
carries the uuid stored for its peer, or a login request passes on its own. -/
def FirstFactor (world : World) (input : Input) : Prop :=
  world.phase = .running ∧
    match input.event with
    | .fromCm .authorize => True
    | .received (some (.ok ⟨_, some (.loginRequest lr)⟩)) =>
        FirstFactorLogin input.env (world.noteReceipt input.env) lr
    | .received (some (.ok ⟨_, some (.switchSidesResponse uuid (some lr))⟩)) =>
        input.env.build.flutter = true ∧
          carriesUuid input.env (world.noteReceipt input.env) uuid lr = true
    | _ => False

/-- A right code of the second factor reaches a connection that is not
authorized. -/
def RightCode (world : World) (input : Input) : Prop :=
  world.phase = .running ∧ world.conn.authorized = false ∧
    match input.event with
    | .received (some (.ok ⟨_, some (.auth2fa code _)⟩)) =>
        provesCode input.env (world.noteReceipt input.env) code = true
    | _ => False

/-- A request the cascade admits passes a first factor, unless the host admits
everyone. -/
theorem firstFactorLogin_of_admits
    {env : Env}
    {world : World}
    {lr : LoginRequest}
    (notAuto : env.approveMode ≠ .auto)
    (unauthorized : world.conn.authorized = false)
    (admitted : admits env world lr = true) :
    FirstFactorLogin env world lr := by
  unfold admits approves at admitted
  simp only [Bool.and_eq_true, Bool.or_eq_true, beq_iff_eq, notAuto, or_false]
    at admitted
  obtain ⟨considered, approved | ⟨_, accepted⟩⟩ := admitted
  · exact ⟨unauthorized, considered, .inl approved⟩
  · exact ⟨unauthorized, considered, .inr ⟨notAuto, accepted⟩⟩

/-- A connection becomes authorized by a first factor or by a right code. -/
theorem authorized_onset
    {world : World}
    {input : Input}
    (notAuto : input.env.approveMode ≠ .auto)
    (unauthorized : ¬world.conn.authorized = true)
    (authorized : (world.step input).conn.authorized = true) :
    FirstFactor world input ∨ RightCode world input := by
  have closed : world.conn.authorized = false := by simpa using unauthorized
  obtain ⟨login, _, _, after, same | ⟨running, move⟩⟩ := step_login world input
  · rw [after, same] at authorized
    exact absurd authorized unauthorized
  · rw [after] at authorized
    have granted : login.authorized = true := authorized
    unfold FirstFactor RightCode
    generalize input.event = event at move
    cases move with
    | keeps => exact absurd granted unauthorized
    | hangsUp =>
        rw [LoginState.hungUp_authorized] at granted
        exact absurd granted unauthorized
    | authorizes => exact .inl ⟨running, trivial⟩
    | message move =>
        cases move with
        | keeps => exact absurd granted unauthorized
        | hangsUp =>
            rw [LoginState.hungUp_authorized] at granted
            exact absurd granted unauthorized
        | stores lr already => exact absurd already unauthorized
        | asks lr =>
            have same := LoginState.asking_authorized
              (storing input.env (world.cleared.noteReceipt input.env) lr) input.env lr
            exact absurd (same.symm.trans granted) unauthorized
        | enters lr _ admitted =>
            rw [admits_cleared] at admitted
            exact .inl ⟨running, firstFactorLogin_of_admits notAuto closed admitted⟩
        | proves code hwid right => exact .inr ⟨running, closed, right⟩
        | answers => exact absurd granted unauthorized
        | switches uuid lr flutter carried => exact .inl ⟨running, flutter, carried⟩

/-- A right code authorizes, whatever came before it. -/
theorem rightCode_authorizes
    {world : World}
    {input : Input}
    (right : RightCode world input) :
    (world.step input).conn.authorized = true ∧ ¬FirstFactor world input := by
  obtain ⟨running, _, proved⟩ := right
  split at proved
  next bytes code hwid event =>
    have leads : Leads (fun _ => True) (world.conn.unlocked.logon false)
        (world.cleared.noteReceipt input.env)
        ((world.cleared.noteReceipt input.env).onAuth2fa input.env code hwid) := by
      have handled := onAuth2fa_leads (fun _ _ => trivial) input.env
        (world.cleared.noteReceipt input.env) code hwid (fun _ _ => trivial)
        (fun _ _ => trivial)
      rw [if_pos (show provesCode input.env (world.cleared.noteReceipt input.env) code =
        true from proved)] at handled
      exact handled
    constructor
    · rw [step_received_authorized running event]
      change ((world.cleared.noteReceipt input.env).onAuth2fa input.env code
        hwid).conn.authorized = true
      rw [leads.login]
      exact LoginState.logon_false_authorized _
    · rintro ⟨_, factor⟩
      rw [event] at factor
      exact factor
  next => exact absurd proved id

/-- On a host that does not admit everyone, every authorization is preceded by a
first factor of the same connection if and only if every right code is. -/
theorem firstFactor_precedes_iff
    (env : Env)
    (host : Host)
    (id : Int)
    (ip : IpAddr)
    (hash : Hash)
    (require2fa : Option String)
    (inputs : List Input)
    (notAuto : ∀ input ∈ inputs, input.env.approveMode ≠ .auto) :
    (∀ before, before <+: inputs →
        (run step (start env host id ip hash require2fa) before).conn.authorized = true →
        Occurs step FirstFactor (start env host id ip hash require2fa) before) ↔
      ∀ before input after, inputs = before ++ input :: after →
        RightCode (run step (start env host id ip hash require2fa) before) input →
        Occurs step FirstFactor (start env host id ip hash require2fa) before := by
  apply @preceded_iff World Input step (fun world => world.conn.authorized = true)
    FirstFactor RightCode
  · rw [start_unauthorized]
    exact Bool.false_ne_true
  · intro before input after split
    exact authorized_onset (notAuto input (by simp [split]))
  · exact fun _ _ => rightCode_authorizes

/-- A second factor with the right code. -/
def codeInput : Input :=
  ⟨.plain, .received (some (.ok ⟨[], some (.auth2fa "123456" [])⟩))⟩

/-- After an `Authorize`, a right code is preceded by a first factor. -/
theorem firstFactor_precedes_iff_authorize :
    (∀ input ∈ [(⟨.plain, .fromCm .authorize⟩ : Input), codeInput],
        input.env.approveMode ≠ .auto) ∧
      (run step (start .plain .empty 1 (.v4 0) ⟨[], []⟩ (some "secret"))
        [⟨.plain, .fromCm .authorize⟩, codeInput]).conn.authorized = true ∧
      Occurs step FirstFactor (start .plain .empty 1 (.v4 0) ⟨[], []⟩ (some "secret"))
        [⟨.plain, .fromCm .authorize⟩, codeInput] := by
  have notAuto : ∀ input ∈ [(⟨.plain, .fromCm .authorize⟩ : Input), codeInput],
      input.env.approveMode ≠ .auto := by
    intro input member
    rcases List.mem_cons.mp member with rfl | member
    · decide
    · rw [List.mem_singleton.mp member]
      decide
  have first : FirstFactor (start .plain .empty 1 (.v4 0) ⟨[], []⟩ (some "secret"))
      ⟨.plain, .fromCm .authorize⟩ := ⟨by decide, trivial⟩
  refine ⟨notAuto, by decide, ?_⟩
  refine (firstFactor_precedes_iff .plain .empty 1 (.v4 0) ⟨[], []⟩ (some "secret") _
    notAuto).mpr ?_ _ (List.prefix_refl _) (by decide)
  intro before input after split right
  cases before with
  | nil =>
      obtain ⟨rfl, _⟩ := List.cons.inj split
      exact absurd right.2.2 id
  | cons other before =>
      obtain ⟨rfl, _⟩ := List.cons.inj split
      exact .inl first

/-- A right code alone authorizes. -/
theorem code_alone_authorizes :
    codeInput.env.approveMode ≠ .auto ∧
    (run step (start .plain .empty 1 (.v4 0) ⟨[], []⟩ (some "secret"))
        [codeInput]).conn.authorized = true ∧
      ¬Occurs step FirstFactor
        (start .plain .empty 1 (.v4 0) ⟨[], []⟩ (some "secret")) [codeInput] := by
  refine ⟨by decide, by decide, ?_⟩
  rintro (⟨_, impossible⟩ | impossible)
  · exact impossible
  · exact impossible

end World

end Server
end OneDesk
