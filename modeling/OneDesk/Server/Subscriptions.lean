import OneDesk.Server.Unauthorized

/-!
# Subscriptions before authorization

A connection should be subscribed to what the host shows, plays and copies only
once it is authorized.  The messages of the peer respect that.  The switches of
the connection manager do not ask: a permission toggled while the login is
pending subscribes the connection.
-/

namespace OneDesk
namespace Server

/-- Services that carry the screen, the sound, the clipboards or the pointer. -/
def ServiceName.isContent : ServiceName → Bool
  | .other _ => false
  | _ => true

namespace Host

variable (host : Host) (name service : ServiceName) (connId : Int)

@[simp] theorem contains_mapSubscribers (change : List Int → List Int) :
    (host.mapSubscribers name change).contains service = host.contains service := by
  unfold contains mapSubscribers
  rw [List.any_map]
  congr 1
  funext existing
  dsimp only [Function.comp_apply]
  split <;> rfl

theorem isSubed_mapSubscribers_of_ne
    (change : List Int → List Int)
    (different : service ≠ name) :
    (host.mapSubscribers name change).isSubed service connId =
      host.isSubed service connId := by
  unfold isSubed mapSubscribers
  rw [List.any_map]
  congr 1
  funext existing
  dsimp only [Function.comp_apply]
  split
  · next same =>
      have other : (existing.name == service) = false := by
        rw [beq_eq_false_iff_ne, same]
        exact different.symm
      simp only [other, Bool.false_and]
  · rfl

theorem isSubed_onSubscribe :
    (host.onSubscribe name connId).isSubed name connId = host.contains name := by
  unfold onSubscribe isSubed contains mapSubscribers
  rw [List.any_map]
  congr 1
  funext existing
  dsimp only [Function.comp_apply]
  split
  · split
    · next already => simp only [already, Bool.and_true]
    · simp
  · next different => simp [different]

theorem isSubed_removeConnection :
    (host.removeConnection connId).isSubed service connId = false := by
  unfold removeConnection isSubed
  rw [List.any_map, List.any_eq_false]
  intro existing _
  simp

end Host

/-- An event that leaves a pending connection pending subscribes it to nothing
new. -/
theorem Idles.isSubed
    {allowed : Effect → Prop}
    {before after : World}
    (idles : Idles allowed before after)
    {service : ServiceName}
    (subscribed : after.host.isSubed service after.conn.id = true) :
    before.host.isSubed service before.conn.id = true := by
  have sameId : after.conn.id = before.conn.id := congrArg Standing.id idles.standing
  rw [sameId] at subscribed
  rcases idles.services with same | left
  · unfold Host.isSubed at subscribed ⊢
    rwa [same] at subscribed
  · have removed := Host.isSubed_removeConnection before.host service before.conn.id
    unfold Host.isSubed at subscribed removed
    rw [left, removed] at subscribed
    exact absurd subscribed Bool.false_ne_true


/-- Services a connection whose keyboard permission was set asks for. -/
def Connection.keyboardSubscribes
    (conn : Connection)
    (env : Env)
    (showCursor : Bool) :
    ServiceName → Bool
  | .clipboard => conn.canSubClipboardService env
  | .fileClipboard =>
      env.build.unixFileCopyPaste && conn.canSubFileClipboardService env
  | .cursor => showCursor
  | _ => false

/-- Services a change of permissions asks for. -/
def Connection.switchSubscribes
    (conn : Connection)
    (env : Env)
    (name : String)
    (enabled : Bool)
    (service : ServiceName) :
    Bool :=
  if name = "keyboard" then
    { conn with keyboard := enabled }.keyboardSubscribes env
      (enabled || conn.showRemoteCursor) service
  else if name = "clipboard" then
    service == .clipboard &&
      { conn with clipboard := enabled }.canSubClipboardService env
  else if name = "file" then
    service == .fileClipboard && (env.build.unixFileCopyPaste &&
      { conn with file := enabled }.canSubFileClipboardService env)
  else false

namespace World

section Switches

variable (env : Env) (world : World)

@[simp] theorem subscribe_contains (name service : ServiceName) (sub : Bool) :
    (world.subscribe env name sub).host.contains service =
      world.host.contains service := by
  unfold subscribe
  split
  · split
    · exact Host.contains_mapSubscribers world.host name service _
    · exact Host.contains_mapSubscribers world.host name service _
  · rfl

variable {id : Int} (own : world.conn.id = id)

include own

/-- `Server::subscribe` changes the subscriptions to one service. -/
theorem subscribe_isSubed_of_ne
    (name service : ServiceName)
    (sub : Bool)
    (different : service ≠ name) :
    (world.subscribe env name sub).host.isSubed service id =
      world.host.isSubed service id := by
  subst own
  unfold subscribe
  split
  · split
    · exact Host.isSubed_mapSubscribers_of_ne world.host name service _ _ different
    · exact Host.isSubed_mapSubscribers_of_ne world.host name service _ _ different
  · rfl

/-- After `Server::subscribe` a connection is subscribed as asked, if the service
exists. -/
theorem subscribe_isSubed_self
    (name : ServiceName)
    (sub : Bool)
    (absent : world.host.isSubed name id = false) :
    (world.subscribe env name sub).host.isSubed name id =
      (env.serverAlive && world.host.contains name && sub) := by
  subst own
  unfold subscribe
  rw [absent]
  cases sub with
  | false => simpa using absent
  | true =>
      cases there : env.serverAlive && world.host.contains name with
      | false => simpa using absent
      | true =>
          rw [Bool.and_eq_true] at there
          exact (Host.isSubed_onSubscribe world.host name world.conn.id).trans there.2

theorem subscribeFileClipboard_isSubed_of_ne
    (service : ServiceName)
    (different : service ≠ .fileClipboard) :
    (world.subscribeFileClipboard env).host.isSubed service id =
      world.host.isSubed service id := by
  unfold subscribeFileClipboard
  split
  · exact subscribe_isSubed_of_ne env world own _ _ _ different
  · rfl

theorem subscribeFileClipboard_isSubed_self
    (absent : world.host.isSubed .fileClipboard id = false) :
    (world.subscribeFileClipboard env).host.isSubed .fileClipboard id =
      (env.serverAlive && world.host.contains .fileClipboard &&
        (env.build.unixFileCopyPaste && world.conn.canSubFileClipboardService env)) := by
  unfold subscribeFileClipboard
  cases env.build.unixFileCopyPaste with
  | true => exact subscribe_isSubed_self env world own _ _ absent
  | false => simpa using absent

omit own in
@[simp] theorem subscribeFileClipboard_contains (service : ServiceName) :
    (world.subscribeFileClipboard env).host.contains service =
      world.host.contains service := by
  unfold subscribeFileClipboard
  split
  · exact subscribe_contains env world _ _ _
  · rfl

theorem subscribeClipboard_isSubed_of_ne
    (service : ServiceName)
    (different : service ≠ .clipboard) :
    (world.subscribeClipboard env).host.isSubed service id =
      world.host.isSubed service id :=
  subscribe_isSubed_of_ne env world own _ _ _ different

omit own in
@[simp] theorem subscribeClipboard_contains (service : ServiceName) :
    (world.subscribeClipboard env).host.contains service =
      world.host.contains service :=
  subscribe_contains env world _ _ _

/-- The keyboard permission comes with both clipboards and the cursor. -/
theorem subscribeKeyboard_isSubed
    (showCursor : Bool)
    (service : ServiceName)
    (absent : world.host.isSubed service id = false) :
    (((world.subscribeClipboard env).subscribeFileClipboard env).subscribe env .cursor
        showCursor).host.isSubed service id =
      (env.serverAlive && world.host.contains service &&
        world.conn.keyboardSubscribes env showCursor service) := by
  have copying : (world.subscribeClipboard env).conn = world.conn :=
    subscribe_conn env world _ _
  have sharing : ((world.subscribeClipboard env).subscribeFileClipboard env).conn =
      world.conn := (subscribeFileClipboard_conn env _).trans copying
  have copyingOwn : (world.subscribeClipboard env).conn.id = id := by rw [copying, own]
  have sharingOwn : ((world.subscribeClipboard env).subscribeFileClipboard env).conn.id =
      id := by rw [sharing, own]
  have kept : ∀ {service}, service ≠ .fileClipboard → service ≠ .clipboard →
      ((world.subscribeClipboard env).subscribeFileClipboard env).host.isSubed service
        id = world.host.isSubed service id := by
    intro service notFile notText
    rw [subscribeFileClipboard_isSubed_of_ne env _ copyingOwn _ notFile,
      subscribeClipboard_isSubed_of_ne env world own _ notText]
  by_cases isCursor : service = .cursor
  · subst isCursor
    have before := (kept (by simp) (by simp)).trans absent
    rw [subscribe_isSubed_self env _ sharingOwn _ _ before,
      subscribeFileClipboard_contains, subscribeClipboard_contains]
    rfl
  · rw [subscribe_isSubed_of_ne env _ sharingOwn _ _ _ isCursor]
    cases service with
    | clipboard =>
        rw [subscribeFileClipboard_isSubed_of_ne env _ copyingOwn _ (by simp)]
        exact subscribe_isSubed_self env world own _ _ absent
    | fileClipboard =>
        have before :=
          (subscribeClipboard_isSubed_of_ne env world own .fileClipboard (by simp)).trans
            absent
        rw [subscribeFileClipboard_isSubed_self env _ copyingOwn before,
          subscribeClipboard_contains, copying]
        rfl
    | cursor => exact absurd rfl isCursor
    | _ =>
        rw [kept (by simp) (by simp), absent]
        exact (Bool.and_false _).symm

theorem subscribeClipboard_isSubed
    (service : ServiceName)
    (absent : world.host.isSubed service id = false) :
    (world.subscribeClipboard env).host.isSubed service id =
      (env.serverAlive && world.host.contains service &&
        (service == .clipboard && world.conn.canSubClipboardService env)) := by
  by_cases isText : service = .clipboard
  · subst isText
    exact subscribe_isSubed_self env world own _ _ absent
  · rw [subscribeClipboard_isSubed_of_ne env world own service isText, absent,
      beq_eq_false_iff_ne.mpr isText, Bool.false_and, Bool.and_false]

theorem subscribeFileClipboard_isSubed
    (service : ServiceName)
    (absent : world.host.isSubed service id = false) :
    (world.subscribeFileClipboard env).host.isSubed service id =
      (env.serverAlive && world.host.contains service &&
        (service == .fileClipboard && (env.build.unixFileCopyPaste &&
          world.conn.canSubFileClipboardService env))) := by
  by_cases isFile : service = .fileClipboard
  · subst isFile
    exact subscribeFileClipboard_isSubed_self env world own absent
  · rw [subscribeFileClipboard_isSubed_of_ne env world own service isFile, absent,
      beq_eq_false_iff_ne.mpr isFile, Bool.false_and, Bool.and_false]

/-- What a connection that is not authorized is subscribed to after a change of
its permissions. -/
theorem switchPermission_isSubed
    (name : String)
    (enabled : Bool)
    (service : ServiceName)
    (unauthorized : world.conn.authorized = false)
    (absent : world.host.isSubed service id = false) :
    (world.switchPermission env name enabled).host.isSubed service id =
      (env.serverAlive && world.host.contains service &&
        world.conn.switchSubscribes env name enabled service) := by
  unfold switchPermission Connection.switchSubscribes
  by_cases isKeyboard : name = "keyboard"
  · rw [if_pos isKeyboard, if_pos isKeyboard]
    exact subscribeKeyboard_isSubed env
      ((world.modify fun conn => { conn with keyboard := enabled }).sendPermission
        .keyboard enabled) own _ service absent
  rw [if_neg isKeyboard, if_neg isKeyboard]
  by_cases isClipboard : name = "clipboard"
  · rw [if_pos isClipboard, if_pos isClipboard]
    exact subscribeClipboard_isSubed env
      ((world.modify fun conn => { conn with clipboard := enabled }).sendPermission
        .clipboard enabled) own service absent
  rw [if_neg isClipboard, if_neg isClipboard]
  by_cases isAudio : name = "audio"
  · -- the one switch that asks whether the connection is authorized
    have notFile : ¬name = "file" := by
      rw [isAudio]
      decide
    rw [if_pos isAudio, if_neg notFile, Bool.and_false]
    dsimp only
    split
    · next authorized =>
        exact absurd (unauthorized.symm.trans authorized) Bool.false_ne_true
    · exact absent
  rw [if_neg isAudio]
  by_cases isFile : name = "file"
  · rw [if_pos isFile, if_pos isFile]
    dsimp only
    split
    · exact subscribeFileClipboard_isSubed env
        (((world.modify fun conn => { conn with file := enabled }).sendPermission
          .file enabled).emit .emptyFileClipboard) own service absent
    · exact subscribeFileClipboard_isSubed env
        ((world.modify fun conn => { conn with file := enabled }).sendPermission
          .file enabled) own service absent
  rw [if_neg isFile, if_neg isFile, Bool.and_false]
  split
  · exact absent
  split
  · exact absent
  split
  · exact absent
  · exact absent

end Switches

/-- A connection is subscribed to content of the host without authorization. -/
def SubscribedEarly (world : World) : Prop :=
  world.conn.authorized = false ∧
    ∃ service, service.isContent = true ∧
      world.host.isSubed service world.conn.id = true

/-- The connection manager changes a permission of a pending connection that asks
for a service of the host. -/
def SwitchedEarly (world : World) (input : Input) : Prop :=
  world.phase = .running ∧ world.conn.authorized = false ∧
    ∃ name enabled service,
      input.event = .fromCm (.switchPermission name enabled) ∧
        input.env.serverAlive = true ∧ world.host.contains service = true ∧
          world.conn.switchSubscribes input.env name enabled service = true

/-- The other connections subscribe themselves only. -/
def OthersKeepOut (world : World) (input : Input) : Prop :=
  ∀ host, input.event = .hostChanged host → ∀ service,
    host.isSubed service world.conn.id = true →
      world.host.isSubed service world.conn.id = true

theorem isContent_of_switchSubscribes
    {conn : Connection}
    {env : Env}
    {name : String}
    {enabled : Bool}
    {service : ServiceName}
    (asked : conn.switchSubscribes env name enabled service = true) :
    service.isContent = true := by
  cases service with
  | other text =>
      unfold Connection.switchSubscribes Connection.keyboardSubscribes at asked
      simp at asked
  | _ => rfl

/-- A pending connection is subscribed early only by a change of its
permissions. -/
theorem switchedEarly_of_subscribedEarly
    {world : World}
    {input : Input}
    (bare : world.conn.authorized = false → world.IsBare)
    (others : world.OthersKeepOut input)
    (before : ¬world.SubscribedEarly)
    (after : (world.step input).SubscribedEarly) :
    world.SwitchedEarly input := by
  obtain ⟨unauthorized, service, content, subscribed⟩ := after
  have pending := unauthorized_of_step unauthorized
  have cleared : world.cleared.IsBare :=
    ⟨pending, (bare pending).unlocked, (bare pending).released,
      (bare pending).unregistered⟩
  have absent : ¬world.host.isSubed service world.conn.id = true :=
    fun early => before ⟨pending, service, content, early⟩
  by_cases own : ∀ host, input.event ≠ .hostChanged host
  · unfold step at unauthorized subscribed
    cases phase : world.phase with
    | running =>
        rw [phase] at unauthorized subscribed
        by_cases other : ∀ name enabled,
            input.event ≠ .fromCm (.switchPermission name enabled)
        · rcases mainLoop_unauthorized input.env world.cleared input.event cleared own
            other with idles | authorized
          · exact absurd (idles.isSubed subscribed) absent
          · exact absurd (authorized.symm.trans unauthorized) (by simp)
        · obtain ⟨name, switches⟩ := not_forall.mp other
          obtain ⟨enabled, switches⟩ := not_forall_not.mp switches
          rw [switches] at subscribed
          have sameId : (world.cleared.switchPermission input.env name enabled).conn.id =
              world.cleared.conn.id := congrArg Standing.id
            (switchPermission_standing input.env world.cleared name enabled)
          have made := switchPermission_isSubed input.env world.cleared rfl name enabled
            service pending (Bool.not_eq_true _ ▸ absent)
          have here : (world.cleared.switchPermission input.env name enabled
              ).host.isSubed service world.cleared.conn.id = true := by
            rw [← sameId]
            exact subscribed
          rw [made, Bool.and_eq_true, Bool.and_eq_true] at here
          exact ⟨phase, pending, name, enabled, service, switches, here.1.1, here.1.2,
            here.2⟩
    | relaying address =>
        rw [phase] at subscribed
        exact absurd ((relayLoop_unauthorized input.env world.cleared input.event cleared
          own).isSubed subscribed) absent
    | ended =>
        rw [phase] at subscribed
        exact absurd subscribed absent
  · obtain ⟨host, changed⟩ := not_forall_not.mp own
    have kept := others host changed service
    unfold step at subscribed
    rw [changed] at subscribed
    cases phase : world.phase with
    | running =>
        rw [phase] at subscribed
        exact absurd (kept subscribed) absent
    | relaying address =>
        rw [phase] at subscribed
        exact absurd (kept subscribed) absent
    | ended =>
        rw [phase] at subscribed
        exact absurd subscribed absent

/-- Such a change subscribes the connection early. -/
theorem subscribedEarly_of_switchedEarly
    {world : World}
    {input : Input}
    (before : ¬world.SubscribedEarly)
    (switched : world.SwitchedEarly input) :
    (world.step input).SubscribedEarly := by
  obtain ⟨phase, pending, name, enabled, service, switches, alive, there, asked⟩ := switched
  have handled : world.step input =
      world.cleared.switchPermission input.env name enabled := by
    unfold step
    rw [phase, switches]
    rfl
  have standing := switchPermission_standing input.env world.cleared name enabled
  rw [handled]
  have sameId : (world.cleared.switchPermission input.env name enabled).conn.id =
      world.cleared.conn.id := congrArg Standing.id standing
  have content := isContent_of_switchSubscribes asked
  have absent : world.host.isSubed service world.conn.id = false := by
    rw [← Bool.not_eq_true]
    exact fun early => before ⟨pending, service, content, early⟩
  refine ⟨(congrArg Standing.authorized standing).trans pending, service, content, ?_⟩
  rw [sameId, switchPermission_isSubed input.env world.cleared rfl name enabled service
    pending absent, Bool.and_eq_true, Bool.and_eq_true]
  exact ⟨⟨alive, there⟩, asked⟩

section Runs

variable (env : Env) (host : Host) (id : Int) (ip : IpAddr) (hash : Hash)
  (require2fa : Option String)

/-- A connection that starts changes no service. -/
theorem start_host : (start env host id ip hash require2fa).host = host := by
  unfold start
  dsimp only
  split
  · rfl
  · refine List.foldlRecOn (motive := fun current : World => current.host = host) _ _
      rfl ?_
    intro current kept told _
    split
    · exact kept
    · exact kept

/-- No connection is subscribed before it is authorized if and only if no
permission that asks for a service is changed before. -/
theorem subscribed_only_if_authorized
    (inputs : List Input)
    (fresh : ∀ service, host.isSubed service id = false)
    (others : Lib.Along step OthersKeepOut (start env host id ip hash require2fa)
      inputs) :
    (∀ before, before <+: inputs → ∀ service, service.isContent = true →
        (Lib.run step (start env host id ip hash require2fa) before).host.isSubed service
          (Lib.run step (start env host id ip hash require2fa) before).conn.id = true →
        (Lib.run step (start env host id ip hash require2fa) before).conn.authorized =
          true) ↔
      Lib.Along step (fun world input => ¬world.SwitchedEarly input)
        (start env host id ip hash require2fa) inputs := by
  have absent : ¬(start env host id ip hash require2fa).SubscribedEarly := by
    rintro ⟨_, service, _, subscribed⟩
    rw [start_host, start_connId, fresh service] at subscribed
    exact Bool.false_ne_true subscribed
  rw [← Lib.never_iff absent]
  · constructor
    · rintro held before within ⟨unauthorized, service, content, subscribed⟩
      exact Bool.false_ne_true
        (unauthorized.symm.trans (held before within service content subscribed))
    · intro never before within service content subscribed
      rw [← Bool.not_eq_false]
      exact fun unauthorized =>
        never before within ⟨unauthorized, service, content, subscribed⟩
  · intro before input after split early late
    subst split
    exact switchedEarly_of_subscribedEarly
      (run_bare env host id ip hash require2fa before)
      (Lib.along_iff_forall_split.mp others before input after rfl) early late
  · exact fun world input early switched =>
      subscribedEarly_of_switchedEarly early switched

end Runs

/-- A host that shows its cursor. -/
def cursorHost : Host := { Host.empty with services := [⟨.cursor, []⟩] }

/-- The connection manager allows the keyboard. -/
def keyboardSwitch : Input := ⟨.plain, .fromCm (.switchPermission "keyboard" true)⟩

/-- A connection whose keyboard is allowed before anybody logged in. -/
theorem subscribed_only_if_authorized_keyboard :
    (∀ before, before <+: [keyboardSwitch] → ∀ service, service.isContent = true →
        (Lib.run step (start .plain cursorHost 1 (.v4 0) ⟨[], []⟩ none) before
          ).host.isSubed service
          (Lib.run step (start .plain cursorHost 1 (.v4 0) ⟨[], []⟩ none) before
            ).conn.id = true →
        (Lib.run step (start .plain cursorHost 1 (.v4 0) ⟨[], []⟩ none) before
          ).conn.authorized = true) ↔
      Lib.Along step (fun world input => ¬world.SwitchedEarly input)
        (start .plain cursorHost 1 (.v4 0) ⟨[], []⟩ none) [keyboardSwitch] :=
  subscribed_only_if_authorized .plain cursorHost 1 (.v4 0) ⟨[], []⟩ none
    [keyboardSwitch]
    (fun service => by simp [cursorHost, Host.empty, Host.isSubed])
    ⟨fun _ changed => (by cases changed), trivial⟩

/-- It is subscribed to the cursor of the host. -/
theorem keyboard_switch_subscribes_early :
    ((start .plain cursorHost 1 (.v4 0) ⟨[], []⟩ none).step keyboardSwitch
        ).conn.authorized = false ∧
      ((start .plain cursorHost 1 (.v4 0) ⟨[], []⟩ none).step keyboardSwitch
        ).host.isSubed .cursor 1 = true := by
  decide

end World

end Server
end OneDesk
