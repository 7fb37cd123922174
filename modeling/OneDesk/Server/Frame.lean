import OneDesk.Server.OnMessage

/-!
# What the handlers leave alone

Handlers that have nothing to do with logging in keep the login part of the
connection, the login tables of the host and the phase, and what they emit is
accounted for.  One relation says all of it, so that a handler is looked at
once, for every property that needs its frame or its effects.
-/

namespace OneDesk
namespace Server

open OneDesk.Stream OneDesk.Common

/-- Effects that neither announce a login to the connection manager, nor bring
input to the host, nor subscribe the connection to a monitor, to audio or to the
clipboard. -/
def Effect.isOrdinary : Effect → Bool
  | .toCm (.login _) => false
  | .subscribed (.video .monitor _) => false
  | .subscribed .audio => false
  | .subscribed .clipboard => false
  | .input (.mouse _ simulate _) => !simulate
  | .input (.key _ _) => false
  | .input (.pointer _) => false
  | .mobilePointer _ _ _ _ => false
  | .mobileKey _ => false
  | .releaseKey _ => false
  | .lockScreen => false
  | _ => true

namespace Access

variable (env : Env) (access : Access) (o : OptionMessage)

/-- Whether an option message leaves audio enabled after touching it. -/
def grantsAudio : Bool :=
  match asked o.disableAudio with
  | some off => { access with disableAudio := off }.audioEnabled
  | none => false

/-- The access after the clipboard option of a message. -/
def afterClipboardOption : Access :=
  { access with
    disableClipboard := (asked o.disableClipboard).getD access.disableClipboard }

/-- Whether an option message leaves the clipboard service usable after
touching it. -/
def grantsClipboard : Bool :=
  (asked o.disableClipboard).isSome &&
      (access.afterClipboardOption o).canSubClipboardService env ||
    match asked o.disableKeyboard with
    | some off =>
        { access.afterClipboardOption o with disableKeyboard := off
          }.canSubClipboardService env
    | none => false

end Access

/-- The login part of the connection, the login tables and the phase are the
same in two worlds. -/
structure SameLogin (before after : World) : Prop where
  login : after.conn.toLoginState = before.conn.toLoginState
  tables : after.host.toLoginTables = before.host.toLoginTables
  phase : after.phase = before.phase

/-- The same, with the held modifier keys, and every new effect is allowed. -/
structure Keeps (allowed : Effect → Prop) (before after : World) : Prop
    extends SameLogin before after where
  pressed : after.conn.pressedModifiers = before.conn.pressedModifiers
  out : ∀ effect ∈ after.out, effect ∈ before.out ∨ allowed effect

namespace SameLogin

theorem refl (world : World) : SameLogin world world := ⟨rfl, rfl, rfl⟩

theorem trans
    {first second third : World}
    (left : SameLogin first second)
    (right : SameLogin second third) :
    SameLogin first third where
  login := right.login.trans left.login
  tables := right.tables.trans left.tables
  phase := right.phase.trans left.phase

end SameLogin

namespace Keeps

variable {allowed : Effect → Prop}

theorem refl (world : World) : Keeps allowed world world :=
  ⟨SameLogin.refl world, rfl, fun _ member => .inl member⟩

theorem trans
    {first second third : World}
    (left : Keeps allowed first second)
    (right : Keeps allowed second third) :
    Keeps allowed first third where
  toSameLogin := left.toSameLogin.trans right.toSameLogin
  pressed := right.pressed.trans left.pressed
  out := by
    intro effect member
    rcases right.out effect member with earlier | new
    · exact left.out effect earlier
    · exact .inr new

/-- Folding handlers that keep their world keeps it. -/
theorem foldl
    {Item : Type}
    {handle : World → Item → World}
    (items : List Item)
    (kept : ∀ world, ∀ item ∈ items, Keeps allowed world (handle world item))
    (world : World) :
    Keeps allowed world (items.foldl handle world) := by
  induction items generalizing world with
  | nil => exact refl world
  | cons item items inductionHypothesis =>
      rw [List.foldl_cons]
      refine (kept world item List.mem_cons_self).trans ?_
      exact inductionHypothesis
        (fun current other member =>
          kept current other (List.mem_cons_of_mem item member))
        (handle world item)

/-- A choice between two outcomes that keep the world keeps it. -/
theorem ite
    {condition : Prop}
    [Decidable condition]
    {world first second : World}
    (left : condition → Keeps allowed world first)
    (right : ¬condition → Keeps allowed world second) :
    Keeps allowed world (if condition then first else second) := by
  split
  · exact left ‹_›
  · exact right ‹_›

/-- An allowed effect. -/
theorem emit
    (world : World)
    {effect : Effect}
    (fine : allowed effect) :
    Keeps allowed world (world.emit effect) := by
  refine ⟨⟨rfl, rfl, rfl⟩, rfl, ?_⟩
  intro current member
  simp only [World.emit, List.mem_append, List.mem_singleton] at member
  rcases member with earlier | rfl
  · exact .inl earlier
  · exact .inr fine

/-- A change of the connection that leaves its login part alone. -/
theorem modify
    (world : World)
    {change : Connection → Connection}
    (login : (change world.conn).toLoginState = world.conn.toLoginState)
    (pressed : (change world.conn).pressedModifiers =
      world.conn.pressedModifiers) :
    Keeps allowed world (world.modify change) :=
  ⟨⟨login, rfl, rfl⟩, pressed, fun _ member => .inl member⟩

/-- A change of the host that leaves its login tables alone. -/
theorem modifyHost
    (world : World)
    {change : Host → Host}
    (tables : (change world.host).toLoginTables = world.host.toLoginTables) :
    Keeps allowed world (world.modifyHost change) :=
  ⟨⟨rfl, tables, rfl⟩, rfl, fun _ member => .inl member⟩

end Keeps

namespace World

section Handlers

variable {allowed : Effect → Prop}
  (ordinary : ∀ effect, effect.isOrdinary = true → allowed effect)
  (env : Env) (world : World)

include ordinary

theorem send_keeps (reply : Reply) : Keeps allowed world (world.send reply) :=
  Keeps.emit world (ordinary _ rfl)

theorem sendToCm_keeps
    {message : ToCm}
    (unannounced : (Effect.toCm message).isOrdinary = true) :
    Keeps allowed world (world.sendToCm message) :=
  Keeps.emit world (ordinary _ unannounced)

theorem sendFs_keeps (command : Fs) :
    Keeps allowed world (world.sendFs command) :=
  sendToCm_keeps ordinary world rfl

theorem sendLoginError_keeps (error : String) :
    Keeps allowed world (world.sendLoginError env error) :=
  send_keeps ordinary world _

omit ordinary in
theorem updateAutoDisconnectTimer_keeps :
    Keeps allowed world (world.updateAutoDisconnectTimer env) :=
  Keeps.modify world rfl rfl

omit ordinary in
theorem tryStartCmIpc_keeps :
    Keeps allowed world (world.tryStartCmIpc env) :=
  Keeps.ite (fun _ => Keeps.refl world) (fun _ => Keeps.modify world rfl rfl)

theorem subscribe_keeps
    {name : ServiceName}
    {sub : Bool}
    (granted : env.serverAlive = true → sub = true → allowed (.subscribed name)) :
    Keeps allowed world (world.subscribe env name sub) := by
  refine Keeps.ite (fun changes => ?_) (fun _ => Keeps.refl world)
  simp only [Bool.and_eq_true] at changes
  have alive := changes.1.1
  refine Keeps.ite (fun subbing => ?_) (fun _ => ?_)
  · refine (Keeps.modifyHost world ?_).trans (Keeps.emit _ (granted alive subbing))
    rfl
  · refine (Keeps.modifyHost world ?_).trans (Keeps.emit _ (ordinary _ rfl))
    rfl

omit ordinary in
theorem addService_keeps (name : ServiceName) :
    Keeps allowed world (world.addService env name) := by
  refine Keeps.ite (fun _ => Keeps.modifyHost world ?_) (fun _ => Keeps.refl world)
  unfold Host.addService
  split <;> rfl

theorem changeResolution_keeps (display : Option Nat) (resolution : Resolution) :
    Keeps allowed world (world.changeResolution display resolution) :=
  Keeps.ite (fun _ => Keeps.emit world (ordinary _ rfl)) (fun _ => Keeps.refl world)

theorem switchDisplayTo_keeps
    {displayIdx : Nat}
    (granted : allowed (.subscribed (.video world.conn.videoSource displayIdx))) :
    Keeps allowed world (world.switchDisplayTo env displayIdx) := by
  have added : Keeps allowed world
      (if displayIdx ≠ env.primaryDisplayIdx then
        world.addService env (.video world.conn.videoSource displayIdx)
      else world) :=
    Keeps.ite (fun _ => addService_keeps env world _) (fun _ => Keeps.refl world)
  unfold switchDisplayTo
  refine Keeps.trans (added.trans ?_) (Keeps.modify _ rfl rfl)
  refine Keeps.trans ?_ (subscribe_keeps ordinary env _ (fun _ _ => granted))
  exact Keeps.ite
    (fun _ => subscribe_keeps ordinary env _ (fun _ impossible => by cases impossible))
    (fun _ => Keeps.refl _)

theorem handleSwitchDisplay_keeps
    {display : Nat}
    (resolution : Resolution)
    (granted : env.serverAlive = true → world.conn.displayIdx ≠ display →
      allowed (.subscribed (.video world.conn.videoSource display))) :
    Keeps allowed world (world.handleSwitchDisplay env display resolution) := by
  refine Keeps.ite (fun other => ?_) (fun _ => Keeps.refl world)
  refine Keeps.trans ?_ (send_keeps ordinary _ _)
  refine Keeps.ite (fun alive => ?_) (fun _ => Keeps.refl world)
  have switched := switchDisplayTo_keeps ordinary env world (granted alive other)
  exact Keeps.ite
    (fun _ => switched.trans (changeResolution_keeps ordinary _ none resolution))
    (fun _ => switched)

theorem serverCaptureDisplays_keeps
    {displays : List ServiceName}
    {including excluding : Bool}
    (granted : including = true → ∀ name ∈ displays, allowed (.subscribed name)) :
    Keeps allowed world
      (world.serverCaptureDisplays env displays including excluding) := by
  refine Keeps.foldl _ (fun current name _ => ?_) world
  refine Keeps.ite (fun listed => ?_) (fun _ => ?_)
  · refine Keeps.ite (fun included => ?_) (fun _ => Keeps.refl current)
    refine subscribe_keeps ordinary env current (fun _ _ => ?_)
    exact granted included name (List.contains_iff_mem.mp listed)
  · exact Keeps.ite
      (fun _ => subscribe_keeps ordinary env current
        (fun _ impossible => by cases impossible))
      (fun _ => Keeps.refl current)

/-- Displays a `CaptureDisplays` message subscribes to. -/
def capturedDisplays (add sub set : List Nat) : List Nat :=
  if !add.isEmpty then add else if !sub.isEmpty then [] else set

omit ordinary in
theorem addDisplays_keeps (source : VideoSource) (displays : List Nat) :
    Keeps allowed world (world.addDisplays env source displays) :=
  Keeps.foldl _ (fun current name _ => addService_keeps env current name) world

theorem subscribeDisplays_keeps
    {source : VideoSource}
    {add sub set : List Nat}
    (granted : ∀ display ∈ capturedDisplays add sub set,
      allowed (.subscribed (.video source display))) :
    Keeps allowed world (world.subscribeDisplays env source add sub set) := by
  unfold capturedDisplays at granted
  refine Keeps.ite (fun adding => ?_) (fun notAdding => ?_)
  · apply serverCaptureDisplays_keeps ordinary env world
    intro _ name member
    obtain ⟨display, listed, rfl⟩ := List.mem_map.mp member
    exact granted display (by rwa [if_pos adding])
  refine Keeps.ite (fun subbing => ?_) (fun notSubbing => ?_)
  · apply serverCaptureDisplays_keeps ordinary env world
    intro impossible
    cases impossible
  · apply serverCaptureDisplays_keeps ordinary env world
    intro _ name member
    obtain ⟨display, listed, rfl⟩ := List.mem_map.mp member
    exact granted display (by rwa [if_neg notAdding, if_neg notSubbing])

theorem captureDisplays_keeps
    {add sub set : List Nat}
    (granted : env.serverAlive = true → ∀ display ∈ capturedDisplays add sub set,
      allowed (.subscribed (.video world.conn.videoSource display))) :
    Keeps allowed world (world.captureDisplays env add sub set) := by
  refine Keeps.ite (fun alive => ?_) (fun _ => Keeps.refl world)
  have captured := (addDisplays_keeps env world world.conn.videoSource
    (add ++ set)).trans (subscribeDisplays_keeps ordinary env _ (granted alive))
  refine Keeps.trans captured ?_
  refine Keeps.ite (fun _ => ?_) (fun _ => Keeps.modify _ rfl rfl)
  exact Keeps.trans (Keeps.modify _ rfl rfl)
    (subscribe_keeps ordinary env _ (fun _ _ => ordinary _ rfl))

theorem turnOnPrivacy_keeps (implKey : String) :
    Keeps allowed world (world.turnOnPrivacy env implKey) :=
  Keeps.ite
    (fun _ => (Keeps.emit world (ordinary _ rfl)).trans (send_keeps ordinary _ _))
    (fun _ => send_keeps ordinary world _)

theorem turnOffPrivacy_keeps :
    Keeps allowed world (world.turnOffPrivacy env) :=
  Keeps.ite
    (fun _ => (Keeps.emit world (ordinary _ rfl)).trans (send_keeps ordinary _ _))
    (fun _ => send_keeps ordinary world _)

theorem subscribeAudio_keeps
    (granted : env.serverAlive = true → world.conn.audioEnabled = true →
      allowed (.subscribed .audio)) :
    Keeps allowed world (world.subscribeAudio env) := by
  have subscribed := subscribe_keeps ordinary env world granted
  refine Keeps.ite (fun _ => ?_) (fun _ => subscribed)
  exact Keeps.ite (fun _ => subscribed) (fun _ => Keeps.refl world)

theorem subscribeClipboard_keeps
    (granted : env.serverAlive = true →
      world.conn.canSubClipboardService env = true →
        allowed (.subscribed .clipboard)) :
    Keeps allowed world (world.subscribeClipboard env) :=
  subscribe_keeps ordinary env world granted

theorem subscribeFileClipboard_keeps :
    Keeps allowed world (world.subscribeFileClipboard env) :=
  Keeps.ite (fun _ => subscribe_keeps ordinary env world (fun _ _ => ordinary _ rfl))
    (fun _ => Keeps.refl world)

theorem subscribeCursor_keeps :
    Keeps allowed world (world.subscribeCursor env) :=
  subscribe_keeps ordinary env world (fun _ _ => ordinary _ rfl)

theorem updateImageQuality_keeps (o : OptionMessage) :
    Keeps allowed world (world.updateImageQuality o) := by
  unfold updateImageQuality
  cases o.imageQuality with
  | none => exact Keeps.refl world
  | some quality =>
      exact Keeps.ite (fun _ => Keeps.emit world (ordinary _ rfl))
        (fun _ => Keeps.refl world)

theorem updateCustomFps_keeps (o : OptionMessage) :
    Keeps allowed world (world.updateCustomFps o) :=
  Keeps.ite (fun _ => Keeps.emit world (ordinary _ rfl)) (fun _ => Keeps.refl world)

theorem updateSupportedDecoding_keeps (o : OptionMessage) :
    Keeps allowed world (world.updateSupportedDecoding o) :=
  Keeps.ite (fun _ => Keeps.emit world (ordinary _ rfl)) (fun _ => Keeps.refl world)

omit ordinary in
theorem updateLockAfterSessionEnd_keeps (o : OptionMessage) :
    Keeps allowed world (world.updateLockAfterSessionEnd o) := by
  unfold updateLockAfterSessionEnd
  cases asked o.lockAfterSessionEnd with
  | none => exact Keeps.refl world
  | some on => exact Keeps.modify world rfl rfl

theorem updateShowRemoteCursor_keeps (o : OptionMessage) :
    Keeps allowed world (world.updateShowRemoteCursor env o) := by
  unfold updateShowRemoteCursor
  split
  · refine Keeps.trans ?_
      (subscribe_keeps ordinary env _ (fun _ _ => ordinary _ rfl))
    exact (Keeps.modify world rfl rfl).trans (subscribeCursor_keeps ordinary env _)
  · exact Keeps.refl world

omit ordinary in
theorem updateFollowRemoteCursor_keeps (o : OptionMessage) :
    Keeps allowed world (world.updateFollowRemoteCursor env o) := by
  unfold updateFollowRemoteCursor
  split
  · exact Keeps.modify world rfl rfl
  · exact Keeps.refl world

theorem updateFollowRemoteWindow_keeps (o : OptionMessage) :
    Keeps allowed world (world.updateFollowRemoteWindow env o) := by
  unfold updateFollowRemoteWindow
  cases asked o.followRemoteWindow with
  | none => exact Keeps.refl world
  | some on =>
      exact (Keeps.modify world rfl rfl).trans
        (subscribe_keeps ordinary env _ (fun _ _ => ordinary _ rfl))

theorem updateViewOptions_keeps (o : OptionMessage) :
    Keeps allowed world (world.updateViewOptions env o) := by
  unfold updateViewOptions
  refine Keeps.trans ?_ (updateFollowRemoteWindow_keeps ordinary env _ o)
  refine Keeps.trans ?_ (updateFollowRemoteCursor_keeps env _ o)
  refine Keeps.trans ?_ (updateShowRemoteCursor_keeps ordinary env _ o)
  refine Keeps.trans ?_ (updateLockAfterSessionEnd_keeps _ o)
  refine Keeps.trans ?_ (updateSupportedDecoding_keeps ordinary _ o)
  refine Keeps.trans ?_ (updateCustomFps_keeps ordinary _ o)
  exact updateImageQuality_keeps ordinary world o

theorem updateDisableAudio_keeps
    {o : OptionMessage}
    (granted : env.serverAlive = true → world.conn.grantsAudio o = true →
      allowed (.subscribed .audio)) :
    Keeps allowed world (world.updateDisableAudio env o) := by
  unfold updateDisableAudio
  unfold Access.grantsAudio at granted
  cases disable : asked o.disableAudio with
  | none => exact Keeps.refl world
  | some on =>
      rw [disable] at granted
      exact (Keeps.modify world rfl rfl).trans
        (subscribeAudio_keeps ordinary env _ granted)

theorem updateEnableFileTransfer_keeps (o : OptionMessage) :
    Keeps allowed world (world.updateEnableFileTransfer env o) := by
  unfold updateEnableFileTransfer
  refine Keeps.ite (fun _ => ?_) (fun _ => Keeps.refl world)
  cases asked o.enableFileTransfer with
  | none => exact Keeps.refl world
  | some on =>
      refine Keeps.trans ?_ (subscribeFileClipboard_keeps ordinary env _)
      have enabled : Keeps allowed world
          (world.modify fun conn => { conn with enableFileTransfer := on }) :=
        Keeps.modify world rfl rfl
      refine Keeps.trans (enabled.trans ?_)
        (Keeps.ite (fun _ => Keeps.emit _ (ordinary _ rfl)) (fun _ => Keeps.refl _))
      exact Keeps.ite (fun _ => sendToCm_keeps ordinary _ rfl) (fun _ => Keeps.refl _)

theorem updateDisableClipboard_keeps
    {o : OptionMessage}
    (granted : ∀ off, asked o.disableClipboard = some off → env.serverAlive = true →
      ({ world.conn.toAccess with disableClipboard := off }).canSubClipboardService
        env = true → allowed (.subscribed .clipboard)) :
    Keeps allowed world (world.updateDisableClipboard env o) := by
  unfold updateDisableClipboard
  cases disable : asked o.disableClipboard with
  | none => exact Keeps.refl world
  | some on =>
      exact (Keeps.modify world rfl rfl).trans
        (subscribeClipboard_keeps ordinary env _ (granted on disable))

theorem updateDisableKeyboard_keeps
    {o : OptionMessage}
    (granted : ∀ off, asked o.disableKeyboard = some off → env.serverAlive = true →
      ({ world.conn.toAccess with disableKeyboard := off }).canSubClipboardService
        env = true → allowed (.subscribed .clipboard)) :
    Keeps allowed world (world.updateDisableKeyboard env o) := by
  unfold updateDisableKeyboard
  cases disable : asked o.disableKeyboard with
  | none => exact Keeps.refl world
  | some on =>
      refine Keeps.trans ?_ (subscribeCursor_keeps ordinary env _)
      refine Keeps.trans ?_ (subscribeFileClipboard_keeps ordinary env _)
      exact (Keeps.modify world rfl rfl).trans
        (subscribeClipboard_keeps ordinary env _ (granted on disable))

theorem updateControlOptions_keeps (o : OptionMessage) :
    Keeps allowed world (world.updateControlOptions env o) := by
  have privacy : Keeps allowed world (world.updatePrivacyMode env o) := by
    unfold updatePrivacyMode
    refine Keeps.ite (fun _ => ?_) (fun _ => Keeps.refl world)
    split
    · exact turnOnPrivacy_keeps ordinary env world ""
    · exact turnOffPrivacy_keeps ordinary env world
    · exact Keeps.refl world
  have block : ∀ current : World,
      Keeps allowed current (current.updateBlockInput o) := by
    intro current
    unfold updateBlockInput
    cases asked o.blockInput with
    | none => exact Keeps.refl current
    | some on =>
        refine Keeps.ite (fun _ => Keeps.emit current (ordinary _ ?_))
          (fun _ => send_keeps ordinary current _)
        cases on <;> rfl
  have terminal : ∀ current : World,
      Keeps allowed current (current.updateTerminalPersistent env o) := by
    intro current
    unfold updateTerminalPersistent
    split
    · exact (Keeps.modify current rfl rfl).trans (Keeps.emit _ (ordinary _ rfl))
    · exact Keeps.refl current
  have cursor : ∀ current : World,
      Keeps allowed current (current.updateShowMyCursor env o) := by
    intro current
    unfold updateShowMyCursor
    split
    next on _ _ =>
      have shown : Keeps allowed current
          (current.modify fun conn => { conn with showMyCursor := on }) :=
        Keeps.modify current rfl rfl
      refine shown.trans ?_
      refine Keeps.ite (fun _ => Keeps.emit _ (ordinary _ rfl)) (fun _ => ?_)
      exact Keeps.ite (fun _ => send_keeps ordinary _ _) (fun _ => Keeps.refl _)
    next => exact Keeps.refl current
  exact ((privacy.trans (block _)).trans (terminal _)).trans (cursor _)

end Handlers

section Access

variable (env : Env) (world : World)

@[simp] theorem subscribe_conn (name : ServiceName) (sub : Bool) :
    (world.subscribe env name sub).conn = world.conn := by
  unfold subscribe
  split
  · split <;> rfl
  · rfl

@[simp] theorem subscribeFileClipboard_conn :
    (world.subscribeFileClipboard env).conn = world.conn := by
  unfold subscribeFileClipboard
  split
  · rw [subscribe_conn]
  · rfl

@[simp] theorem updateImageQuality_conn (o : OptionMessage) :
    (world.updateImageQuality o).conn = world.conn := by
  unfold updateImageQuality
  cases o.imageQuality with
  | none => rfl
  | some quality =>
      simp only
      split <;> rfl

@[simp] theorem updateCustomFps_conn (o : OptionMessage) :
    (world.updateCustomFps o).conn = world.conn := by
  unfold updateCustomFps
  split <;> rfl

@[simp] theorem updateSupportedDecoding_conn (o : OptionMessage) :
    (world.updateSupportedDecoding o).conn = world.conn := by
  unfold updateSupportedDecoding
  split <;> rfl

@[simp] theorem updateLockAfterSessionEnd_access (o : OptionMessage) :
    (world.updateLockAfterSessionEnd o).conn.toAccess = world.conn.toAccess := by
  unfold updateLockAfterSessionEnd
  split <;> rfl

@[simp] theorem updateShowRemoteCursor_access (o : OptionMessage) :
    (world.updateShowRemoteCursor env o).conn.toAccess = world.conn.toAccess := by
  unfold updateShowRemoteCursor subscribeCursor
  split
  · simp only [subscribe_conn]
    rfl
  · rfl

@[simp] theorem updateFollowRemoteCursor_access (o : OptionMessage) :
    (world.updateFollowRemoteCursor env o).conn.toAccess = world.conn.toAccess := by
  unfold updateFollowRemoteCursor
  split <;> rfl

@[simp] theorem updateFollowRemoteWindow_access (o : OptionMessage) :
    (world.updateFollowRemoteWindow env o).conn.toAccess = world.conn.toAccess := by
  unfold updateFollowRemoteWindow
  split
  · rfl
  · simp only [subscribe_conn]
    rfl

@[simp] theorem updateViewOptions_access (o : OptionMessage) :
    (world.updateViewOptions env o).conn.toAccess = world.conn.toAccess := by
  simp [updateViewOptions]

/-- The audio option changes nothing about the clipboard. -/
theorem updateDisableAudio_access (o : OptionMessage) :
    (world.updateDisableAudio env o).conn.toAccess =
      { world.conn.toAccess with
        disableAudio := (asked o.disableAudio).getD world.conn.disableAudio } := by
  unfold updateDisableAudio subscribeAudio
  cases asked o.disableAudio with
  | none => rfl
  | some off =>
      simp only [Option.getD_some]
      split
      · split
        · rw [subscribe_conn]
          rfl
        · rfl
      · rw [subscribe_conn]
        rfl

@[simp] theorem updateEnableFileTransfer_access (o : OptionMessage) :
    (world.updateEnableFileTransfer env o).conn.toAccess = world.conn.toAccess := by
  unfold updateEnableFileTransfer
  split
  · cases asked o.enableFileTransfer with
    | none => rfl
    | some on =>
        simp only [subscribeFileClipboard_conn]
        split
        · split <;> rfl
        · split <;> rfl
  · rfl

theorem updateDisableClipboard_access (o : OptionMessage) :
    (world.updateDisableClipboard env o).conn.toAccess =
      world.conn.toAccess.afterClipboardOption o := by
  unfold updateDisableClipboard subscribeClipboard Access.afterClipboardOption
  cases asked o.disableClipboard with
  | none => rfl
  | some off =>
      simp only [subscribe_conn, Option.getD_some]
      rfl

end Access

section Options

variable {allowed : Effect → Prop}
  (ordinary : ∀ effect, effect.isOrdinary = true → allowed effect)
  (env : Env) (world : World)

include ordinary

/-- `update_options` subscribes to audio and to the clipboard only as far as
the message grants them. -/
theorem updateOptions_keeps
    {o : OptionMessage}
    (audio : env.serverAlive = true → world.conn.grantsAudio o = true →
      allowed (.subscribed .audio))
    (clipboard : env.serverAlive = true → world.conn.grantsClipboard env o = true →
      allowed (.subscribed .clipboard)) :
    Keeps allowed world (world.updateOptions env o) := by
  unfold updateOptions
  refine Keeps.trans ?_ (updateControlOptions_keeps ordinary env _ o)
  refine Keeps.trans ?_ (updateDisableKeyboard_keeps ordinary env _ ?_)
  · refine Keeps.trans ?_ (updateDisableClipboard_keeps ordinary env _ ?_)
    · refine Keeps.trans ?_ (updateEnableFileTransfer_keeps ordinary env _ o)
      refine Keeps.trans (updateViewOptions_keeps ordinary env world o) ?_
      apply updateDisableAudio_keeps ordinary env
      rw [updateViewOptions_access]
      exact audio
    · intro off disable alive can
      apply clipboard alive
      simp only [updateEnableFileTransfer_access, updateDisableAudio_access,
        updateViewOptions_access] at can
      unfold Access.grantsClipboard
      have same : world.conn.afterClipboardOption o =
          { world.conn.toAccess with disableClipboard := off } := by
        simp [Access.afterClipboardOption, disable]
      rw [same]
      simp only [disable, Option.isSome_some, Bool.true_and, Bool.or_eq_true]
      exact .inl can
  · intro off disable alive can
    apply clipboard alive
    simp only [updateDisableClipboard_access, updateEnableFileTransfer_access,
      updateDisableAudio_access, updateViewOptions_access] at can
    unfold Access.grantsClipboard
    simp only [disable, Bool.or_eq_true]
    exact .inr can

end Options

end World

end Server
end OneDesk
