import OneDesk.Server.Start

/-!
# The input thread of a connection

What a connection tells its input thread goes through a queue.  The thread blocks the local input
of the host when it is told to, and blocks it again whenever nothing came for a while.  The
connection checks its permissions when it tells the thread, and only then.

`platform::block_input` succeeds here.  Whether a block outlives the thread that asked for it is
up to the system.  Mouse, key and pointer input is taken from the queue and has no part in this.
-/

namespace OneDesk
namespace Server

/-! ## What the thread is told -/

def Effect.messageInput : Effect → Option MessageInput
  | .input given => some given
  | _ => none

/-- What blocking depends on: the permissions, whether the connection is there, and what goes to
the input thread. -/
structure Blocking where
  keyboard : Bool
  blockInput : Bool
  authorized : Bool
  phase : Phase
  inputs : List MessageInput
  deriving DecidableEq

def World.blocking (world : World) : Blocking where
  keyboard := world.conn.keyboard
  blockInput := world.conn.blockInput
  authorized := world.conn.authorized
  phase := world.phase
  inputs := world.out.filterMap Effect.messageInput

namespace Blocking

variable (blocking : Blocking)

/-- The connection has not ended. -/
def alive : Bool := blocking.phase != .ended

/-- Option `block_input` of the peer. -/
def afterOption (o : OptionMessage) : Blocking :=
  match asked o.blockInput with
  | none => blocking
  | some on =>
      if blocking.keyboard && blocking.blockInput then
        { blocking with
          inputs := blocking.inputs ++ [if on then MessageInput.blockOn else .blockOff] }
      else blocking

/-- The connection manager switches a permission. -/
def afterSwitch (name : String) (enabled : Bool) : Blocking :=
  { blocking with
    keyboard := if name = "keyboard" then enabled else blocking.keyboard
    blockInput := if name = "block_input" then enabled else blocking.blockInput }

end Blocking

namespace World

section Frames

variable (env : Env) (world : World) (o : OptionMessage)

@[simp] theorem blocking_emit
    {effect : Effect}
    (noInput : effect.messageInput = none) :
    (world.emit effect).blocking = world.blocking := by
  simp [blocking, emit, noInput]

@[simp] theorem blocking_send (reply : Reply) : (world.send reply).blocking = world.blocking :=
  blocking_emit world rfl

@[simp] theorem blocking_subscribe (name : ServiceName) (sub : Bool) :
    (world.subscribe env name sub).blocking = world.blocking := by
  unfold subscribe
  split
  · split
    · exact blocking_emit _ rfl
    · exact blocking_emit _ rfl
  · rfl

@[simp] theorem blocking_subscribeClipboard :
    (world.subscribeClipboard env).blocking = world.blocking :=
  blocking_subscribe env world _ _

@[simp] theorem blocking_subscribeFileClipboard :
    (world.subscribeFileClipboard env).blocking = world.blocking := by
  unfold subscribeFileClipboard
  split
  · exact blocking_subscribe env world _ _
  · rfl

@[simp] theorem blocking_subscribeCursor :
    (world.subscribeCursor env).blocking = world.blocking :=
  blocking_subscribe env world _ _

@[simp] theorem blocking_subscribeAudio :
    (world.subscribeAudio env).blocking = world.blocking := by
  unfold subscribeAudio
  split
  · split
    · exact blocking_subscribe env world _ _
    · rfl
  · exact blocking_subscribe env world _ _

theorem blocking_updateImageQuality :
    (world.updateImageQuality o).blocking = world.blocking := by
  unfold updateImageQuality
  split
  · rfl
  · split
    · exact blocking_emit world rfl
    · rfl

theorem blocking_updateCustomFps : (world.updateCustomFps o).blocking = world.blocking := by
  unfold updateCustomFps
  split
  · exact blocking_emit world rfl
  · rfl

theorem blocking_updateSupportedDecoding :
    (world.updateSupportedDecoding o).blocking = world.blocking := by
  unfold updateSupportedDecoding
  split
  · exact blocking_emit world rfl
  · rfl

theorem blocking_updateLockAfterSessionEnd :
    (world.updateLockAfterSessionEnd o).blocking = world.blocking := by
  unfold updateLockAfterSessionEnd
  split <;> rfl

theorem blocking_updateShowRemoteCursor :
    (world.updateShowRemoteCursor env o).blocking = world.blocking := by
  unfold updateShowRemoteCursor
  split
  · dsimp only
    rw [blocking_subscribe, blocking_subscribeCursor]
    rfl
  · rfl

theorem blocking_updateFollowRemoteCursor :
    (world.updateFollowRemoteCursor env o).blocking = world.blocking := by
  unfold updateFollowRemoteCursor
  split <;> rfl

theorem blocking_updateFollowRemoteWindow :
    (world.updateFollowRemoteWindow env o).blocking = world.blocking := by
  unfold updateFollowRemoteWindow
  split
  · rfl
  · exact blocking_subscribe env _ _ _

theorem blocking_updateDisableAudio :
    (world.updateDisableAudio env o).blocking = world.blocking := by
  unfold updateDisableAudio
  split
  · rfl
  · exact blocking_subscribeAudio env _

theorem blocking_updateEnableFileTransfer :
    (world.updateEnableFileTransfer env o).blocking = world.blocking := by
  unfold updateEnableFileTransfer
  split
  · split
    · rfl
    · dsimp only
      rw [blocking_subscribeFileClipboard]
      split
      · rw [blocking_emit _ rfl]
        split
        · exact blocking_emit _ rfl
        · rfl
      · split
        · exact blocking_emit _ rfl
        · rfl
  · rfl

theorem blocking_updateDisableClipboard :
    (world.updateDisableClipboard env o).blocking = world.blocking := by
  unfold updateDisableClipboard
  split
  · rfl
  · exact blocking_subscribeClipboard env _

theorem blocking_updateDisableKeyboard :
    (world.updateDisableKeyboard env o).blocking = world.blocking := by
  unfold updateDisableKeyboard
  split
  · rfl
  · dsimp only
    rw [blocking_subscribeCursor, blocking_subscribeFileClipboard, blocking_subscribeClipboard]
    rfl

theorem blocking_updatePrivacyMode :
    (world.updatePrivacyMode env o).blocking = world.blocking := by
  have turned : ∀ effect : Effect, effect.messageInput = none →
      (if env.isPrivacyModeSupported then (world.emit effect).send .privacyMode
        else world.send .privacyMode).blocking = world.blocking := by
    intro effect noInput
    split
    · rw [blocking_send, blocking_emit world noInput]
    · exact blocking_send world _
  unfold updatePrivacyMode
  split
  · split
    · exact turned _ rfl
    · exact turned _ rfl
    · rfl
  · rfl

theorem blocking_updateTerminalPersistent :
    (world.updateTerminalPersistent env o).blocking = world.blocking := by
  unfold updateTerminalPersistent
  split
  · exact blocking_emit _ rfl
  · rfl

theorem blocking_updateShowMyCursor :
    (world.updateShowMyCursor env o).blocking = world.blocking := by
  unfold updateShowMyCursor
  split
  · dsimp only
    split
    · exact blocking_emit _ rfl
    · split
      · exact blocking_send _ _
      · rfl
  · rfl

/-- The thread is told to block or not to block if the connection has both permissions. -/
theorem blocking_updateBlockInput :
    (world.updateBlockInput o).blocking = world.blocking.afterOption o := by
  unfold updateBlockInput Blocking.afterOption
  cases asked o.blockInput with
  | none => rfl
  | some on =>
      dsimp only
      change _ = if world.conn.keyboard && world.conn.blockInput then _ else _
      split
      · simp [blocking, emit, Effect.messageInput]
      · exact blocking_send world _

/-- Of all options only one has to do with blocking. -/
theorem blocking_updateOptions :
    (world.updateOptions env o).blocking = world.blocking.afterOption o := by
  unfold updateOptions updateControlOptions updateViewOptions
  simp only [blocking_updateShowMyCursor, blocking_updateTerminalPersistent,
    blocking_updateBlockInput, blocking_updatePrivacyMode, blocking_updateDisableKeyboard,
    blocking_updateDisableClipboard, blocking_updateEnableFileTransfer,
    blocking_updateDisableAudio, blocking_updateFollowRemoteWindow,
    blocking_updateFollowRemoteCursor, blocking_updateShowRemoteCursor,
    blocking_updateLockAfterSessionEnd, blocking_updateSupportedDecoding,
    blocking_updateCustomFps, blocking_updateImageQuality]

theorem blocking_switchPermission (name : String) (enabled : Bool) :
    (world.switchPermission env name enabled).blocking =
      world.blocking.afterSwitch name enabled := by
  have other : ∀ change : Connection → Connection, ∀ permission,
      name ≠ "keyboard" → name ≠ "block_input" →
      ((world.modify change).blocking = world.blocking) →
      ((world.modify change).sendPermission permission enabled).blocking =
        world.blocking.afterSwitch name enabled := by
    intro change permission notKeyboard notBlock same
    rw [sendPermission, blocking_send, same, Blocking.afterSwitch, if_neg notKeyboard,
      if_neg notBlock]
  unfold switchPermission
  split
  next isKeyboard =>
    dsimp only
    rw [blocking_subscribe, blocking_subscribeFileClipboard, blocking_subscribeClipboard,
      sendPermission, blocking_send, Blocking.afterSwitch, if_pos isKeyboard, isKeyboard,
      if_neg (by decide)]
    rfl
  next notKeyboard =>
    split
    next isClipboard =>
      rw [blocking_subscribeClipboard]
      exact other _ _ notKeyboard (by rw [isClipboard]; decide) rfl
    split
    next isAudio =>
      have switched := other (fun conn => { conn with audio := enabled }) .audio notKeyboard
        (by rw [isAudio]; decide) rfl
      dsimp only
      split
      · rw [blocking_subscribeAudio]
        exact switched
      · exact switched
    split
    next isFile =>
      have switched := other (fun conn => { conn with file := enabled }) .file notKeyboard
        (by rw [isFile]; decide) rfl
      dsimp only
      rw [blocking_subscribeFileClipboard]
      split
      · rw [blocking_emit _ rfl]
        exact switched
      · exact switched
    split
    next isRestart => exact other _ _ notKeyboard (by rw [isRestart]; decide) rfl
    split
    next isRecording => exact other _ _ notKeyboard (by rw [isRecording]; decide) rfl
    split
    next isBlock =>
      rw [sendPermission, blocking_send, Blocking.afterSwitch, if_neg notKeyboard, if_pos isBlock]
      rfl
    next notBlock =>
      rw [Blocking.afterSwitch, if_neg notKeyboard, if_neg notBlock]

theorem blocking_onClose (lock : Bool) :
    (world.onClose env lock).blocking = world.blocking := by
  unfold onClose
  split
  · rfl
  · dsimp only
    change ((World.emit _ (.toCm _)).blocking) = _
    rw [blocking_emit _ rfl]
    split
    · rw [blocking_emit _ rfl, blocking_emit _ rfl]
    · exact blocking_emit _ rfl

theorem blocking_releaseModifiers :
    (world.releaseModifiers env).blocking = world.blocking := by
  unfold releaseModifiers
  split
  · rfl
  · have noInput : (world.conn.pressedModifiers.map Effect.releaseKey).filterMap
        Effect.messageInput = [] := by
      rw [List.filterMap_map]
      exact List.filterMap_eq_nil_iff.mpr fun _ _ => rfl
    simp [blocking, noInput]

/-- At its end a connection tells the thread nothing. -/
theorem blocking_finish :
    (world.finish env).blocking = { world.blocking with phase := .ended } := by
  have left : (world.removeConnection env).blocking = world.blocking := by
    unfold removeConnection
    split <;> rfl
  have dropped : ∀ world : World, world.dropAuthedConn.blocking = world.blocking := by
    intro world
    unfold dropAuthedConn
    split <;> rfl
  have same := dropped (((world.removeConnection env).onClose env true).releaseModifiers env)
  rw [blocking_releaseModifiers, blocking_onClose, left] at same
  unfold finish
  exact congrArg (fun blocking : Blocking => { blocking with phase := .ended }) same

end Frames

end World

/-! ## The thread -/

/-- A connection, the queue to its input thread, and the thread. -/
structure InputLine where
  world : World
  queue : List MessageInput := []
  /-- `block_input_mode` of the thread -/
  blockInputMode : Bool := false
  /-- Whether the thread blocks the input of the host. -/
  blocked : Bool := false
  exited : Bool := false

namespace InputLine

variable (outlives : Bool) (line : InputLine)

def alive : Bool := line.world.blocking.alive

/-- What the connection does goes to the world, and what it says to the queue. -/
def through (after : World) : InputLine :=
  { line with
    world := after
    queue := line.queue ++ after.blocking.inputs }

/-- The thread takes a message. -/
def handle (input : MessageInput) : InputLine :=
  match input with
  | .blockOn => { line with blockInputMode := true, blocked := true }
  | .blockOff => { line with blockInputMode := false, blocked := false }
  | _ => line

/-- One turn of `handle_input`: a message, the end of the connection, or 500 ms without either.
Without a message a block is asked for again. -/
def turn : InputLine :=
  if line.exited then line
  else
    match line.queue with
    | input :: queue => { line with queue := queue }.handle input
    | [] =>
        let again := { line with blocked := line.blocked || line.blockInputMode }
        if line.alive then again
        else { again with exited := true, blocked := again.blocked && outlives }

/-- The thread has taken all messages, and has left if the connection has ended. -/
def settle : InputLine := (turn outlives)^[line.queue.length + 1] line

/-- Once the thread has settled, input is blocked only by a connection that is there and has both
permissions. -/
def Permitted : Prop :=
  (line.settle outlives).blocked = true →
    (line.settle outlives).alive = true ∧
      (line.settle outlives).world.conn.keyboard = true ∧
      (line.settle outlives).world.conn.blockInput = true

/-- What happens to a connection and its input thread. -/
inductive Event where
  /-- options of the peer -/
  | option (env : Env) (o : OptionMessage)
  /-- the connection manager switches a permission -/
  | switchPermission (env : Env) (name : String) (enabled : Bool)
  /-- the end of the connection -/
  | finish (env : Env)
  /-- the input thread takes its turn -/
  | turn

def step (line : InputLine) : Event → InputLine
  | .option env o =>
      if line.world.phase = .running ∧ line.world.conn.authorized = true then
        line.through (line.world.cleared.updateOptions env o)
      else line
  | .switchPermission env name enabled =>
      if line.world.phase = .running then
        line.through (line.world.cleared.switchPermission env name enabled)
      else line
  | .finish env => if line.alive then line.through (line.world.cleared.finish env) else line
  | .turn => line.turn outlives

/-! ## What the thread will do -/

/-- What a message makes of the mode of the thread. -/
def listen (mode : Bool) : MessageInput → Bool
  | .blockOn => true
  | .blockOff => false
  | _ => mode

/-- The mode of the thread once it has taken all messages. -/
def wants : Bool :=
  line.queue.foldl listen line.blockInputMode

/-- Input is blocked in block mode, unless the thread has left and taken the block along.  The
thread leaves when the connection has ended and no message is left. -/
structure Sound : Prop where
  blocked : line.blocked = (line.blockInputMode && (!line.exited || outlives))
  exited : line.exited = true → line.queue = [] ∧ line.alive = false

variable {outlives line}

theorem world_handle (input : MessageInput) : (line.handle input).world = line.world := by
  cases input <;> rfl

theorem queue_handle (input : MessageInput) : (line.handle input).queue = line.queue := by
  cases input <;> rfl

theorem world_turn : (line.turn outlives).world = line.world := by
  unfold turn
  split
  · rfl
  · split
    · exact world_handle _
    · dsimp only
      split <;> rfl

theorem Sound.queue_turn
    (sound : Sound outlives line) :
    (line.turn outlives).queue = line.queue.tail := by
  unfold turn
  split
  next gone => rw [(sound.exited gone).1, List.tail_nil]
  next =>
    split
    next input queue isQueue => rw [queue_handle, isQueue, List.tail_cons]
    next isQueue =>
      rw [isQueue]
      dsimp only
      split <;> rfl

theorem Sound.turn
    (sound : Sound outlives line) :
    Sound outlives (line.turn outlives) := by
  unfold InputLine.turn
  split
  · exact sound
  next here =>
    have present : line.exited = false := by simpa using here
    have same : line.blocked = line.blockInputMode := by
      rw [sound.blocked, present, Bool.not_false, Bool.true_or, Bool.and_true]
    split
    next input queue isQueue =>
      cases input with
      | blockOn => exact ⟨by simp [handle, present], fun gone => absurd gone here⟩
      | blockOff => exact ⟨by simp [handle], fun gone => absurd gone here⟩
      | _ => exact ⟨sound.blocked, fun gone => absurd gone here⟩
    next isQueue =>
      dsimp only
      split
      next => exact ⟨by simp [same, present], fun gone => absurd gone here⟩
      next stays =>
        have ended : line.alive = false := Bool.eq_false_iff.mpr stays
        exact ⟨by simp [same], fun _ => ⟨isQueue, ended⟩⟩

/-- A turn does what the messages ask for. -/
theorem wants_turn : (line.turn outlives).wants = line.wants := by
  unfold turn
  split
  · rfl
  · split
    next input queue isQueue =>
      unfold wants
      rw [isQueue, List.foldl_cons]
      cases input <;> rfl
    next isQueue =>
      dsimp only
      split <;> rfl

theorem Sound.turns
    (sound : Sound outlives line)
    (count : Nat) :
    Sound outlives ((InputLine.turn outlives)^[count] line) ∧
      ((InputLine.turn outlives)^[count] line).queue = line.queue.drop count ∧
      ((InputLine.turn outlives)^[count] line).wants = line.wants ∧
      ((InputLine.turn outlives)^[count] line).world = line.world := by
  induction count with
  | zero => exact ⟨sound, rfl, rfl, rfl⟩
  | succ count inductionHypothesis =>
      obtain ⟨soundThere, queue, wants, world⟩ := inductionHypothesis
      rw [Function.iterate_succ_apply']
      refine ⟨soundThere.turn, ?_, wants_turn.trans wants, world_turn.trans world⟩
      rw [soundThere.queue_turn, queue, List.tail_drop]

/-- The thread that has nothing left to do, and whose connection has ended, leaves. -/
theorem exited_turn
    (noMessage : line.queue = [])
    (ended : line.alive = false) :
    (line.turn outlives).exited = true := by
  unfold turn
  split
  next gone => exact gone
  next =>
    rw [noMessage]
    simp [ended]

/-- What is left when the thread has settled. -/
theorem Sound.settle
    (sound : Sound outlives line) :
    (line.settle outlives).world = line.world ∧
      (line.settle outlives).blocked = (line.wants && (line.alive || outlives)) := by
  obtain ⟨-, empty, -, worldThere⟩ := sound.turns line.queue.length
  obtain ⟨settled, queue, wants, world⟩ := sound.turns (line.queue.length + 1)
  rw [List.drop_eq_nil_of_le (Nat.le_refl _)] at empty
  rw [List.drop_eq_nil_of_le (Nat.le_succ _)] at queue
  have mode : ((InputLine.turn outlives)^[line.queue.length + 1] line).blockInputMode =
      line.wants := by
    rw [← wants, InputLine.wants, queue, List.foldl_nil]
  unfold InputLine.settle
  refine ⟨world, ?_⟩
  rw [settled.blocked, mode]
  cases isAlive : line.alive with
  | true =>
      have present : ((InputLine.turn outlives)^[line.queue.length + 1] line).exited = false := by
        rw [Bool.eq_false_iff]
        intro gone
        have ended := (settled.exited gone).2
        rw [alive, world, ← alive, isAlive] at ended
        cases ended
      rw [present, Bool.not_false, Bool.true_or]
  | false =>
      have gone : ((InputLine.turn outlives)^[line.queue.length + 1] line).exited = true := by
        rw [Function.iterate_succ_apply']
        refine exited_turn empty ?_
        rw [alive, worldThere]
        exact isAlive
      rw [gone, Bool.not_true, Bool.false_or]

/-! ## Blocking over a run -/

variable (outlives) in
/-- While input is blocked, or will be once the messages are taken, neither permission is
withdrawn, and the connection does not end if the block stays. -/
def Unwithdrawn (line : InputLine) : Event → Prop
  | .switchPermission _ name enabled =>
      line.world.phase = .running → (line.settle outlives).blocked = true →
        enabled = true ∨ name ≠ "keyboard" ∧ name ≠ "block_input"
  | .finish _ =>
      line.alive = true → (line.settle outlives).blocked = true → outlives = false
  | _ => True

theorem Sound.permitted_iff
    (sound : Sound outlives line) :
    line.Permitted outlives ↔
      (line.wants = true → (line.alive || outlives) = true →
        line.alive = true ∧ line.world.blocking.keyboard = true ∧
          line.world.blocking.blockInput = true) := by
  obtain ⟨world, blocked⟩ := sound.settle
  unfold Permitted alive
  rw [world, blocked, Bool.and_eq_true, and_imp]
  rfl

theorem wants_through (after : World) :
    (line.through after).wants = after.blocking.inputs.foldl listen line.wants :=
  List.foldl_append

theorem Sound.through
    (sound : Sound outlives line)
    (isAlive : line.alive = true)
    (after : World) :
    Sound outlives (line.through after) where
  blocked := sound.blocked
  exited gone := absurd isAlive (by simp [(sound.exited gone).2])

theorem alive_of_running
    (running : line.world.phase = .running) :
    line.alive = true := by
  simp [alive, Blocking.alive, World.blocking, running]

theorem Sound.step
    (sound : Sound outlives line)
    (event : Event) :
    Sound outlives (line.step outlives event) := by
  cases event with
  | option env o =>
      dsimp only [InputLine.step]
      split
      next serves => exact sound.through (alive_of_running serves.1) _
      next => exact sound
  | switchPermission env name enabled =>
      dsimp only [InputLine.step]
      split
      next running => exact sound.through (alive_of_running running) _
      next => exact sound
  | finish env =>
      dsimp only [InputLine.step]
      split
      next isAlive => exact sound.through isAlive _
      next => exact sound
  | turn => exact sound.turn

theorem Sound.permitted_through
    {after : World}
    {blocking : Blocking}
    (sound : Sound outlives line)
    (isAlive : line.alive = true)
    (is : after.blocking = blocking) :
    (line.through after).Permitted outlives ↔
      (blocking.inputs.foldl listen line.wants = true → (blocking.alive || outlives) = true →
        blocking.alive = true ∧ blocking.keyboard = true ∧ blocking.blockInput = true) := by
  rw [(sound.through isAlive after).permitted_iff, wants_through, ← is]
  rfl

/-- An option of the peer blocks input only with both permissions. -/
theorem Sound.permitted_option
    (sound : Sound outlives line)
    (permitted : line.Permitted outlives)
    (isAlive : line.alive = true)
    (env : Env)
    (o : OptionMessage) :
    (line.through (line.world.cleared.updateOptions env o)).Permitted outlives := by
  rw [sound.permitted_through isAlive (World.blocking_updateOptions env _ o)]
  have before := sound.permitted_iff.mp permitted
  unfold Blocking.afterOption
  split
  · exact before
  · split
    next both =>
      intro _ _
      exact ⟨isAlive, Bool.and_eq_true_iff.mp both⟩
    next => exact before

theorem Sound.permitted_switch
    (sound : Sound outlives line)
    (permitted : line.Permitted outlives)
    (isAlive : line.alive = true)
    (env : Env)
    (name : String)
    (enabled : Bool) :
    (line.through (line.world.cleared.switchPermission env name enabled)).Permitted outlives ↔
      ((line.settle outlives).blocked = true →
        enabled = true ∨ name ≠ "keyboard" ∧ name ≠ "block_input") := by
  have blocked : (line.settle outlives).blocked = line.wants := by
    rw [sound.settle.2, isAlive, Bool.true_or, Bool.and_true]
  rw [sound.permitted_through isAlive (World.blocking_switchPermission env _ name enabled),
    blocked]
  have before := sound.permitted_iff.mp permitted
  change (line.wants = true → (line.alive || outlives) = true → line.alive = true ∧
    (if name = "keyboard" then enabled else line.world.blocking.keyboard) = true ∧
      (if name = "block_input" then enabled else line.world.blocking.blockInput) = true) ↔ _
  rw [isAlive, Bool.true_or] at before ⊢
  refine imp_congr_right fun wants => ?_
  obtain ⟨-, keyboard, blockInput⟩ := before wants rfl
  rw [keyboard, blockInput]
  cases enabled with
  | true => simp
  | false => simp

theorem Sound.permitted_finish
    (sound : Sound outlives line)
    (isAlive : line.alive = true)
    (env : Env) :
    (line.through (line.world.cleared.finish env)).Permitted outlives ↔
      ((line.settle outlives).blocked = true → outlives = false) := by
  have blocked : (line.settle outlives).blocked = line.wants := by
    rw [sound.settle.2, isAlive, Bool.true_or, Bool.and_true]
  rw [sound.permitted_through isAlive (World.blocking_finish env _), blocked]
  change (line.wants = true → (false || outlives) = true → false = true ∧ _) ↔ _
  refine imp_congr_right fun _ => ?_
  cases outlives with
  | true => simp
  | false => simp

/-- From a state where a block is permitted, the next state is one exactly if the step withdraws
nothing that the block needs. -/
theorem Sound.decides
    (sound : Sound outlives line)
    (permitted : line.Permitted outlives)
    (event : Event) :
    (line.step outlives event).Permitted outlives ↔ Unwithdrawn outlives line event := by
  cases event with
  | option env o =>
      refine iff_of_true ?_ trivial
      dsimp only [InputLine.step]
      split
      next serves => exact sound.permitted_option permitted (alive_of_running serves.1) env o
      next => exact permitted
  | switchPermission env name enabled =>
      dsimp only [InputLine.step, Unwithdrawn]
      split
      next running =>
        rw [sound.permitted_switch permitted (alive_of_running running)]
        exact (true_imp_iff.symm.trans (imp_congr_left (iff_of_true trivial running)))
      next notRunning => exact iff_of_true permitted fun running => absurd running notRunning
  | finish env =>
      dsimp only [InputLine.step, Unwithdrawn]
      split
      next isAlive =>
        rw [sound.permitted_finish isAlive]
        exact (true_imp_iff.symm.trans (imp_congr_left (iff_of_true trivial isAlive)))
      next ended => exact iff_of_true permitted fun isAlive => absurd isAlive ended
  | turn =>
      refine iff_of_true ?_ trivial
      change (line.turn outlives).Permitted outlives
      rw [sound.turn.permitted_iff, wants_turn, alive, world_turn]
      exact sound.permitted_iff.mp permitted

/-- Once the input thread has taken its messages, the input of the host is blocked only by a
connection that is there and has both permissions.  This holds throughout a run exactly if no step
withdraws a permission, or ends the connection where blocks stay, while input is blocked or about
to be. -/
theorem blocked_only_if_permitted
    (outlives : Bool)
    (world : World)
    (events : List Event) :
    (∀ before, before <+: events →
        (Lib.run (step outlives) { world } before).Permitted outlives) ↔
      Lib.Along (step outlives) (Unwithdrawn outlives) { world } events := by
  have initially : Sound outlives { world } := ⟨rfl, fun gone => absurd gone Bool.false_ne_true⟩
  have permitted : Permitted outlives { world } :=
    initially.permitted_iff.mpr fun wants => absurd wants Bool.false_ne_true
  exact Lib.always_iff (Sound outlives) (fun _ event sound => sound.step event)
    (fun _ event sound permitted => sound.decides permitted event) initially permitted

/-- A Windows desktop, with everything else as on the plain host. -/
def windowsEnv : Env := { Env.plain with build := ⟨.windows, false, false⟩ }

/-- A connection that has logged in and has every permission. -/
def servedWorld : World :=
  (World.start windowsEnv Host.empty 1 (.v4 0) ⟨[], []⟩ none).modify fun conn =>
    { conn with authorized := true }

/-- The keyboard is withdrawn while input is blocked.  Input stays blocked, and the peer cannot
even have it unblocked. -/
theorem block_outlasts_permission :
    ¬Permitted false (Lib.run (step false) { world := servedWorld }
        [.option windowsEnv { OptionMessage.empty with blockInput := some .yes },
          .switchPermission windowsEnv "keyboard" false,
          .option windowsEnv { OptionMessage.empty with blockInput := some .no }]) := by
  unfold Permitted
  decide

end InputLine

end Server
end OneDesk
