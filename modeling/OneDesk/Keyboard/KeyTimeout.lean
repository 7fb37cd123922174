import OneDesk.Keyboard.Released

/-!
# The timeout of pressed keys

`fix_key_down_timeout` releases what the service has a record of.  A function key leaves before
its modifiers are released, so it must press none.
-/

namespace OneDesk
namespace Keyboard

open OneDesk.Lib

variable {Board : Type} (system : System Board) {service : Service Board}

/-! ## Function keys -/

/-- Every modifier of an event is down already. -/
def NothingToPress (modifiers : List ControlValue) (service : Service Board) : Prop :=
  ∀ ck ∈ modifiers, ∀ key, controlKeyValueToKey ck = some key →
    isPressed system service key = true ∨ key = .alt ∧ isAltgrPressed system service = true

/-- The event is a function key in legacy mode that goes down. -/
def KeyEvent.isFunctionKey (event : KeyEvent) : Bool :=
  event.down && decide (event.mode ≠ some .map ∧ event.mode ≠ some .translate) &&
    match event.union with
    | some (.controlKey ck) => Keyboard.isFunctionKey ck
    | _ => false

/-- If a function key goes down, its modifiers are down already. -/
def NoneLeftDown (service : Service Board) : Event → Prop
  | .key event _ =>
      event.isFunctionKey = true →
        NothingToPress system event.modifiers
          (releaseUnpressedModifiers system event (lockModes system event service).2)
  | _ => True

theorem NothingToPress.pressModifiers
    {modifiers : List ControlValue}
    (nothing : NothingToPress system modifiers service)
    (toRelease : List Key) :
    Keyboard.pressModifiers system modifiers (toRelease, service) = (toRelease, service) := by
  induction modifiers with
  | nil => rfl
  | cons ck modifiers inductionHypothesis =>
      have rest := inductionHypothesis fun other member =>
        nothing other (List.mem_cons_of_mem _ member)
      unfold Keyboard.pressModifiers
      cases isKey : controlKeyValueToKey ck with
      | none => exact rest
      | some key =>
          have down := nothing ck List.mem_cons_self key isKey
          dsimp only
          rw [if_pos (by simpa using down)]
          exact rest

namespace Covered

/-! ## Modes -/

theorem legacyKeyboardMode
    (covered : Covered service [])
    (event : KeyEvent)
    (now : Nat)
    (noneLeft : ∀ ck, event.union = some (.controlKey ck) → isFunctionKey ck = true →
      event.down = true →
      NothingToPress system event.modifiers (releaseUnpressedModifiers system event service)) :
    Covered (Keyboard.legacyKeyboardMode system event now service) [] := by
  have synced := covered.syncModifiers system event
  unfold Keyboard.legacyKeyboardMode
  dsimp only
  split
  next ck isControl =>
    split
    next isFunction =>
      -- nothing was pressed, so nothing is left to release
      have none : (Keyboard.syncModifiers system event service).1 = [] := by
        unfold Keyboard.syncModifiers
        split
        next down => rw [(noneLeft ck isControl isFunction down).pressModifiers]
        next => rfl
      rw [none] at synced
      exact synced
    next => exact (synced.controlKey system ck event.down now).releaseKeys system
  next chr isChr => exact (synced.chr system chr event.down now).releaseKeys system
  next chr isUnicode =>
    refine releaseKeys system ?_
    unfold processUnicode
    split
    · exact synced
    · exact synced.still rfl fun _ => id
  next text isSeq =>
    have typed : Covered
        (keySequence system text (Keyboard.syncModifiers system event service).2)
        (Keyboard.syncModifiers system event service).1 := synced.still rfl fun _ => id
    exact typed.releaseKeys system
  next => exact synced.releaseKeys system

theorem mapKeyboardMode
    (covered : Covered service [])
    (event : KeyEvent)
    (now : Nat) :
    Covered (Keyboard.mapKeyboardMode system event now service) [] := by
  have wayland : Covered
      (if event.down then (Keyboard.keyDown system (.raw (event.chr.setWidth 16)) service).2
      else Keyboard.keyUp system (.raw (event.chr.setWidth 16)) service) [] := by
    split
    · exact covered.press system (.inl rfl)
    · exact covered.keyUp system _
  unfold Keyboard.mapKeyboardMode
  split
  · exact wayland
  · exact wayland
  · exact covered.simRaw system _ event.down now

theorem typeSequence
    (covered : Covered service [])
    (hotKey : Bool)
    (text : List Char) :
    Covered (Keyboard.typeSequence system hotKey text service) [] := by
  unfold Keyboard.typeSequence
  induction text generalizing service with
  | nil => exact covered
  | cons chr text inductionHypothesis =>
      refine inductionHypothesis ?_
      dsimp only
      split
      · exact covered.still rfl fun _ => id
      · exact covered.keyClick system _

theorem simulateWin2winHotkey
    (covered : Covered service [])
    (code : BitVec 32)
    (down : Bool) :
    Covered (Keyboard.simulateWin2winHotkey system code down service) [] := by
  unfold Keyboard.simulateWin2winHotkey
  dsimp only
  split
  · exact covered.still rfl fun _ => id
  · cases down with
    | true => exact covered.down (.scan _) rfl (fun _ => id) (.inl rfl)
    | false => exact covered.up (.scan _) rfl fun _ _ => id

theorem translateKeyboardMode
    (covered : Covered service [])
    (event : KeyEvent)
    (now : Nat) :
    Covered (Keyboard.translateKeyboardMode system event now service) [] := by
  unfold Keyboard.translateKeyboardMode
  split
  next text isSeq =>
    have released : ∀ {service : Service Board}, Covered service [] → ∀ (key : RdevKey) (c : Bool),
        Covered (if c then simulate system key false service else service) [] := by
      intro service covered key c
      split
      · exact covered.simulate_up system key
      · exact covered
    exact typeSequence system (released (released covered .shiftLeft _) .shiftRight _) _ _
  next code isChr =>
    split
    · unfold translateProcessCode
      split
      · exact covered.simRaw system _ event.down now
      · exact covered.simRaw system _ event.down now
    · exact covered.simRaw system _ event.down now
  next code isHotkey =>
    split
    · exact covered.simulateWin2winHotkey system code event.down
    · exact covered
  next => exact covered

/-! ## Lights -/

theorem keyClick_if
    (covered : Covered service [])
    (changed : Bool)
    (key : Key) :
    Covered (if changed then Keyboard.keyClick system key service else service) [] := by
  split
  · exact covered.keyClick system key
  · exact covered

theorem lockModes
    (covered : Covered service [])
    (event : KeyEvent) :
    Covered (Keyboard.lockModes system event service).2 [] := by
  unfold Keyboard.lockModes
  split
  · exact covered
  · exact (covered.keyClick_if system _ .capsLock).keyClick_if system _ .numLock

theorem drop
    (covered : Covered service [])
    (handler : LockModesHandler) :
    Covered (handler.drop system service) [] := by
  unfold LockModesHandler.drop
  split
  · exact covered
  · exact (covered.keyClick_if system _ .capsLock).keyClick_if system _ .numLock

/-! ## Records that are released -/

/-- A record is gone before its key goes up, and the key that goes up is the one it is read as. -/
theorem releaseRecordKey
    (covered : Covered service [])
    (record : KeysDown)
    (now : Nat) :
    Covered
      (Keyboard.releaseRecordKey system record (recordPressedKey record false now service)) [] := by
  have removed : ∀ key, record.pressed = some key → ∀ other, other ≠ key →
      service.Recorded other → (recordPressedKey record false now service).Recorded other := by
    intro key reads other differs recorded
    exact recorded.remove (fun same => differs (Option.some.inj (same.symm.trans reads))) now
  unfold Keyboard.releaseRecordKey
  split
  next rawKey => exact covered.up (.rdev (.rawKey rawKey)) rfl (removed _ rfl)
  next number =>
    split
    next key isKey =>
      refine covered.up (.enigo key) rfl (removed _ ?_)
      rw [KeysDown.pressed, isKey, Option.map_some]
    next isKey =>
      refine covered.still rfl fun other recorded => recorded.remove ?_ now
      simp [KeysDown.pressed, isKey]

theorem fixKeys
    (covered : Covered service [])
    (force : Bool)
    (now : Nat)
    (entries : List (KeysDown × Nat)) :
    Covered (Keyboard.fixKeys system force now entries service) [] := by
  induction entries generalizing service with
  | nil => exact covered
  | cons entry entries inductionHypothesis =>
      unfold Keyboard.fixKeys
      split
      · exact inductionHypothesis (covered.releaseRecordKey system entry.1 now)
      · exact inductionHypothesis covered

/-! ## The service -/

theorem handleKey
    (covered : Covered service [])
    (event : KeyEvent)
    (now : Nat)
    (noneLeft : NoneLeftDown system service (.key event now)) :
    Covered (Keyboard.handleKey system event now service) [] := by
  have locked := covered.lockModes system event
  have handled :
      Covered (keyboardMode system event now (Keyboard.lockModes system event service).2) [] := by
    unfold keyboardMode
    split
    next => exact locked.mapKeyboardMode system event now
    next => exact locked.translateKeyboardMode system event now
    next notMap notTranslate =>
      refine locked.legacyKeyboardMode system event now fun ck isControl isFunction down => ?_
      refine noneLeft ?_
      simp only [KeyEvent.isFunctionKey, isControl, isFunction, down, Bool.true_and, Bool.and_true,
        decide_eq_true_eq]
      exact ⟨notMap, notTranslate⟩
  unfold Keyboard.handleKey
  split
  · exact covered
  · dsimp only
    split
    · exact handled
    · exact handled.drop system _

theorem step
    (event : Event)
    (covered : Covered service [])
    (noneLeft : NoneLeftDown system service event) :
    Covered (Keyboard.step system service event) [] := by
  cases event with
  | key event now => exact covered.handleKey system event now noneLeft
  | timer now => exact covered.fixKeys system false now _
  | exit now =>
      have exiting : Covered { service with exiting := true } [] :=
        covered.still rfl fun _ => id
      change Covered (fixKeyDownTimeoutAtExit system now service) []
      unfold fixKeyDownTimeoutAtExit
      split
      · exact covered
      · exact exiting.fixKeys system true now _

/-- Whatever is held during a run has a record, loose keys apart. -/
theorem run
    (board : Board)
    (events : List Event)
    (noneLeft : Along (Keyboard.step system) (NoneLeftDown system) { board } events) :
    Covered (Lib.run (Keyboard.step system) { board } events) [] := by
  refine run_invariant (Covered · []) (fun service event => step system event) ?_ noneLeft
  intro key _ isHeld
  cases isHeld

end Covered

/-! ## A forced fix -/

/-- A record that is gone stays gone, and every record of the loop is gone after it. -/
theorem mem_fixKeys_force
    {now : Nat}
    {entries : List (KeysDown × Nat)}
    {entry : KeysDown × Nat}
    (stays : entry ∈ (fixKeys system true now entries service).keysDown) :
    entry ∈ service.keysDown ∧ entry.1 ∉ entries.map Prod.fst := by
  induction entries generalizing service with
  | nil => exact ⟨stays, List.not_mem_nil⟩
  | cons first entries inductionHypothesis =>
      unfold fixKeys at stays
      rw [if_pos (by simp)] at stays
      obtain ⟨member, absent⟩ := inductionHypothesis stays
      have released : (releaseRecordKey system first.1
          (recordPressedKey first.1 false now service)).keysDown =
          service.keysDown.filter fun other => other.1 ≠ first.1 := by
        unfold releaseRecordKey
        split
        · rfl
        · split <;> rfl
      rw [released, List.mem_filter] at member
      refine ⟨member.1, ?_⟩
      rw [List.map_cons, List.mem_cons, not_or]
      exact ⟨by simpa using member.2, absent⟩

/-- A loose key is not released by a record. -/
theorem held_releaseRecordKey
    {key : Pressed}
    (loose : key.isLoose = true)
    (record : KeysDown) :
    (releaseRecordKey system record service).Held key ↔ service.Held key := by
  have differs : ∀ other : Pressed, other.isLoose = false → key ≠ other := by
    rintro other notLoose rfl
    exact absurd loose (by simp [notLoose])
  have kept : ∀ other : Pressed, other.isLoose = false →
      (heldDown (service.injected ++ [.up other]) key = true ↔ service.Held key) := by
    intro other notLoose
    rw [heldDown_append_up, decide_eq_true (differs other notLoose), Bool.true_and]
    exact Iff.rfl
  unfold releaseRecordKey
  split
  next rawKey => exact kept (.rdev (.rawKey rawKey)) rfl
  next number =>
    split
    next named isKey =>
      exact kept (.enigo named) (by simp [Pressed.isLoose, isNamed_of_recordKeyToKey isKey])
    next => exact Iff.rfl

theorem held_fixKeys
    {key : Pressed}
    (loose : key.isLoose = true)
    (force : Bool)
    (now : Nat)
    (entries : List (KeysDown × Nat)) :
    (fixKeys system force now entries service).Held key ↔ service.Held key := by
  induction entries generalizing service with
  | nil => exact Iff.rfl
  | cons entry entries inductionHypothesis =>
      unfold fixKeys
      split
      · rw [inductionHypothesis, held_releaseRecordKey system loose]
        exact Iff.rfl
      · exact inductionHypothesis

/-- A forced fix releases every key but the loose ones. -/
theorem Covered.fixed
    (covered : Covered service [])
    (now : Nat)
    (key : Pressed) :
    (fixKeyDownTimeout system true now service).Held key ↔
      key.isLoose = true ∧ service.Held key := by
  cases loose : key.isLoose with
  | true =>
      rw [fixKeyDownTimeout, held_fixKeys system loose, eq_self_iff_true, true_and]
  | false =>
      rw [eq_false (show ¬(false = true) by decide), false_and, iff_false]
      intro isHeld
      rcases covered.fixKeys system true now service.keysDown key loose isHeld with
        recorded | pending
      · obtain ⟨entry, member, -⟩ := recorded
        obtain ⟨member, absent⟩ := mem_fixKeys_force system member
        exact absent (List.mem_map_of_mem member)
      · obtain ⟨other, member, -⟩ := pending
        exact absurd member List.not_mem_nil

/-- In a run where no function key leaves a modifier down, a forced fix leaves no key held exactly
if no loose key is held before it.  The record of a control key is read as its key, the record of
a character as none. -/
theorem fixKeyDownTimeout_releases
    (system : System Board)
    (board : Board)
    (events : List Event)
    (now : Nat)
    (noneLeft : Along (step system) (NoneLeftDown system) { board } events) :
    ((∀ key, ¬(fixKeyDownTimeout system true now (run (step system) { board } events)).Held key) ↔
      ∀ key, key.isLoose = true → ¬(run (step system) { board } events).Held key) ∧
      (∀ ck, recordKeyToKey (controlRecord ck) = controlKeyValueToKey ck) ∧
      ∀ chr, recordKeyToKey (chrRecord chr) = none := by
  have fixed := (Covered.run system board events noneLeft).fixed system now
  refine ⟨?_, recordKeyToKey_controlRecord, recordKeyToKey_chrRecord⟩
  constructor
  · intro released key loose isHeld
    exact released key ((fixed key).mpr ⟨loose, isHeld⟩)
  · intro noneHeld key stays
    obtain ⟨loose, isHeld⟩ := (fixed key).mp stays
    exact noneHeld key loose isHeld

/-- A keyboard that takes every key and reports none as down. -/
def quietSystem (platform : Platform) : System Unit where
  platform := platform
  state _ _ := false
  press _ _ := (true, ())
  release _ _ := ()
  click _ _ := ()
  type _ _ := ()
  simulate _ _ := ()
  typeChar _ _ _ := ()
  typeUnit _ _ := none
  simulateCode _ _ := ()
  vkToScancode _ := 0
  skipLedSyncRdevKey _ := true
  isNumpadRdevKey _ := false
  toUppercase text := text

/-- A control key that is down when the screen is locked goes up with a forced fix. -/
theorem fixKeyDownTimeout_releases_control :
    Along (step (quietSystem .x11)) (NoneLeftDown (quietSystem .x11)) { board := () }
        [.key ⟨true, some (.controlKey ControlKey.control.value), [], some .legacy⟩ 1,
          .key ⟨true, some (.controlKey ControlKey.lockScreen.value), [], some .legacy⟩ 2] ∧
      ((∀ key, ¬(fixKeyDownTimeout (quietSystem .x11) true 3
          (run (step (quietSystem .x11)) { board := () }
            [.key ⟨true, some (.controlKey ControlKey.control.value), [], some .legacy⟩ 1,
              .key ⟨true, some (.controlKey ControlKey.lockScreen.value), [], some .legacy⟩
                2])).Held key) ↔
        ∀ key, key.isLoose = true → ¬(run (step (quietSystem .x11)) { board := () }
            [.key ⟨true, some (.controlKey ControlKey.control.value), [], some .legacy⟩ 1,
              .key ⟨true, some (.controlKey ControlKey.lockScreen.value), [], some .legacy⟩
                2]).Held key) := by
  have noneLeft : Along (step (quietSystem .x11)) (NoneLeftDown (quietSystem .x11))
      { board := () }
      [.key ⟨true, some (.controlKey ControlKey.control.value), [], some .legacy⟩ 1,
        .key ⟨true, some (.controlKey ControlKey.lockScreen.value), [], some .legacy⟩ 2] :=
    ⟨fun _ _ member => absurd member List.not_mem_nil,
      fun _ _ member => absurd member List.not_mem_nil, trivial⟩
  exact ⟨noneLeft, (fixKeyDownTimeout_releases (quietSystem .x11) () _ 3 noneLeft).1⟩

/-- A character that is down under X11 stays down: its record is read as no key. -/
theorem character_stays_down :
    (fixKeyDownTimeout (quietSystem .x11) true 2
        (run (step (quietSystem .x11)) { board := () }
          [.key ⟨true, some (.chr 97), [], some .legacy⟩ 1])).Held (.enigo (.layout 'a')) ∧
      KeysDown.enigoKey (chrRecord 97) ∈
        ((run (step (quietSystem .x11)) { board := () }
          [.key ⟨true, some (.chr 97), [], some .legacy⟩ 1]).keysDown.map Prod.fst) ∧
      recordKeyToKey (chrRecord 97) = none ∧ charValueToKey 97 = .layout 'a' := by
  unfold Service.Held
  decide

end Keyboard
end OneDesk
