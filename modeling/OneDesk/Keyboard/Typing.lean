import OneDesk.Keyboard.Released

/-!
# What a host holds while codes are typed

In map mode and in translate mode a code is one key, which goes down or up between the clicks that
set the locks.  A text leaves nothing down, and neither do the records that are released in time.
-/

namespace OneDesk
namespace Keyboard

open OneDesk.Lib

variable {Board : Type} {system : System Board} {service : Service Board}
variable {may : Pressed → Prop}

/-- A service that goes on and holds no other keys than some. -/
structure AtMost (may : Pressed → Prop) (service : Service Board) : Prop where
  running : service.exiting = false
  held : ∀ key, service.Held key → may key

/-- What may be held after a key went down or up. -/
def afterStroke (may : Pressed → Prop) (pressed : Pressed) (down : Bool) (key : Pressed) : Prop :=
  if down then key = pressed ∨ may key else key ≠ pressed ∧ may key

/-- A press that is let go at once leaves nothing more. -/
theorem afterStroke_down_up
    {pressed key : Pressed}
    (allowed : afterStroke (afterStroke may pressed true) pressed false key) :
    may key := by
  obtain ⟨differs, same | allowed⟩ := allowed
  · exact absurd same differs
  · exact allowed

namespace AtMost

theorem mono
    {more : Pressed → Prop}
    (atMost : AtMost may service)
    (implies : ∀ key, may key → more key) :
    AtMost more service :=
  ⟨atMost.running, fun key isHeld => implies key (atMost.held key isHeld)⟩

/-- A key goes down or up. -/
theorem stroke
    (atMost : AtMost may service)
    (after : Service Board)
    (pressed : Pressed)
    (down : Bool)
    (exiting : after.exiting = service.exiting)
    (injected : after.injected =
      service.injected ++ [if down then .down pressed else .up pressed]) :
    AtMost (afterStroke may pressed down) after := by
  refine ⟨exiting.trans atMost.running, fun key isHeld => ?_⟩
  rw [Service.Held, injected] at isHeld
  cases down with
  | true => exact (heldDown_of_append_down isHeld).imp_right (atMost.held key)
  | false => exact (heldDown_of_append_up isHeld).imp_right (atMost.held key)

theorem still
    (atMost : AtMost may service)
    (after : Service Board)
    (exiting : after.exiting = service.exiting)
    (injected : after.injected = service.injected) :
    AtMost may after := by
  refine ⟨exiting.trans atMost.running, fun key isHeld => ?_⟩
  rw [Service.Held, injected] at isHeld
  exact atMost.held key isHeld

/-- A click leaves nothing down. -/
theorem keyClick
    (atMost : AtMost may service)
    (key : Key) :
    AtMost may (Keyboard.keyClick system key service) := by
  have pressed := atMost.stroke
    { service with injected := service.injected ++ [.down (.enigo key)] } (.enigo key) true rfl rfl
  refine (pressed.stroke (Keyboard.keyClick system key service) (.enigo key) false rfl rfl).mono ?_
  exact fun _ allowed => afterStroke_down_up allowed

theorem keyClick_if
    (atMost : AtMost may service)
    (condition : Bool)
    (key : Key) :
    AtMost may (if condition then Keyboard.keyClick system key service else service) := by
  split
  · exact atMost.keyClick key
  · exact atMost

theorem simulate_up
    (atMost : AtMost may service)
    (key : RdevKey) :
    AtMost may (simulate system key false service) :=
  (atMost.stroke (simulate system key false service) (.rdev key) false rfl rfl).mono
    fun _ allowed => allowed.2

theorem lockModes
    (atMost : AtMost may service)
    (event : KeyEvent) :
    AtMost may (Keyboard.lockModes system event service).2 := by
  unfold Keyboard.lockModes
  split
  · exact atMost
  · exact (atMost.keyClick_if _ .capsLock).keyClick_if _ .numLock

theorem drop
    (atMost : AtMost may service)
    (handler : LockModesHandler) :
    AtMost may (handler.drop system service) := by
  unfold LockModesHandler.drop
  split
  · exact atMost
  · exact (atMost.keyClick_if _ .capsLock).keyClick_if _ .numLock

theorem typeSequence
    (atMost : AtMost may service)
    (hotKey : Bool)
    (text : List Char) :
    AtMost may (Keyboard.typeSequence system hotKey text service) := by
  unfold Keyboard.typeSequence
  induction text generalizing service with
  | nil => exact atMost
  | cons chr text inductionHypothesis =>
      refine inductionHypothesis ?_
      dsimp only
      split
      · exact atMost.still _ rfl rfl
      · exact atMost.keyClick _

/-- What is typed as a text leaves nothing down. -/
theorem translate_seq
    (atMost : AtMost may service)
    {event : KeyEvent}
    {text : String}
    (isText : event.union = some (.seq text))
    (now : Nat) :
    AtMost may (Keyboard.translateKeyboardMode system event now service) := by
  have shift (condition : Bool) (key : RdevKey) {service : Service Board}
      (atMost : AtMost may service) :
      AtMost may (if condition then simulate system key false service else service) := by
    split
    · exact atMost.simulate_up key
    · exact atMost
  unfold Keyboard.translateKeyboardMode
  rw [isText]
  exact (shift _ _ (shift _ _ atMost)).typeSequence _ _

end AtMost

/-- The key that a service presses for a code. -/
def hostKey (system : System Board) (mode : KeyboardMode) (code : BitVec 32) : Pressed :=
  match mode, system.platform with
  | .map, .uinput | .map, .portal => .enigo (.raw (code.setWidth 16))
  | .map, .windows => .rdev (.rawKey (.scanCode code))
  | _, .windows =>
      if code >>> 16 = 0 then .rdev (.rawKey (.scanCode code))
      else .rdev (.rawKey (.winVirtualKeycode (code >>> 16)))
  | _, _ => .rdev (.rawKey (.linuxXorgKeycode code))

namespace AtMost

/-- A raw key is recorded, then it goes down or up. -/
theorem simRaw
    (atMost : AtMost may service)
    (rawKey : RawKey)
    (down : Bool)
    (now : Nat) :
    AtMost (afterStroke may (.rdev (.rawKey rawKey)) down)
      (simulate system (.rawKey rawKey) down
        (recordPressedKey (.rdevKey rawKey) down now service)) :=
  atMost.stroke _ _ down rfl (by cases down <;> rfl)

/-- A key that the keyboard takes goes down, or a key goes up. -/
theorem enigo
    (atMost : AtMost may service)
    (key : Key)
    (down : Bool) :
    AtMost (afterStroke may (.enigo key) down)
      (if down then (Keyboard.keyDown system key service).2
        else Keyboard.keyUp system key service) := by
  cases down with
  | true =>
      cases taken : (system.press service.board key).1 with
      | true => exact atMost.stroke _ _ true rfl (by simp [Keyboard.keyDown, taken])
      | false =>
          exact (atMost.still (Keyboard.keyDown system key service).2 rfl
            (by simp [Keyboard.keyDown, taken])).mono fun _ => .inr
  | false => exact atMost.stroke _ _ false rfl rfl

/-- In map mode a code is a key. -/
theorem mapKeyboardMode
    (atMost : AtMost may service)
    {event : KeyEvent}
    {code : BitVec 32}
    (isCode : event.chr = code)
    (now : Nat) :
    AtMost (afterStroke may (hostKey system .map code) event.down)
      (Keyboard.mapKeyboardMode system event now service) := by
  subst isCode
  unfold Keyboard.mapKeyboardMode hostKey
  cases isPlatform : system.platform with
  | windows =>
      simp only [simRdevRawkeyPosition, isPlatform, Platform.isLinux, Bool.false_eq_true, if_false]
      exact atMost.simRaw _ _ now
  | x11 =>
      simp only [simRdevRawkeyPosition, isPlatform, Platform.isLinux, if_true]
      exact atMost.simRaw _ _ now
  | uinput => exact atMost.enigo _ _
  | portal => exact atMost.enigo _ _

/-- In translate mode a code is a key, too. -/
theorem translate_chr
    (atMost : AtMost may service)
    {event : KeyEvent}
    {code : BitVec 32}
    (isCode : event.union = some (.chr code))
    (now : Nat) :
    AtMost (afterStroke may (hostKey system .translate code) event.down)
      (Keyboard.translateKeyboardMode system event now service) := by
  unfold Keyboard.translateKeyboardMode hostKey
  rw [isCode]
  cases isPlatform : system.platform with
  | windows =>
      simp only [translateProcessCode, if_true]
      by_cases low : code >>> 16 = 0
      · simp only [low, if_true, simRdevRawkeyPosition, isPlatform, Platform.isLinux,
          Bool.false_eq_true, if_false]
        exact atMost.simRaw _ _ now
      · simp only [low, if_false, simRdevRawkeyVirtual]
        exact atMost.simRaw _ _ now
  | _ =>
      simp only [reduceCtorEq, if_false, simRdevRawkeyPosition, isPlatform, Platform.isLinux,
        if_true]
      exact atMost.simRaw _ _ now

/-- What is typed is typed between the clicks that set the locks. -/
theorem handleKey
    {event : KeyEvent}
    {now : Nat}
    (running : service.exiting = false)
    (typed : AtMost may
      (keyboardMode system event now (Keyboard.lockModes system event service).2)) :
    AtMost may (Keyboard.handleKey system event now service) := by
  unfold Keyboard.handleKey
  rw [if_neg (by simp [running])]
  dsimp only
  split
  · exact typed
  · exact typed.drop _

/-- A code goes down or up. -/
theorem handleKey_chr
    (atMost : AtMost may service)
    (event : KeyEvent)
    {mode : KeyboardMode}
    (isMode : event.mode = some mode)
    (typing : mode = .map ∨ mode = .translate)
    {code : BitVec 32}
    (isCode : event.union = some (.chr code))
    (now : Nat) :
    AtMost (afterStroke may (hostKey system mode code) event.down)
      (Keyboard.handleKey system event now service) := by
  have chr : event.chr = code := by rw [KeyEvent.chr, isCode]
  apply handleKey atMost.running
  unfold keyboardMode
  rw [isMode]
  rcases typing with rfl | rfl
  · exact (atMost.lockModes event).mapKeyboardMode chr now
  · exact (atMost.lockModes event).translate_chr isCode now

/-- A text leaves nothing down. -/
theorem handleKey_seq
    (atMost : AtMost may service)
    {event : KeyEvent}
    (isMode : event.mode = some .translate)
    {text : String}
    (isText : event.union = some (.seq text))
    (now : Nat) :
    AtMost may (Keyboard.handleKey system event now service) := by
  apply handleKey atMost.running
  unfold keyboardMode
  rw [isMode]
  exact (atMost.lockModes event).translate_seq isText now

/-- Records that are too old are released. -/
theorem fixKeys
    (force : Bool)
    (now : Nat)
    (entries : List (KeysDown × Nat))
    (atMost : AtMost may service) :
    AtMost may (Keyboard.fixKeys system force now entries service) := by
  induction entries generalizing service with
  | nil => exact atMost
  | cons entry entries inductionHypothesis =>
      unfold Keyboard.fixKeys
      split
      · refine inductionHypothesis ?_
        have forgotten : AtMost may (recordPressedKey entry.1 false now service) :=
          atMost.still _ rfl rfl
        unfold releaseRecordKey
        split
        · exact forgotten.simulate_up _
        · split
          case h_1 key isKey =>
            have released := forgotten.stroke
              (Keyboard.keyUp system key (recordPressedKey entry.1 false now service))
              (.enigo key) false rfl rfl
            exact released.mono fun _ allowed => allowed.2
          case h_2 => exact forgotten
      · exact inductionHypothesis atMost

end AtMost

end Keyboard
end OneDesk
