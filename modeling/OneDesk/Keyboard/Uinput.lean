import OneDesk.Keyboard.Keys
import OneDesk.Lib.Checked
import OneDesk.Lib.Since
import Mathlib.Data.List.Basic

/-!
# The virtual keyboard of the uinput service

`src/server/uinput.rs`: the messages of a client press and release keys of a virtual device.  A
key is named by a table, by a character that may imply Shift, or by a raw code with an offset.
-/

namespace OneDesk
namespace Keyboard
namespace Uinput

open OneDesk.Lib

/-! ## The tables -/

/-- `enigo::Key`: the keys that the input service presses, and the others. -/
inductive EnigoKey
  | key (key : Key)
  | command
  | superKey
  | windows
  | volumeUp
  | volumeDown
  | mute
  deriving DecidableEq

/-- `evdev::Key`, as far as a table names it. -/
inductive EvdevKey
  | leftAlt | backspace | capsLock | leftCtrl | delete | down | endKey | esc | f1 | f10 | f11
  | f12 | f2 | f3 | f4 | f5 | f6 | f7 | f8 | f9 | home | left | leftMeta | option | pageDown
  | pageUp | enter | right | leftShift | space | tab | up | kp0 | kp1 | kp2 | kp3 | kp4 | kp5
  | kp6 | kp7 | kp8 | kp9 | cancel | clear | pause | katakana | hangeul | hanja | select | print
  | sysrq | insert | help | sleep | scrollLock | numLock | rightMeta | compose | kpAsterisk
  | kpPlus | kpMinus | kpComma | kpSlash | kpEqual | kpEnter | rightAlt | rightCtrl | rightShift
  | a | b | c | d | e | f | g | h | i | j | k | l | m | n | o | p | q | r | s | t | u | v | w | x
  | y | z | digit0 | digit1 | digit2 | digit3 | digit4 | digit5 | digit6 | digit7 | digit8
  | digit9 | grave | minus | equal | leftBrace | rightBrace | backslash | comma | dot | slash
  | semicolon | apostrophe
  deriving DecidableEq

/-- `KEY_MAP` -/
def keyMap : List (Key × EvdevKey) :=
  [(.alt, .leftAlt), (.backspace, .backspace), (.capsLock, .capsLock), (.control, .leftCtrl),
    (.delete, .delete), (.downArrow, .down), (.endKey, .endKey), (.escape, .esc), (.f1, .f1),
    (.f10, .f10), (.f11, .f11), (.f12, .f12), (.f2, .f2), (.f3, .f3), (.f4, .f4), (.f5, .f5),
    (.f6, .f6), (.f7, .f7), (.f8, .f8), (.f9, .f9), (.home, .home), (.leftArrow, .left),
    (.metaKey, .leftMeta), (.option, .option), (.pageDown, .pageDown), (.pageUp, .pageUp),
    (.returnKey, .enter), (.rightArrow, .right), (.shift, .leftShift), (.space, .space),
    (.tab, .tab), (.upArrow, .up), (.numpad0, .kp0), (.numpad1, .kp1), (.numpad2, .kp2),
    (.numpad3, .kp3), (.numpad4, .kp4), (.numpad5, .kp5), (.numpad6, .kp6), (.numpad7, .kp7),
    (.numpad8, .kp8), (.numpad9, .kp9), (.cancel, .cancel), (.clear, .clear), (.alt, .leftAlt),
    (.pause, .pause), (.kana, .katakana), (.hangul, .hangeul), (.hanja, .hanja),
    (.select, .select), (.print, .print), (.snapshot, .sysrq), (.insert, .insert),
    (.helpKey, .help), (.sleep, .sleep), (.scroll, .scrollLock), (.numLock, .numLock),
    (.rWin, .rightMeta), (.apps, .compose), (.multiply, .kpAsterisk), (.add, .kpPlus),
    (.subtract, .kpMinus), (.decimal, .kpComma), (.divide, .kpSlash), (.equals, .kpEqual),
    (.numpadEnter, .kpEnter), (.rightAlt, .rightAlt), (.rightControl, .rightCtrl),
    (.rightShift, .rightShift)]

/-- `KEY_MAP_LAYOUT`, with whether Shift is implied. -/
def keyMapLayout : List (Char × EvdevKey × Bool) :=
  [('a', .a, false), ('b', .b, false), ('c', .c, false), ('d', .d, false), ('e', .e, false),
    ('f', .f, false), ('g', .g, false), ('h', .h, false), ('i', .i, false), ('j', .j, false),
    ('k', .k, false), ('l', .l, false), ('m', .m, false), ('n', .n, false), ('o', .o, false),
    ('p', .p, false), ('q', .q, false), ('r', .r, false), ('s', .s, false), ('t', .t, false),
    ('u', .u, false), ('v', .v, false), ('w', .w, false), ('x', .x, false), ('y', .y, false),
    ('z', .z, false), ('0', .digit0, false), ('1', .digit1, false), ('2', .digit2, false),
    ('3', .digit3, false), ('4', .digit4, false), ('5', .digit5, false), ('6', .digit6, false),
    ('7', .digit7, false), ('8', .digit8, false), ('9', .digit9, false), ('\x60', .grave, false),
    ('-', .minus, false), ('=', .equal, false), ('[', .leftBrace, false),
    (']', .rightBrace, false), ('\x5c', .backslash, false), (',', .comma, false),
    ('.', .dot, false), ('/', .slash, false), (';', .semicolon, false),
    ('\x27', .apostrophe, false), ('A', .a, true), ('B', .b, true), ('C', .c, true),
    ('D', .d, true), ('E', .e, true), ('F', .f, true), ('G', .g, true), ('H', .h, true),
    ('I', .i, true), ('J', .j, true), ('K', .k, true), ('L', .l, true), ('M', .m, true),
    ('N', .n, true), ('O', .o, true), ('P', .p, true), ('Q', .q, true), ('R', .r, true),
    ('S', .s, true), ('T', .t, true), ('U', .u, true), ('V', .v, true), ('W', .w, true),
    ('X', .x, true), ('Y', .y, true), ('Z', .z, true), (')', .digit0, true), ('!', .digit1, true),
    ('@', .digit2, true), ('#', .digit3, true), ('$', .digit4, true), ('%', .digit5, true),
    ('^', .digit6, true), ('&', .digit7, true), ('*', .digit8, true), ('(', .digit9, true),
    ('~', .grave, true), ('_', .minus, true), ('+', .equal, true), ('\x7b', .leftBrace, true),
    ('\x7d', .rightBrace, true), ('|', .backslash, true), ('<', .comma, true), ('>', .dot, true),
    ('?', .slash, true), (':', .semicolon, true), ('\x22', .apostrophe, true)]

/-- `map_key`; nothing for a key that cannot be mapped. -/
def mapKey : EnigoKey → Option (EvdevKey × Bool)
  | .key key =>
      match keyMap.lookup key with
      | some mapped => some (mapped, false)
      | none =>
          match key with
          | .layout chr => keyMapLayout.lookup chr
          | _ => none
  | _ => none

/-! ## The device -/

/-- The codes of keys, and the codes that a device is created with. -/
structure Evdev where
  /-- `evdev::Key::code` -/
  code : EvdevKey → BitVec 16
  /-- Whether `create_uinput_keyboard` registers a code. -/
  registered : BitVec 16 → Bool
  /-- The keys with a name are registered. -/
  named : ∀ key, registered (code key) = true

/-- What `get_led_state` tells. -/
structure Leds where
  capsl : Bool
  numl : Bool
  deriving DecidableEq

/-- `VirtualDevice` -/
structure VirtualDevice where
  /-- The keys that are held. -/
  held : BitVec 16 → Bool
  /-- What `get_led_state` returns, if it does. -/
  leds : Option Leds
  /-- Whether `get_key_state` returns. -/
  readable : Bool

/-- The subtraction of a raw code is below zero. -/
inductive Underflow
  | rawCode (code : BitVec 16)
  deriving DecidableEq

/-- `DataKeyboard` -/
inductive DataKeyboard
  | sequence (seq : String)
  | keyDown (key : EnigoKey)
  | keyUp (key : EnigoKey)
  | keyClick (key : EnigoKey)
  | getKeyState (key : EnigoKey)
  deriving DecidableEq

/-- The code of a raw key on the device. -/
def rawCode (code : BitVec 16) : Checked Underflow (BitVec 16) :=
  .ensure (8 ≤ code) (.rawCode code) (code - 8)

section Service

variable (evdev : Evdev)

/-- `VirtualDevice::emit`: the device ignores codes that it was not created with. -/
def VirtualDevice.emit
    (keyboard : VirtualDevice)
    (events : List (Stroke (BitVec 16))) : VirtualDevice :=
  { keyboard with
    held := (events.filter fun event => evdev.registered event.key).foldl Stroke.apply
      keyboard.held }

/-- The answer to `GetKeyState`. -/
def keyState (keyboard : VirtualDevice) (key : EnigoKey) : Bool :=
  if key = .key .capsLock then
    match keyboard.leds with
    | some leds => leds.capsl
    | none => false
  else if key = .key .numLock then
    match keyboard.leds with
    | some leds => leds.numl
    | none => false
  else if keyboard.readable then
    match key with
    | .key .shift =>
        keyboard.held (evdev.code .leftShift) || keyboard.held (evdev.code .rightShift)
    | .key .control =>
        keyboard.held (evdev.code .leftCtrl) || keyboard.held (evdev.code .rightCtrl)
    | .key .alt => keyboard.held (evdev.code .leftAlt) || keyboard.held (evdev.code .rightAlt)
    | .key .metaKey =>
        keyboard.held (evdev.code .leftMeta) || keyboard.held (evdev.code .rightMeta)
    | _ => false
  else false

/-- `handle_keyboard`, with the answer that it sends. -/
def handleKeyboard (keyboard : VirtualDevice) :
    DataKeyboard → Checked Underflow (VirtualDevice × Option Bool)
  | .sequence _ => pure (keyboard, none)
  | .keyDown (.key (.raw code)) => do
      let code ← rawCode code
      return (keyboard.emit evdev [.down code], none)
  | .keyUp (.key (.raw code)) => do
      let code ← rawCode code
      return (keyboard.emit evdev [.up code], none)
  | .keyDown key =>
      match mapKey key with
      | some (mapped, isShift) =>
          let keyboard :=
            if isShift then keyboard.emit evdev [.down (evdev.code .leftShift)] else keyboard
          pure (keyboard.emit evdev [.down (evdev.code mapped)], none)
      | none => pure (keyboard, none)
  | .keyUp key =>
      match mapKey key with
      | some (mapped, _) => pure (keyboard.emit evdev [.up (evdev.code mapped)], none)
      | none => pure (keyboard, none)
  | .keyClick key =>
      match mapKey key with
      | some (mapped, _) =>
          pure (keyboard.emit evdev [.down (evdev.code mapped), .up (evdev.code mapped)], none)
      | none => pure (keyboard, none)
  | .getKeyState key => pure (keyboard, some (keyState evdev keyboard key))

/-- A virtual device handles some messages. -/
def handleAll (keyboard : VirtualDevice) (messages : List DataKeyboard) :
    Checked Underflow VirtualDevice :=
  messages.foldlM (fun keyboard message => Prod.fst <$> handleKeyboard evdev keyboard message)
    keyboard

end Service

/-! ## What a message does to a key -/

/-- The code that a key is pressed and released with. -/
def codeOf (evdev : Evdev) : EnigoKey → Option (BitVec 16)
  | .key (.raw code) => some (code - 8)
  | key => (mapKey key).map fun mapped => evdev.code mapped.1

/-- Shift is pressed together with a key. -/
def IsShifted (key : EnigoKey) : Prop :=
  ∃ mapped, mapKey key = some (mapped, true)

/-- A code is held after a message, whatever was held before. -/
def Presses (evdev : Evdev) (code : BitVec 16) : DataKeyboard → Prop
  | .keyDown key => codeOf evdev key = some code ∨ IsShifted key ∧ evdev.code .leftShift = code
  | _ => False

/-- A code is not held after a message, whatever was held before. -/
def LetsGo (evdev : Evdev) (code : BitVec 16) : DataKeyboard → Prop
  | .keyUp key => codeOf evdev key = some code
  | .keyClick key => (mapKey key).map (fun mapped => evdev.code mapped.1) = some code
  | _ => False

/-- The raw codes of a message have no code below zero on the device. -/
def InRange : DataKeyboard → Prop
  | .keyDown (.key (.raw code)) | .keyUp (.key (.raw code)) => 8 ≤ code
  | _ => True

variable {evdev : Evdev} {code : BitVec 16}

/-- Every press of a key is followed by a release of the same key. -/
def Balanced (messages : List DataKeyboard) : Prop :=
  ∀ before key after, messages = before ++ .keyDown key :: after → .keyUp key ∈ after

/-- No key is held after some messages, and no subtraction on a code is below zero. -/
def LeavesNothing
    (evdev : Evdev)
    (keyboard : VirtualDevice)
    (messages : List DataKeyboard) : Prop :=
  (∀ code, (handleAll evdev keyboard messages).value.held code = false) ∧
    (handleAll evdev keyboard messages).faults = []

/-- The raw codes are in range, and after each press of a key with Shift a message lets the
left Shift key go. -/
def Careful (evdev : Evdev) (messages : List DataKeyboard) : Prop :=
  (∀ message ∈ messages, InRange message) ∧
    ∀ before key after, messages = before ++ .keyDown key :: after → IsShifted key →
      ∃ message ∈ after, LetsGo evdev (evdev.code .leftShift) message

theorem held_emit_singleton
    (keyboard : VirtualDevice)
    (event : Stroke (BitVec 16))
    (registered : evdev.registered code = true) :
    (keyboard.emit evdev [event]).held code = true ↔
      event = .down code ∨ keyboard.held code = true ∧ event ≠ .up code := by
  unfold VirtualDevice.emit
  dsimp only
  by_cases known : evdev.registered event.key = true
  · simp only [List.filter_cons, known, if_true, List.filter_nil, List.foldl_cons, List.foldl_nil]
    exact event.apply_eq_true_iff keyboard.held code
  · simp only [List.filter_cons, known, Bool.false_eq_true, if_false, List.filter_nil,
      List.foldl_nil]
    have notDown : event ≠ .down code := by
      rintro rfl
      exact known registered
    have notUp : event ≠ .up code := by
      rintro rfl
      exact known registered
    simp [notDown, notUp]

theorem emit_cons
    (keyboard : VirtualDevice)
    (event : Stroke (BitVec 16))
    (events : List (Stroke (BitVec 16))) :
    keyboard.emit evdev (event :: events) =
      (keyboard.emit evdev [event]).emit evdev events := by
  unfold VirtualDevice.emit
  dsimp only
  rw [← List.singleton_append, List.filter_append, List.foldl_append]

theorem mapKey_raw (raw : BitVec 16) : mapKey (.key (.raw raw)) = none := rfl

/-- A key that is no raw code is pressed with the code that it is mapped to. -/
theorem codeOf_eq
    {key : EnigoKey}
    (notRaw : ∀ raw, key ≠ .key (.raw raw)) :
    codeOf evdev key = (mapKey key).map fun mapped => evdev.code mapped.1 := by
  unfold codeOf
  split
  · next raw => exact absurd rfl (notRaw raw)
  · rfl

/-- What is held of a code after a message. -/
theorem held_handleKeyboard_iff
    (keyboard : VirtualDevice)
    (message : DataKeyboard)
    (registered : evdev.registered code = true) :
    (handleKeyboard evdev keyboard message).value.1.held code = true ↔
      Presses evdev code message ∨ keyboard.held code = true ∧ ¬LetsGo evdev code message := by
  have one := fun keyboard event => held_emit_singleton keyboard event registered
  unfold handleKeyboard
  split
  · simp [Presses, LetsGo]
  · simp [rawCode, one, Presses, LetsGo, codeOf, IsShifted, mapKey_raw]
  · simp [rawCode, one, Presses, LetsGo, codeOf]
  · next key notRaw =>
      simp only [Presses, LetsGo, codeOf_eq fun raw same => notRaw raw same, IsShifted]
      cases isMapped : mapKey key with
      | none => simp
      | some mapped =>
          obtain ⟨mapped, isShift⟩ := mapped
          cases isShift with
          | false => simp [one]
          | true => simp [one, or_assoc]
  · next key notRaw =>
      simp only [Presses, LetsGo, codeOf_eq fun raw same => notRaw raw same]
      cases isMapped : mapKey key with
      | none => simp
      | some mapped => simp [one]
  · next key =>
      simp only [Presses, LetsGo]
      cases isMapped : mapKey key with
      | none => simp
      | some mapped =>
          simp only [Checked.value_pure, emit_cons _ _ [_], one]
          by_cases same : evdev.code mapped.1 = code
          · simp [same]
          · simp [same]
  · simp [Presses, LetsGo]

/-- Only raw codes that are out of range make a subtraction fail. -/
theorem faults_handleKeyboard_eq_nil_iff
    (keyboard : VirtualDevice)
    (message : DataKeyboard) :
    (Prod.fst <$> handleKeyboard evdev keyboard message).faults = [] ↔ InRange message := by
  have map : ∀ computation : Checked Underflow (VirtualDevice × Option Bool),
      (Prod.fst <$> computation).faults = computation.faults := fun computation =>
    List.append_nil _
  rw [map]
  unfold handleKeyboard
  split
  · simp [InRange]
  · simp [rawCode, InRange]
  · simp [rawCode, InRange]
  · next key notRaw =>
      have inRange : InRange (.keyDown key) := by
        unfold InRange
        split
        · next raw same =>
            cases same
            exact absurd rfl (notRaw raw)
        · next same => cases same
        · trivial
      simp only [inRange, iff_true]
      split <;> rfl
  · next key notRaw =>
      have inRange : InRange (.keyUp key) := by
        unfold InRange
        split
        · next same => cases same
        · next raw same =>
            cases same
            exact absurd rfl (notRaw raw)
        · trivial
      simp only [inRange, iff_true]
      split <;> rfl
  · split <;> simp [InRange]
  · simp [InRange]

/-- A code that the device was not created with is left alone. -/
theorem held_handleKeyboard_of_unregistered
    (keyboard : VirtualDevice)
    (message : DataKeyboard)
    (unregistered : evdev.registered code = false) :
    (handleKeyboard evdev keyboard message).value.1.held code = keyboard.held code := by
  have one : ∀ (keyboard : VirtualDevice) (event : Stroke (BitVec 16)),
      (keyboard.emit evdev [event]).held code = keyboard.held code := by
    intro keyboard event
    unfold VirtualDevice.emit
    by_cases known : evdev.registered event.key = true
    · have other : code ≠ event.key := by
        rintro rfl
        rw [known] at unregistered
        cases unregistered
      cases event <;> simp_all [Stroke.apply, Stroke.key]
    · simp [known]
  unfold handleKeyboard
  split
  · rfl
  · simp [rawCode, one]
  · simp [rawCode, one]
  · split
    · next isShift _ => cases isShift <;> simp [one]
    · rfl
  · split
    · simp [one]
    · rfl
  · split
    · simp [emit_cons _ _ [_], one]
    · rfl
  · rfl

/-! ## Every run -/

/-- A device with no key held. -/
def VirtualDevice.idle (leds : Option Leds) (readable : Bool) : VirtualDevice :=
  ⟨fun _ => false, leds, readable⟩

theorem value_handleAll_concat
    (keyboard : VirtualDevice)
    (messages : List DataKeyboard)
    (message : DataKeyboard) :
    (handleAll evdev keyboard (messages ++ [message])).value =
      (handleKeyboard evdev (handleAll evdev keyboard messages).value message).value.1 := by
  unfold handleAll
  rw [Checked.value_foldlM, Checked.value_foldlM, List.foldl_append]
  rfl

/-- A code is held exactly if it was pressed and not let go since. -/
theorem held_handleAll_iff
    (leds : Option Leds)
    (readable : Bool)
    (messages : List DataKeyboard)
    (code : BitVec 16) :
    (handleAll evdev (.idle leds readable) messages).value.held code = true ↔
      evdev.registered code = true ∧ Since (Presses evdev code) (LetsGo evdev code) messages := by
  induction messages using List.reverseRecOn with
  | nil =>
      constructor
      · intro held
        cases held
      · rintro ⟨_, since⟩
        exact absurd since (not_since_nil _ _)
  | append_singleton messages message inductionHypothesis =>
      rw [value_handleAll_concat, since_concat]
      cases registered : evdev.registered code with
      | true => simp [held_handleKeyboard_iff _ _ registered, inductionHypothesis, registered]
      | false =>
          simp [held_handleKeyboard_of_unregistered _ _ registered, inductionHypothesis,
            registered]

theorem faults_handleAll_eq_nil_iff
    (keyboard : VirtualDevice)
    (messages : List DataKeyboard) :
    (handleAll evdev keyboard messages).faults = [] ↔ ∀ message ∈ messages, InRange message :=
  Checked.faults_foldlM_eq_nil_iff _ faults_handleKeyboard_eq_nil_iff keyboard messages

/-- Where every press is followed by a release of the same key, only a Shift that was pressed
with a character stays held. -/
theorem exists_shifted_of_since
    {messages : List DataKeyboard}
    (balanced : Balanced messages)
    (since : Since (Presses evdev code) (LetsGo evdev code) messages) :
    ∃ before key after, messages = before ++ .keyDown key :: after ∧ IsShifted key ∧
      evdev.code .leftShift = code ∧ ∀ message ∈ after, ¬LetsGo evdev code message := by
  obtain ⟨before, entry, after, split, presses, unreleased⟩ := since
  cases entry with
  | keyDown key =>
      rcases presses with isCode | ⟨shifted, isCode⟩
      · exact absurd isCode (unreleased (.keyUp key) (balanced before key after split))
      · exact ⟨before, key, after, split, shifted, isCode, unreleased⟩
  | sequence seq => cases presses
  | keyUp key => cases presses
  | keyClick key => cases presses
  | getKeyState key => cases presses

/-- Where every press is followed by a release of the same key, exactly the careful runs leave
no key held and no subtraction below zero. -/
theorem leavesNothing_iff
    (evdev : Evdev)
    (leds : Option Leds)
    (readable : Bool)
    (messages : List DataKeyboard)
    (balanced : Balanced messages) :
    LeavesNothing evdev (.idle leds readable) messages ↔ Careful evdev messages := by
  unfold LeavesNothing Careful
  rw [faults_handleAll_eq_nil_iff]
  constructor
  · rintro ⟨released, inRange⟩
    refine ⟨inRange, fun before key after split shifted => ?_⟩
    by_contra kept
    have since : Since (Presses evdev (evdev.code .leftShift))
        (LetsGo evdev (evdev.code .leftShift)) messages :=
      ⟨before, .keyDown key, after, split, .inr ⟨shifted, rfl⟩,
        fun message member letsGo => kept ⟨message, member, letsGo⟩⟩
    have held := (held_handleAll_iff leds readable messages _).mpr ⟨evdev.named _, since⟩
    rw [released] at held
    cases held
  · rintro ⟨inRange, letsShiftGo⟩
    refine ⟨fun code => ?_, inRange⟩
    rw [← Bool.not_eq_true, held_handleAll_iff]
    rintro ⟨_, since⟩
    obtain ⟨before, key, after, split, shifted, rfl, unreleased⟩ :=
      exists_shifted_of_since balanced since
    obtain ⟨message, member, letsGo⟩ := letsShiftGo before key after split shifted
    exact unreleased message member letsGo

/-- The codes of two keys. -/
def someCodes : Evdev where
  code
    | .leftShift => 42
    | .a => 30
    | _ => 0
  registered := fun _ => true
  named := fun _ => rfl

/-- A key that is pressed and released. -/
def stroke (chr : Char) : List DataKeyboard :=
  [.keyDown (.key (.layout chr)), .keyUp (.key (.layout chr))]

theorem balanced_stroke (chr : Char) : Balanced (stroke chr) := by
  rintro (_ | ⟨first, _ | ⟨second, rest⟩⟩) key after split
  · cases split
    exact List.mem_cons_self
  · cases split
  · cases rest <;> cases split

/-- A small letter leaves nothing. -/
theorem leavesNothing_stroke_a : LeavesNothing someCodes (.idle none true) (stroke 'a') := by
  refine (leavesNothing_iff someCodes none true (stroke 'a') (balanced_stroke 'a')).mpr ⟨?_, ?_⟩
  · intro message member
    rcases List.mem_pair.mp member with rfl | rfl
    · trivial
    · trivial
  · rintro (_ | ⟨first, _ | ⟨second, rest⟩⟩) key after split ⟨mapped, shifted⟩
    · cases split
      cases shifted
    · cases split
    · cases rest <;> cases split

/-- A capital letter leaves the left Shift key held. -/
theorem capital_leaves_shift :
    Balanced (stroke 'A') ∧ ¬LeavesNothing someCodes (.idle none true) (stroke 'A') := by
  refine ⟨balanced_stroke 'A', fun leaves => ?_⟩
  have released := leaves.1 42
  revert released
  decide

end Uinput
end Keyboard
end OneDesk
