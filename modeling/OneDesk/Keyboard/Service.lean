import OneDesk.Keyboard.Keys

/-!
# The input service

`src/server/input_service.rs`: how a host puts key events into effect, on Windows, on X11 and on
Wayland, where a server types through uinput and a user through the remote desktop portal.
What a key does to the keyboard and what the keyboard says of a key is up to the system.

Changes of the desktop on Windows, pauses and threads are left out: a key is locked for one event
at a time, and what a thread does comes as an event of its own.
-/

namespace OneDesk
namespace Keyboard

open OneDesk.Lib

/-! ## Events -/

inductive KeyboardMode where
  | legacy
  | map
  | translate
  | auto
  deriving DecidableEq

/-- The key of a key event. -/
inductive KeyUnion where
  | controlKey (value : ControlValue)
  | chr (code : BitVec 32)
  | unicode (code : BitVec 32)
  | seq (text : String)
  | win2winHotkey (code : BitVec 32)
  deriving DecidableEq

/-- `KeyEvent`; a mode that is not known is `none`. -/
structure KeyEvent where
  down : Bool
  union : Option KeyUnion
  modifiers : List ControlValue := []
  mode : Option KeyboardMode := some .legacy
  deriving DecidableEq

/-- `KeyEvent::chr` -/
def KeyEvent.chr (event : KeyEvent) : BitVec 32 :=
  match event.union with
  | some (.chr code) => code
  | _ => 0

/-! ## The system -/

inductive Platform where
  | windows
  | x11
  | uinput
  | portal
  deriving DecidableEq

def Platform.isLinux : Platform → Bool
  | .windows => false
  | _ => true

/-- What can be pressed: a key of enigo, a key of rdev, or a scan code. -/
inductive Pressed where
  | enigo (key : Key)
  | rdev (key : RdevKey)
  | scan (code : Nat)
  deriving DecidableEq

/-- The system that a host types on: enigo, rdev, and the keyboard behind them. -/
structure System (Board : Type) where
  platform : Platform
  /-- `get_key_state` -/
  state : Board → Key → Bool
  /-- `key_down`: whether it was taken, and the keyboard after it. -/
  press : Board → Key → Bool × Board
  /-- `key_up` -/
  release : Board → Key → Board
  /-- `key_click` -/
  click : Board → Key → Board
  /-- `key_sequence` -/
  type : Board → String → Board
  /-- `rdev::simulate` -/
  simulate : Board → Stroke RdevKey → Board
  /-- `rdev::simulate_char` when the flag is set, `rdev::simulate_unicode` when it is not. -/
  typeChar : Board → Bool → Char → Board
  /-- `rdev::simulate_key_unicode`: it types a unit, or it fails. -/
  typeUnit : Board → BitVec 16 → Option Board
  /-- `rdev::simulate_code` -/
  simulateCode : Board → Stroke Nat → Board
  /-- `rdev::vk_to_scancode` -/
  vkToScancode : BitVec 16 → Nat
  /-- Whether `keycode_to_rdev_key` gives a key that needs no lights. -/
  skipLedSyncRdevKey : BitVec 32 → Bool
  /-- Whether `keycode_to_rdev_key` gives a key of the number pad. -/
  isNumpadRdevKey : BitVec 32 → Bool
  /-- `str::to_uppercase` -/
  toUppercase : String → String

/-- The service: the keyboard, the keys that it has recorded as down and when, and whether it is
about to exit. -/
structure Service (Board : Type) where
  board : Board
  keysDown : List (KeysDown × Nat) := []
  exiting : Bool := false
  /-- The keys that enigo and rdev were told to press and to release.  The source keeps no such
  record. -/
  injected : List (Stroke Pressed) := []

variable {Board : Type}
variable (system : System Board)

/-! ## Keys one by one -/

def keyDown (key : Key) (service : Service Board) : Bool × Service Board :=
  let pressed := system.press service.board key
  (pressed.1,
    { service with
      board := pressed.2
      injected := if pressed.1 then service.injected ++ [.down (.enigo key)]
        else service.injected })

def keyUp (key : Key) (service : Service Board) : Service Board :=
  { service with
    board := system.release service.board key
    injected := service.injected ++ [.up (.enigo key)] }

def keyClick (key : Key) (service : Service Board) : Service Board :=
  { service with
    board := system.click service.board key
    injected := service.injected ++ [.down (.enigo key)] ++ [.up (.enigo key)] }

def keySequence (text : String) (service : Service Board) : Service Board :=
  { service with board := system.type service.board text }

/-- `simulate_` -/
def simulate (key : RdevKey) (down : Bool) (service : Service Board) : Service Board :=
  { service with
    board := system.simulate service.board (if down then .down key else .up key)
    injected := service.injected ++ [if down then .down (.rdev key) else .up (.rdev key)] }

def simulateCode (code : Nat) (down : Bool) (service : Service Board) : Service Board :=
  { service with
    board := system.simulateCode service.board (if down then .down code else .up code)
    injected := service.injected ++ [if down then .down (.scan code) else .up (.scan code)] }

def getKeyState (service : Service Board) (key : Key) : Bool :=
  system.state service.board key

/-- Of a modifier, either of its two keys counts. -/
def getModifierState (service : Service Board) (key : Key) : Bool :=
  getKeyState system service key ||
    match key with
    | .shift => getKeyState system service .rightShift
    | .control => getKeyState system service .rightControl
    | .alt => getKeyState system service .rightAlt
    | .metaKey => getKeyState system service .rWin
    | .rightShift => getKeyState system service .shift
    | .rightControl => getKeyState system service .control
    | .rightAlt => getKeyState system service .alt
    | .rWin => getKeyState system service .metaKey
    | _ => false

def isPressed (service : Service Board) (key : Key) : Bool :=
  getModifierState system service key

def recordPressedKey
    (record : KeysDown)
    (down : Bool)
    (now : Nat)
    (service : Service Board) : Service Board :=
  let others := service.keysDown.filter fun entry => entry.1 ≠ record
  { service with keysDown := if down then others ++ [(record, now)] else others }

/-! ## Keys that were pressed too long ago -/

def releaseRecordKey (record : KeysDown) (service : Service Board) : Service Board :=
  match record with
  | .rdevKey key => simulate system (.rawKey key) false service
  | .enigoKey record =>
      match recordKeyToKey record with
      | some key => keyUp system key service
      | none => service

def keyTimeout : Nat := 360000

/-- The loop of `fix_key_down_timeout` over the records; times are in milliseconds. -/
def fixKeys (force : Bool) (now : Nat) : List (KeysDown × Nat) → Service Board → Service Board
  | [], service => service
  | (record, time) :: entries, service =>
      if force || decide (keyTimeout ≤ now - time) then
        -- the record is gone before it is read
        fixKeys force now entries
          (releaseRecordKey system record (recordPressedKey record false now service))
      else fixKeys force now entries service

def fixKeyDownTimeout (force : Bool) (now : Nat) (service : Service Board) : Service Board :=
  fixKeys system force now service.keysDown service

def fixKeyDownTimeoutAtExit (now : Nat) (service : Service Board) : Service Board :=
  if service.exiting then service
  else fixKeyDownTimeout system true now { service with exiting := true }

/-! ## Modifiers -/

def fixModifier
    (modifiers : List ControlValue)
    (key0 : ControlKey)
    (key1 : Key)
    (service : Service Board) : Service Board :=
  if getModifierState system service key1 && !modifiers.contains key0.value then
    -- AltGr
    if system.platform = .windows ∧ key0 = .control ∧ getModifierState system service .alt then
      service
    else keyUp system key1 service
  else service

/-- The keys that `fix_modifiers` looks at: the key of the event itself is not one of them, the
modifier that has to be listed, and the key. -/
def modifierKeys : List (ControlKey × ControlKey × Key) :=
  [(.shift, .shift, .shift), (.rShift, .shift, .rightShift), (.alt, .alt, .alt),
    (.rAlt, .alt, .rightAlt), (.control, .control, .control),
    (.rControl, .control, .rightControl), (.metaKey, .metaKey, .metaKey),
    (.rWin, .metaKey, .rWin)]

def fixModifiers
    (modifiers : List ControlValue)
    (ck : ControlValue)
    (service : Service Board) : Service Board :=
  modifierKeys.foldl (fun service entry =>
    if ck = entry.1.value then service
    else fixModifier system modifiers entry.2.1 entry.2.2 service) service

def getControlKeyValue (event : KeyEvent) : ControlValue :=
  match event.union with
  | some (.controlKey value) => value
  | _ => -1

def releaseUnpressedModifiers (event : KeyEvent) (service : Service Board) : Service Board :=
  fixModifiers system event.modifiers (getControlKeyValue event) service

/-- Only on Linux is AltGr asked for. -/
def isAltgrPressed (service : Service Board) : Bool :=
  system.platform.isLinux &&
    service.keysDown.any fun entry =>
      entry.1 = .rdevKey (.linuxXorgKeycode ControlKey.rAlt.value)

/-- Press a modifier that is not pressed yet; what has to be released is collected. -/
def pressModifiers :
    List ControlValue → List Key × Service Board → List Key × Service Board
  | [], after => after
  | ck :: modifiers, (toRelease, service) =>
      match controlKeyValueToKey ck with
      | none => pressModifiers modifiers (toRelease, service)
      | some key =>
          if isPressed system service key ||
              (decide (key = .alt) && isAltgrPressed system service) then
            pressModifiers modifiers (toRelease, service)
          else pressModifiers modifiers (toRelease ++ [key], (keyDown system key service).2)

def syncModifiers (event : KeyEvent) (service : Service Board) : List Key × Service Board :=
  if event.down then
    pressModifiers system event.modifiers ([], releaseUnpressedModifiers system event service)
  else ([], service)

def releaseKeys (toRelease : List Key) (service : Service Board) : Service Board :=
  toRelease.foldl (fun service key => keyUp system key service) service

/-! ## Legacy mode -/

def processControlKey
    (ck : ControlValue)
    (down : Bool)
    (service : Service Board) : Service Board :=
  match controlKeyValueToKey ck with
  | none => service
  | some key => if down then (keyDown system key service).2 else keyUp system key service

def needToUppercase (service : Service Board) : Bool :=
  getModifierState system service .shift || getModifierState system service .capsLock

def processChr (chr : BitVec 32) (down : Bool) (service : Service Board) : Service Board :=
  let key := charValueToKey chr
  if down then
    let pressed := keyDown system key service
    if pressed.1 then pressed.2
    else
      match charOfValue chr with
      | none => pressed.2
      | some chr =>
          let text := chr.toString
          keySequence system
            (if needToUppercase system pressed.2 then system.toUppercase text else text) pressed.2
  else keyUp system key service

def processUnicode (chr : BitVec 32) (service : Service Board) : Service Board :=
  match charOfValue chr with
  | none => service
  | some chr => keySequence system chr.toString service

/-- Keys that a thread of their own puts into effect. -/
def isFunctionKey (ck : ControlValue) : Bool :=
  ck = ControlKey.ctrlAltDel.value || ck = ControlKey.lockScreen.value

def legacyKeyboardMode
    (event : KeyEvent)
    (now : Nat)
    (service : Service Board) : Service Board :=
  let synced := syncModifiers system event service
  match event.union with
  | some (.controlKey ck) =>
      -- a function key is the end of it, whatever was pressed
      if isFunctionKey ck then synced.2
      else
        let recorded := recordPressedKey (.enigoKey (controlRecord ck)) event.down now synced.2
        releaseKeys system synced.1 (processControlKey system ck event.down recorded)
  | some (.chr chr) =>
      let recorded := recordPressedKey (.enigoKey (chrRecord chr)) event.down now synced.2
      releaseKeys system synced.1 (processChr system chr event.down recorded)
  | some (.unicode chr) => releaseKeys system synced.1 (processUnicode system chr synced.2)
  | some (.seq text) => releaseKeys system synced.1 (keySequence system text synced.2)
  | _ => releaseKeys system synced.1 synced.2

/-! ## The other modes -/

def simRdevRawkeyPosition
    (code : BitVec 32)
    (down : Bool)
    (now : Nat)
    (service : Service Board) : Service Board :=
  let rawKey := if system.platform.isLinux then RawKey.linuxXorgKeycode code
    else RawKey.scanCode code
  simulate system (.rawKey rawKey) down (recordPressedKey (.rdevKey rawKey) down now service)

def simRdevRawkeyVirtual
    (code : BitVec 32)
    (down : Bool)
    (now : Nat)
    (service : Service Board) : Service Board :=
  let rawKey := RawKey.winVirtualKeycode code
  simulate system (.rawKey rawKey) down (recordPressedKey (.rdevKey rawKey) down now service)

def mapKeyboardMode
    (event : KeyEvent)
    (now : Nat)
    (service : Service Board) : Service Board :=
  match system.platform with
  | .uinput | .portal =>
      -- no record is kept of these keys
      let key := Key.raw (event.chr.setWidth 16)
      if event.down then (keyDown system key service).2 else keyUp system key service
  | _ => simRdevRawkeyPosition system event.chr event.down now service

def translateProcessCode
    (code : BitVec 32)
    (down : Bool)
    (now : Nat)
    (service : Service Board) : Service Board :=
  if code >>> 16 = 0 then simRdevRawkeyPosition system code down now service
  else simRdevRawkeyVirtual system (code >>> 16) down now service

/-- Only on Windows is a sequence typed as a hotkey. -/
def isHotKeyModifiersDown (service : Service Board) : Bool :=
  decide (system.platform = .windows) &&
    [Key.control, .rightControl, .alt, .rightAlt, .metaKey, .rWin].any (getKeyState system service)

def simulateWin2winHotkey
    (code : BitVec 32)
    (down : Bool)
    (service : Service Board) : Service Board :=
  let scan := system.vkToScancode ((code >>> 16).setWidth 16)
  match if down then system.typeUnit service.board (code.setWidth 16) else none with
  | some board => { service with board := board }
  | none => simulateCode system scan down service

/-- Type the characters of a sequence one by one. -/
def typeSequence
    (hotKey : Bool)
    (text : List Char)
    (service : Service Board) : Service Board :=
  text.foldl (fun service chr =>
    if system.platform = .windows then
      { service with board := system.typeChar service.board hotKey chr }
    else keyClick system (.layout chr) service) service

def translateKeyboardMode
    (event : KeyEvent)
    (now : Nat)
    (service : Service Board) : Service Board :=
  match event.union with
  | some (.seq text) =>
      let hotKey := isHotKeyModifiersDown system service
      let left := if !hotKey && getModifierState system service .shift then
        simulate system .shiftLeft false service else service
      let right := if !hotKey && getModifierState system left .rightShift then
        simulate system .shiftRight false left else left
      typeSequence system hotKey text.toList right
  | some (.chr code) =>
      if system.platform = .windows then translateProcessCode system code event.down now service
      else simRdevRawkeyPosition system code event.down now service
  | some (.win2winHotkey code) =>
      if system.platform = .windows then simulateWin2winHotkey system code event.down service
      else service
  | _ => service

/-! ## Lights -/

/-- `LockModesHandler` -/
structure LockModesHandler where
  capsLockChanged : Bool
  numLockChanged : Bool
  deriving DecidableEq

def isLegacyMode (event : KeyEvent) : Bool :=
  event.mode.getD .legacy = .legacy

def shouldDisableNumlock (event : KeyEvent) : Bool :=
  match event.union with
  | some (.controlKey ck) => isLegacyMode event && numpadKeyMap.contains ck
  | _ => false

/-- `LockModesHandler::new`: lights are brought into line with those of the peer. -/
def newLockModes
    (event : KeyEvent)
    (isNumpadKey : Bool)
    (service : Service Board) : LockModesHandler × Service Board :=
  let capsLockChanged := event.modifiers.contains ControlKey.capsLock.value !=
    getKeyState system service .capsLock
  let service := if capsLockChanged then keyClick system .capsLock service else service
  let numLockChanged :=
    if isNumpadKey then
      event.modifiers.contains ControlKey.numLock.value != getKeyState system service .numLock
    else isLegacyMode event && decide (system.platform = .windows) &&
      shouldDisableNumlock event && getKeyState system service .numLock
  (⟨capsLockChanged, numLockChanged⟩,
    if numLockChanged then keyClick system .numLock service else service)

/-- The lights go back, except under uinput. -/
def LockModesHandler.drop (handler : LockModesHandler) (service : Service Board) :
    Service Board :=
  if system.platform = .uinput then service
  else
    let service := if handler.capsLockChanged then keyClick system .capsLock service else service
    if handler.numLockChanged then keyClick system .numLock service else service

def skipLedSyncControlKey : ControlKey → Bool
  | .control | .rControl | .metaKey | .shift | .rShift | .alt | .rAlt | .tab | .returnKey => true
  | _ => false

def isNumpadControlKey : ControlKey → Bool
  | .numpad0 | .numpad1 | .numpad2 | .numpad3 | .numpad4 | .numpad5 | .numpad6 | .numpad7
  | .numpad8 | .numpad9 | .numpadEnter => true
  | _ => false

/-- Whether an event needs its lights, and if so whether its key is on the number pad. -/
def needsLights (event : KeyEvent) : Option Bool :=
  match event.union with
  | some (.unicode _) | some (.seq _) => some false
  | some (.controlKey ck) =>
      if skipLedSyncControlKey (ControlValue.known ck) then none
      else some (isNumpadControlKey (ControlValue.known ck))
  | some (.chr code) =>
      if isLegacyMode event then some false
      else if system.skipLedSyncRdevKey code then none
      else some (system.isNumpadRdevKey code)
  | _ => none

def lockModes
    (event : KeyEvent)
    (service : Service Board) : Option LockModesHandler × Service Board :=
  match needsLights system event with
  | none => (none, service)
  | some isNumpadKey =>
      let locked := newLockModes system event isNumpadKey service
      (some locked.1, locked.2)

/-! ## The service as a machine -/

def keyboardMode
    (event : KeyEvent)
    (now : Nat)
    (service : Service Board) : Service Board :=
  match event.mode with
  | some .map => mapKeyboardMode system event now service
  | some .translate => translateKeyboardMode system event now service
  | _ => legacyKeyboardMode system event now service

/-- `handle_key_` -/
def handleKey (event : KeyEvent) (now : Nat) (service : Service Board) : Service Board :=
  if service.exiting then service
  else
    let locked := lockModes system event service
    let handled := keyboardMode system event now locked.2
    match locked.1 with
    | none => handled
    | some handler => handler.drop system handled

/-- What happens to the service: a key event, the timer, or the end. -/
inductive Event where
  | key (event : KeyEvent) (now : Nat)
  | timer (now : Nat)
  | exit (now : Nat)
  deriving DecidableEq

def step (service : Service Board) : Event → Service Board
  | .key event now => handleKey system event now service
  | .timer now => fixKeyDownTimeout system false now service
  | .exit now => fixKeyDownTimeoutAtExit system now service

end Keyboard
end OneDesk
