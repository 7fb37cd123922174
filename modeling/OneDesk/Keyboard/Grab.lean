import OneDesk.Keyboard.Service
import OneDesk.Lib.Table

/-!
# The keys that a client has grabbed

`src/keyboard.rs`: a client turns what is typed into key events for its host, remembers the presses,
and releases what is left of them when the keyboard leaves its window.  A session may swap the
modifiers, and the connection of the host hands the events on to its input service.

The client types in map mode, or in translate mode under Linux, to a host that lets it type.
Legacy mode and the hotkeys of Windows are left out.
-/

namespace OneDesk
namespace Keyboard
namespace Grab

open OneDesk.Lib

/-! ## What is typed -/

/-- `rdev::Key`: the modifiers, the keys of the number pad, the keys that Caps Lock is for, and the
others. -/
inductive GrabKey
  | shiftLeft | shiftRight | controlLeft | controlRight | alt | altGr | metaLeft | metaRight
  | numpad (index : Nat)
  | letter (index : Nat)
  | other (index : Nat)
  deriving DecidableEq

/-- `is_modifier`; the keys of `MODIFIERS_STATE` are the same. -/
def GrabKey.isModifier : GrabKey → Bool
  | .numpad _ | .letter _ | .other _ => false
  | _ => true

/-- `is_numpad_rdev_key` -/
def GrabKey.isNumpad : GrabKey → Bool
  | .numpad _ => true
  | _ => false

/-- `is_letter_rdev_key` or `is_letter_rdev_key_ex` -/
def GrabKey.isLetter : GrabKey → Bool
  | .letter _ => true
  | _ => false

/-- `UnicodeInfo` -/
structure UnicodeInfo where
  name : Option String
  isDead : Bool
  deriving DecidableEq

/-- `rdev::Event` of a key. -/
structure LocalEvent where
  stroke : Stroke GrabKey
  positionCode : BitVec 32
  platformCode : BitVec 32
  unicode : Option UnicodeInfo
  deriving DecidableEq

/-- An event that would begin or end a character of its own. -/
def LocalEvent.isDead (event : LocalEvent) : Bool := event.unicode.any (·.isDead)

/-- Which locks are on, by `get_key_state`. -/
structure Locks where
  caps : Bool
  num : Bool

/-! ## Where a client runs -/

inductive ClientPlatform
  | windows
  | macos
  | linux
  deriving DecidableEq

/-- What the name of the platform of a peer is compared with. -/
inductive PeerPlatform
  | windows
  | macos
  | android
  | other
  deriving DecidableEq

/-- The tables of `rdev`. -/
structure Rdev where
  winScancodeToMacosIsoCode : BitVec 32 → Option (BitVec 32)
  winScancodeToMacosCode : BitVec 32 → Option (BitVec 32)
  winScancodeToAndroidKeyCode : BitVec 32 → Option (BitVec 32)
  winScancodeToLinuxCode : BitVec 32 → Option (BitVec 32)
  macosCodeToWinScancode : BitVec 32 → Option (BitVec 32)
  macosCodeToAndroidKeyCode : BitVec 32 → Option (BitVec 32)
  macosCodeToLinuxCode : BitVec 32 → Option (BitVec 32)
  linuxCodeToWinScancode : BitVec 32 → Option (BitVec 32)
  linuxCodeToMacosIsoCode : BitVec 32 → Option (BitVec 32)
  linuxCodeToMacosCode : BitVec 32 → Option (BitVec 32)
  linuxCodeToAndroidKeyCode : BitVec 32 → Option (BitVec 32)
  /-- `win_key_from_scancode`, `macos_key_from_code` and `linux_key_from_code`. -/
  keyFromCode : PeerPlatform → BitVec 32 → GrabKey
  /-- `win_scancode_from_key`, `macos_keycode_from_key` and `linux_keycode_from_key`. -/
  codeFromKey : PeerPlatform → GrabKey → Option (BitVec 32)

/-- What a client and its session go by while the keyboard is grabbed. -/
structure Session where
  rdev : Rdev
  platform : ClientPlatform
  peer : PeerPlatform
  /-- Whether `get_kb_layout_type` is `ISO`. -/
  iso : Bool
  /-- Toggle option `allow_swap_key`. -/
  allowSwapKey : Bool
  mode : KeyboardMode

/-- `MODIFIERS_STATE` and `TO_RELEASE`. -/
structure Client where
  modifiersState : GrabKey → Bool := fun _ => false
  toRelease : Table GrabKey LocalEvent := ∅

variable (session : Session)

/-! ## Key events -/

/-- The key code of `_map_keyboard_mode`. -/
def keycode (event : LocalEvent) : Option (BitVec 32) :=
  match session.platform, session.peer with
  | .windows, .windows =>
      if 255 < event.positionCode && event.positionCode >>> 8 != 0xE0 then none
      else some event.positionCode
  | .windows, .macos =>
      if session.iso then session.rdev.winScancodeToMacosIsoCode event.positionCode
      else session.rdev.winScancodeToMacosCode event.positionCode
  | .windows, .android => session.rdev.winScancodeToAndroidKeyCode event.positionCode
  | .windows, .other => session.rdev.winScancodeToLinuxCode event.positionCode
  | .macos, .windows => session.rdev.macosCodeToWinScancode event.platformCode
  | .macos, .macos => some event.platformCode
  | .macos, .android => session.rdev.macosCodeToAndroidKeyCode event.platformCode
  | .macos, .other => session.rdev.macosCodeToLinuxCode event.platformCode
  | .linux, .windows => session.rdev.linuxCodeToWinScancode event.positionCode
  | .linux, .macos =>
      if session.iso then session.rdev.linuxCodeToMacosIsoCode event.positionCode
      else session.rdev.linuxCodeToMacosCode event.positionCode
  | .linux, .android => session.rdev.linuxCodeToAndroidKeyCode event.positionCode
  | .linux, .other => some event.positionCode

/-- Whether a key goes down. -/
def LocalEvent.isPress (event : LocalEvent) : Bool :=
  match event.stroke with
  | .down _ => true
  | .up _ => false

def mapKeyboardMode (event : LocalEvent) : List KeyEvent :=
  ((keycode session event).map fun code =>
    { down := event.isPress, union := some (.chr code), mode := some session.mode }).toList

/-- `is_altgr` under Linux. -/
def isAltgr (event : LocalEvent) : Bool := event.platformCode = 0xFE03

/-- `try_fill_unicode` under Linux. -/
def tryFillUnicode (event : LocalEvent) : List KeyEvent :=
  match event.unicode.bind (·.name) with
  | some name =>
      if name = "" then []
      else [{ down := true, union := some (.seq name), mode := some session.mode }]
  | none => []

/-- `translate_keyboard_mode` under Linux. -/
def translateKeyboardMode (event : LocalEvent) : List KeyEvent :=
  if event.isDead then []
  else if event.stroke.key.isNumpad then mapKeyboardMode session event
  else if isAltgr event then []
  else
    let events := if event.isPress then tryFillUnicode session event else []
    if events.isEmpty then mapKeyboardMode session event else events

/-- The locks that a key event carries: `parse_add_lock_modes_modifiers` where the window tells
them, and `add_lock_modes_modifiers` where they are read. -/
def lockModifiers (key : GrabKey) (lockModes : Option (BitVec 32)) (locks : Locks) :
    List ControlValue :=
  let caps := match lockModes with
    | some modes => modes &&& (1 <<< 1) != 0
    | none => locks.caps
  let num := match lockModes with
    | some modes => modes &&& (1 <<< 2) != 0
    | none => locks.num
  (if key.isLetter && caps then [ControlKey.capsLock.value] else []) ++
    if key.isNumpad && num then [ControlKey.numLock.value] else []

/-- The key events of the mode. -/
def modeEvents (event : LocalEvent) : List KeyEvent :=
  match session.mode with
  | .map => mapKeyboardMode session event
  | .translate => translateKeyboardMode session event
  | _ => []

/-- The key events of `event_to_key_events`. -/
def keyEvents (event : LocalEvent) (lockModes : Option (BitVec 32)) (locks : Locks) :
    List KeyEvent :=
  if session.mode ≠ .translate ∨ event.stroke.key.isNumpad = true then
    (modeEvents session event).map fun keyEvent =>
      { keyEvent with
        modifiers := keyEvent.modifiers ++ lockModifiers event.stroke.key lockModes locks }
  else modeEvents session event

/-- `event_to_key_events`, as far as it changes the client. -/
def Client.remember (client : Client) (event : LocalEvent) : Client :=
  { modifiersState :=
      if event.stroke.key.isModifier then
        Function.update client.modifiersState event.stroke.key event.isPress
      else client.modifiersState
    toRelease :=
      match event.stroke with
      | .down key => client.toRelease.insert key event
      | .up key => client.toRelease.erase key }

/-- `is_long_press` -/
def Client.isLongPress (client : Client) (event : LocalEvent) : Bool :=
  event.isPress && event.stroke.key.isModifier && client.modifiersState event.stroke.key

/-! ## What a session sends -/

/-- The modifiers that are swapped in a code. -/
def swapKey : GrabKey → GrabKey
  | .controlLeft => .metaLeft
  | .metaLeft => .controlLeft
  | .controlRight => .metaLeft
  | .metaRight => .controlLeft
  | key => key

/-- The modifiers that are swapped among control keys. -/
def swapControlKey (value : ControlValue) : ControlValue :=
  match value.known with
  | .control => ControlKey.metaKey.value
  | .metaKey => ControlKey.control.value
  | .rControl => ControlKey.metaKey.value
  | .rWin => ControlKey.control.value
  | key => key.value

/-- The code that is swapped. -/
def swapCode (code : BitVec 32) : BitVec 32 :=
  (session.rdev.codeFromKey session.peer
    (swapKey (session.rdev.keyFromCode session.peer code))).getD 0

/-- `swap_modifier_key` -/
def swapModifierKey (event : KeyEvent) : KeyEvent :=
  if session.allowSwapKey then
    { event with
      union := match event.union with
        | some (.controlKey value) => some (.controlKey (swapControlKey value))
        | some (.chr code) => some (.chr (if code = 0 then code else swapCode session code))
        | union => union
      modifiers := event.modifiers.map swapControlKey }
  else event

/-! ## The connection of the host -/

/-- `is_modifier` of `src/common.rs` -/
def isModifierEvent (event : KeyEvent) : Bool :=
  match event.union with
  | some (.controlKey value) =>
      [ControlKey.alt, .shift, .control, .metaKey, .rAlt, .rShift, .rControl, .rWin].any
        (·.value == value)
  | _ => false

/-- Whether the code of an event is that of a modifier, by `keycode_to_rdev_key`. -/
def isModifierKey (isModifierCode : BitVec 32 → Bool) (event : KeyEvent) : Bool :=
  match event.mode with
  | some .map => isModifierCode event.chr
  | some .translate =>
      match event.union with
      | some (.chr code) => isModifierCode (code &&& 0xFFFF)
      | _ => false
  | _ => false

/-- The events that a connection and its input thread make of one, whose `press` is not set. -/
def connectionInput {Board : Type} (system : System Board) (isModifierCode : BitVec 32 → Bool)
    (event : KeyEvent) : List KeyEvent :=
  -- all down is handled as a press
  if system.platform.isLinux && event.down &&
      !(isModifierEvent event || isModifierKey isModifierCode event) then
    match event.union with
    | some (.unicode _) | some (.seq _) => [event]
    | _ => [{ event with down := true }, { event with down := false }]
  else [event]

/-! ## The client and its host -/

/-- The host: its system, and which codes `keycode_to_rdev_key` and `is_modifier` take for those of
modifiers. -/
structure Host (Board : Type) where
  system : System Board
  isModifierCode : BitVec 32 → Bool

/-- A client and the input service of its host. -/
structure Pair (Board : Type) where
  client : Client
  service : Service Board

inductive PairEvent
  /-- A key goes down or up in the window, or the keyboard repeats it. -/
  | typed (event : LocalEvent) (lockModes : Option (BitVec 32)) (locks : Locks) (now : Nat)
  /-- The keyboard leaves the window; a map gives its keys in some order. -/
  | leave (order : List GrabKey) (locks : Locks) (now : Nat)
  /-- The timer of the service. -/
  | timer (now : Nat)

namespace Pair

variable {Board : Type} (host : Host Board)

/-- The host gets a key event. -/
def deliver (now : Nat) (service : Service Board) (event : KeyEvent) : Service Board :=
  (connectionInput host.system host.isModifierCode event).foldl
    (fun service event => handleKey host.system event now service) service

/-- `process_event` -/
def processEvent (event : LocalEvent) (lockModes : Option (BitVec 32)) (locks : Locks) (now : Nat)
    (pair : Pair Board) : Pair Board :=
  if pair.client.isLongPress event then pair
  else
    { client := pair.client.remember event
      service := ((keyEvents session event lockModes locks).map (swapModifierKey session)).foldl
        (deliver host now) pair.service }

/-- The strokes by which `release_remote_keys` lets go of a key. -/
def releasing (key : GrabKey) : List (Stroke GrabKey) :=
  -- the host may hold Alt after the local window was switched
  if key = .alt ∨ key = .altGr then [.up key, .down key, .up key] else [.up key]

/-- One key of `release_remote_keys`. -/
def releaseKey (locks : Locks) (now : Nat) (saved : LocalEvent) (key : GrabKey)
    (pair : Pair Board) : Pair Board :=
  (releasing key).foldl
    (fun pair stroke => pair.processEvent session host { saved with stroke } none locks now) pair

/-- The loop of `release_remote_keys` over what was saved. -/
def releaseSaved (saved : Table GrabKey LocalEvent) (order : List GrabKey) (locks : Locks)
    (now : Nat) (pair : Pair Board) : Pair Board :=
  order.foldl
    (fun pair key =>
      match saved.lookup key with
      | some event => pair.releaseKey session host locks now event key
      | none => pair)
    pair

/-- `release_remote_keys` -/
def releaseRemoteKeys (order : List GrabKey) (locks : Locks) (now : Nat) (pair : Pair Board) :
    Pair Board :=
  releaseSaved session host pair.client.toRelease order locks now
    { pair with client := { pair.client with toRelease := ∅ } }

/-- One step. -/
def step (pair : Pair Board) : PairEvent → Pair Board
  | .typed event lockModes locks now => pair.processEvent session host event lockModes locks now
  | .leave order locks now => pair.releaseRemoteKeys session host order locks now
  | .timer now => { pair with service := Keyboard.step host.system pair.service (.timer now) }

end Pair

/-! ## What a client sends -/

/-- The session is in a mode that is modelled. -/
def Session.Typing (session : Session) : Prop :=
  session.mode = .map ∨ session.mode = .translate

/-- The event is that of a dead key, for which nothing is sent. -/
def silent (event : LocalEvent) : Bool := session.mode = .translate && event.isDead

/-- The code that is sent for a key, if any is. -/
def codeOf (event : LocalEvent) : Option (BitVec 32) :=
  if session.mode = .translate && !event.stroke.key.isNumpad && isAltgr event then none
  else (keycode session event).map fun code =>
    if session.allowSwapKey && code != 0 then swapCode session code else code

/-- What the session sends for an event. -/
def sent (event : LocalEvent) (lockModes : Option (BitVec 32)) (locks : Locks) : List KeyEvent :=
  (keyEvents session event lockModes locks).map (swapModifierKey session)

/-- A key event of the code of a key, or of a text that a press types in translate mode. -/
def Says (event : LocalEvent) (keyEvent : KeyEvent) : Prop :=
  keyEvent.mode = some session.mode ∧
    ((∃ code, codeOf session event = some code ∧ keyEvent.union = some (.chr code) ∧
        keyEvent.down = event.isPress) ∨
      session.mode = .translate ∧ event.isPress = true ∧
        ∃ text, keyEvent.union = some (.seq text))

section ClientSide

variable {session : Session} {event : LocalEvent} {keyEvent : KeyEvent}

/-- Swapping modifiers keeps the mode, whether the key goes down, and texts. -/
theorem swapModifierKey_spec (keyEvent : KeyEvent) :
    (swapModifierKey session keyEvent).mode = keyEvent.mode ∧
      (swapModifierKey session keyEvent).down = keyEvent.down ∧
      (∀ text, keyEvent.union = some (.seq text) →
        (swapModifierKey session keyEvent).union = some (.seq text)) ∧
      ∀ code, keyEvent.union = some (.chr code) →
        (swapModifierKey session keyEvent).union = some (.chr
          (if session.allowSwapKey && code != 0 then swapCode session code else code)) := by
  unfold swapModifierKey
  cases session.allowSwapKey with
  | false => simp
  | true =>
      exact ⟨rfl, rfl, fun text isText => by simp [isText], fun code isCode => by simp [isCode]⟩

/-- The code is a key in the mode of the session. -/
theorem mem_mapKeyboardMode (member : keyEvent ∈ mapKeyboardMode session event) :
    keyEvent.mode = some session.mode ∧ keyEvent.down = event.isPress ∧
      ∃ code, keycode session event = some code ∧ keyEvent.union = some (.chr code) := by
  obtain ⟨code, isCode, rfl⟩ := Option.map_eq_some_iff.mp (Option.mem_toList.mp member)
  exact ⟨rfl, rfl, code, isCode, rfl⟩

/-- A code that is sent is the code of the key. -/
theorem told_of_mapped
    (mapped : keyEvent ∈ mapKeyboardMode session event)
    (heard : ¬(session.mode = .translate ∧ event.stroke.key.isNumpad = false ∧
      isAltgr event = true))
    (modifiers : List ControlValue) :
    Says session event (swapModifierKey session { keyEvent with modifiers }) := by
  obtain ⟨mode, down, code, isCode, union⟩ := mem_mapKeyboardMode mapped
  obtain ⟨sameMode, sameDown, -, swapped⟩ := @swapModifierKey_spec session
    { keyEvent with modifiers }
  refine ⟨sameMode.trans mode, .inl ⟨_, ?_, swapped code union, sameDown.trans down⟩⟩
  have audible : (session.mode = .translate && !event.stroke.key.isNumpad && isAltgr event) =
      false := by
    rw [Bool.eq_false_iff]
    intro silenced
    simp only [Bool.and_eq_true, Bool.not_eq_true', decide_eq_true_eq] at silenced
    exact heard ⟨silenced.1.1, silenced.1.2, silenced.2⟩
  simp [codeOf, audible, isCode]

/-- A text is what a press types in translate mode. -/
theorem told_of_text
    (isText : keyEvent ∈ tryFillUnicode session event)
    (translates : session.mode = .translate)
    (pressed : event.isPress = true)
    (modifiers : List ControlValue) :
    Says session event (swapModifierKey session { keyEvent with modifiers }) := by
  obtain ⟨sameMode, -, kept, -⟩ := @swapModifierKey_spec session { keyEvent with modifiers }
  unfold tryFillUnicode at isText
  split at isText
  case h_1 name isName =>
    split at isText
    · cases isText
    · obtain rfl := List.mem_singleton.mp isText
      exact ⟨sameMode, .inr ⟨translates, pressed, name, kept name rfl⟩⟩
  case h_2 => cases isText

/-- The key events of a mode, with any modifiers. -/
theorem told_of_mem_modeEvents
    (member : keyEvent ∈ modeEvents session event)
    (modifiers : List ControlValue) :
    Says session event (swapModifierKey session { keyEvent with modifiers }) := by
  unfold modeEvents at member
  split at member
  case h_1 maps => exact told_of_mapped member (fun translates => by simp [maps] at translates) _
  case h_2 translates =>
    unfold translateKeyboardMode at member
    split at member
    case isTrue => cases member
    case isFalse =>
      split at member
      case isTrue numpad => exact told_of_mapped member (fun other => by simp [numpad] at other) _
      case isFalse =>
        split at member
        case isTrue => cases member
        case isFalse heard =>
          have mapped (isMapped : keyEvent ∈ mapKeyboardMode session event) :=
            told_of_mapped isMapped (fun altgr => heard altgr.2.2) modifiers
          dsimp only at member
          split at member
          case isTrue pressed =>
            split at member
            · exact mapped member
            · exact told_of_text member translates pressed modifiers
          case isFalse => exact mapped member
  case h_3 => cases member

/-- Everything that is sent for an event is the code of its key, or a text. -/
theorem told_of_mem_sent
    {lockModes : Option (BitVec 32)}
    {locks : Locks}
    (member : keyEvent ∈ sent session event lockModes locks) :
    Says session event keyEvent := by
  obtain ⟨unswapped, isEvent, rfl⟩ := List.mem_map.mp member
  unfold keyEvents at isEvent
  split at isEvent
  · obtain ⟨plain, isPlain, rfl⟩ := List.mem_map.mp isEvent
    exact told_of_mem_modeEvents isPlain _
  · exact told_of_mem_modeEvents isEvent unswapped.modifiers

/-- A release of a key with a code is sent, unless the key is dead. -/
theorem sent_ne_nil
    (typing : session.Typing)
    (release : event.isPress = false)
    (loud : silent session event = false)
    {code : BitVec 32}
    (isCode : codeOf session event = some code)
    (lockModes : Option (BitVec 32))
    (locks : Locks) :
    sent session event lockModes locks ≠ [] := by
  unfold codeOf at isCode
  split at isCode
  case isTrue => cases isCode
  case isFalse heard =>
    obtain ⟨mapped, isMapped, -⟩ := Option.map_eq_some_iff.mp isCode
    have some : mapKeyboardMode session event ≠ [] := by simp [mapKeyboardMode, isMapped]
    have same : modeEvents session event = mapKeyboardMode session event := by
      rcases typing with maps | translates
      · simp [modeEvents, maps]
      · have alive : event.isDead = false := by simpa [silent, translates] using loud
        have audible : event.stroke.key.isNumpad = true ∨ isAltgr event = false := by
          simpa [translates, or_iff_not_imp_left] using heard
        rcases audible with numpad | plain
        · simp [modeEvents, translates, translateKeyboardMode, alive, numpad]
        · simp [modeEvents, translates, translateKeyboardMode, alive, plain, release]
    intro none
    rw [sent, List.map_eq_nil_iff, keyEvents] at none
    split at none
    · rw [List.map_eq_nil_iff, same] at none
      exact some none
    · exact some (same ▸ none)

end ClientSide

end Grab
end Keyboard
end OneDesk
