import OneDesk.Lib.Held

/-!
# Keys of the input service

`src/server/input_service.rs`: the keys that a peer can name, the keys that enigo can press, and
the records that are kept of pressed keys.
-/

namespace OneDesk
namespace Keyboard

/-! ## Keys that a peer can name -/

/-- `ControlKey` of the protocol. -/
inductive ControlKey where
  | unknown | alt | backspace | capsLock | control | delete | downArrow | endKey | escape | f1
  | f10 | f11 | f12 | f2 | f3 | f4 | f5 | f6 | f7 | f8 | f9 | home | leftArrow | metaKey | option
  | pageDown | pageUp | returnKey | rightArrow | shift | space | tab | upArrow | numpad0 | numpad1
  | numpad2 | numpad3 | numpad4 | numpad5 | numpad6 | numpad7 | numpad8 | numpad9 | cancel | clear
  | menu | pause | kana | hangul | junja | finalKey | hanja | kanji | convert | select | print
  | execute | snapshot | insert | helpKey | sleep | separator | scroll | numLock | rWin | apps
  | multiply | add | subtract | decimal | divide | equals | numpadEnter | rShift | rControl | rAlt
  | volumeMute | volumeUp | volumeDown | power | ctrlAltDel | lockScreen
  deriving DecidableEq

/-- A control key as it is sent, which need not be one of those above. -/
abbrev ControlValue := BitVec 32

def ControlKey.value : ControlKey → ControlValue
  | .unknown => 0
  | .alt => 1
  | .backspace => 2
  | .capsLock => 3
  | .control => 4
  | .delete => 5
  | .downArrow => 6
  | .endKey => 7
  | .escape => 8
  | .f1 => 9
  | .f10 => 10
  | .f11 => 11
  | .f12 => 12
  | .f2 => 13
  | .f3 => 14
  | .f4 => 15
  | .f5 => 16
  | .f6 => 17
  | .f7 => 18
  | .f8 => 19
  | .f9 => 20
  | .home => 21
  | .leftArrow => 22
  | .metaKey => 23
  | .option => 24
  | .pageDown => 25
  | .pageUp => 26
  | .returnKey => 27
  | .rightArrow => 28
  | .shift => 29
  | .space => 30
  | .tab => 31
  | .upArrow => 32
  | .numpad0 => 33
  | .numpad1 => 34
  | .numpad2 => 35
  | .numpad3 => 36
  | .numpad4 => 37
  | .numpad5 => 38
  | .numpad6 => 39
  | .numpad7 => 40
  | .numpad8 => 41
  | .numpad9 => 42
  | .cancel => 43
  | .clear => 44
  | .menu => 45
  | .pause => 46
  | .kana => 47
  | .hangul => 48
  | .junja => 49
  | .finalKey => 50
  | .hanja => 51
  | .kanji => 52
  | .convert => 53
  | .select => 54
  | .print => 55
  | .execute => 56
  | .snapshot => 57
  | .insert => 58
  | .helpKey => 59
  | .sleep => 60
  | .separator => 61
  | .scroll => 62
  | .numLock => 63
  | .rWin => 64
  | .apps => 65
  | .multiply => 66
  | .add => 67
  | .subtract => 68
  | .decimal => 69
  | .divide => 70
  | .equals => 71
  | .numpadEnter => 72
  | .rShift => 73
  | .rControl => 74
  | .rAlt => 75
  | .volumeMute => 76
  | .volumeUp => 77
  | .volumeDown => 78
  | .power => 79
  | .ctrlAltDel => 100
  | .lockScreen => 101

def ControlKey.all : List ControlKey :=
  [.unknown, .alt, .backspace, .capsLock, .control, .delete, .downArrow, .endKey, .escape, .f1,
    .f10, .f11, .f12, .f2, .f3, .f4, .f5, .f6, .f7, .f8, .f9, .home, .leftArrow, .metaKey, .option,
    .pageDown, .pageUp, .returnKey, .rightArrow, .shift, .space, .tab, .upArrow, .numpad0,
    .numpad1, .numpad2, .numpad3, .numpad4, .numpad5, .numpad6, .numpad7, .numpad8, .numpad9,
    .cancel, .clear, .menu, .pause, .kana, .hangul, .junja, .finalKey, .hanja, .kanji, .convert,
    .select, .print, .execute, .snapshot, .insert, .helpKey, .sleep, .separator, .scroll, .numLock,
    .rWin, .apps, .multiply, .add, .subtract, .decimal, .divide, .equals, .numpadEnter, .rShift,
    .rControl, .rAlt, .volumeMute, .volumeUp, .volumeDown, .power, .ctrlAltDel, .lockScreen]

/-- `EnumOrUnknown::enum_value_or` with the unknown key. -/
def ControlValue.known (value : ControlValue) : ControlKey :=
  (ControlKey.all.find? fun key => key.value == value).getD .unknown

/-! ## Keys that enigo can press -/

/-- `enigo::Key`, as far as the service uses it. -/
inductive Key where
  | alt | backspace | capsLock | control | delete | downArrow | endKey | escape | f1 | f10 | f11
  | f12 | f2 | f3 | f4 | f5 | f6 | f7 | f8 | f9 | home | leftArrow | metaKey | option | pageDown
  | pageUp | returnKey | rightArrow | shift | space | tab | upArrow | numpad0 | numpad1 | numpad2
  | numpad3 | numpad4 | numpad5 | numpad6 | numpad7 | numpad8 | numpad9 | cancel | clear | pause
  | kana | hangul | junja | finalKey | hanja | kanji | convert | select | print | execute
  | snapshot | insert | helpKey | sleep | separator | scroll | numLock | rWin | apps | multiply
  | add | subtract | decimal | divide | equals | numpadEnter | rightAlt | rightControl
  | rightShift
  | layout (chr : Char)
  | raw (code : BitVec 16)
  deriving DecidableEq

/-- `KEY_MAP` -/
def keyMap : List (ControlValue × Key) :=
  [(ControlKey.alt.value, .alt), (ControlKey.backspace.value, .backspace),
    (ControlKey.capsLock.value, .capsLock), (ControlKey.control.value, .control),
    (ControlKey.delete.value, .delete), (ControlKey.downArrow.value, .downArrow),
    (ControlKey.endKey.value, .endKey), (ControlKey.escape.value, .escape),
    (ControlKey.f1.value, .f1), (ControlKey.f10.value, .f10), (ControlKey.f11.value, .f11),
    (ControlKey.f12.value, .f12), (ControlKey.f2.value, .f2), (ControlKey.f3.value, .f3),
    (ControlKey.f4.value, .f4), (ControlKey.f5.value, .f5), (ControlKey.f6.value, .f6),
    (ControlKey.f7.value, .f7), (ControlKey.f8.value, .f8), (ControlKey.f9.value, .f9),
    (ControlKey.home.value, .home), (ControlKey.leftArrow.value, .leftArrow),
    (ControlKey.metaKey.value, .metaKey), (ControlKey.option.value, .option),
    (ControlKey.pageDown.value, .pageDown), (ControlKey.pageUp.value, .pageUp),
    (ControlKey.returnKey.value, .returnKey), (ControlKey.rightArrow.value, .rightArrow),
    (ControlKey.shift.value, .shift), (ControlKey.space.value, .space),
    (ControlKey.tab.value, .tab), (ControlKey.upArrow.value, .upArrow),
    (ControlKey.numpad0.value, .numpad0), (ControlKey.numpad1.value, .numpad1),
    (ControlKey.numpad2.value, .numpad2), (ControlKey.numpad3.value, .numpad3),
    (ControlKey.numpad4.value, .numpad4), (ControlKey.numpad5.value, .numpad5),
    (ControlKey.numpad6.value, .numpad6), (ControlKey.numpad7.value, .numpad7),
    (ControlKey.numpad8.value, .numpad8), (ControlKey.numpad9.value, .numpad9),
    (ControlKey.cancel.value, .cancel), (ControlKey.clear.value, .clear),
    (ControlKey.menu.value, .alt), (ControlKey.pause.value, .pause),
    (ControlKey.kana.value, .kana), (ControlKey.hangul.value, .hangul),
    (ControlKey.junja.value, .junja), (ControlKey.finalKey.value, .finalKey),
    (ControlKey.hanja.value, .hanja), (ControlKey.kanji.value, .kanji),
    (ControlKey.convert.value, .convert), (ControlKey.select.value, .select),
    (ControlKey.print.value, .print), (ControlKey.execute.value, .execute),
    (ControlKey.snapshot.value, .snapshot), (ControlKey.insert.value, .insert),
    (ControlKey.helpKey.value, .helpKey), (ControlKey.sleep.value, .sleep),
    (ControlKey.separator.value, .separator), (ControlKey.scroll.value, .scroll),
    (ControlKey.numLock.value, .numLock), (ControlKey.rWin.value, .rWin),
    (ControlKey.apps.value, .apps), (ControlKey.multiply.value, .multiply),
    (ControlKey.add.value, .add), (ControlKey.subtract.value, .subtract),
    (ControlKey.decimal.value, .decimal), (ControlKey.divide.value, .divide),
    (ControlKey.equals.value, .equals), (ControlKey.numpadEnter.value, .numpadEnter),
    (ControlKey.rAlt.value, .rightAlt), (ControlKey.rControl.value, .rightControl),
    (ControlKey.rShift.value, .rightShift)]

/-- `NUMPAD_KEY_MAP` -/
def numpadKeyMap : List ControlValue :=
  [.home, .upArrow, .pageUp, .leftArrow, .rightArrow, .endKey, .downArrow, .pageDown, .insert,
    .delete].map ControlKey.value

def controlKeyValueToKey (value : ControlValue) : Option Key :=
  keyMap.lookup value

/-- The character with a number, which has to be a Unicode scalar value. -/
def charOfValue (value : BitVec 32) : Option Char :=
  if value.toNat.isValidChar then some (Char.ofNat value.toNat) else none

def charValueToKey (value : BitVec 32) : Key :=
  .layout ((charOfValue value).getD (Char.ofNat 0))

/-! ## Records of pressed keys -/

/-- `rdev::RawKey` -/
inductive RawKey where
  | scanCode (code : BitVec 32)
  | linuxXorgKeycode (code : BitVec 32)
  | winVirtualKeycode (code : BitVec 32)
  deriving DecidableEq

/-- `rdev::Key`, as far as the service uses it. -/
inductive RdevKey where
  | rawKey (key : RawKey)
  | shiftLeft
  | shiftRight
  deriving DecidableEq

/-- `KeysDown`: a pressed key is recorded as it was sent. -/
inductive KeysDown where
  | rdevKey (key : RawKey)
  | enigoKey (record : BitVec 64)
  deriving DecidableEq

def keyCharStart : BitVec 64 := 9999

/-- The record of a control key, `as u64` with its sign. -/
def controlRecord (value : ControlValue) : BitVec 64 :=
  value.signExtend 64

/-- The record of a character. -/
def chrRecord (chr : BitVec 32) : BitVec 64 :=
  chr.setWidth 64 + keyCharStart

def recordKeyIsControlKey (record : BitVec 64) : Bool :=
  record < keyCharStart

-- the same comparison once more
def recordKeyIsChr (record : BitVec 64) : Bool :=
  record < keyCharStart

def recordKeyToKey (record : BitVec 64) : Option Key :=
  if recordKeyIsControlKey record then controlKeyValueToKey (record.setWidth 32)
  else if recordKeyIsChr record then some (charValueToKey ((record - keyCharStart).setWidth 32))
  else none

/-- A key with a name of its own. -/
def Key.isNamed : Key → Bool
  | .layout _ | .raw _ => false
  | _ => true

/-- Control keys of the map have small numbers, and stand for keys with names. -/
theorem keyMap_small : ∀ entry ∈ keyMap, entry.1.toNat < 9999 ∧ entry.2.isNamed = true := by
  decide

theorem controlKeyValueToKey_small
    {value : ControlValue}
    {key : Key}
    (isKey : controlKeyValueToKey value = some key) :
    value.toNat < 9999 ∧ key.isNamed = true := by
  obtain ⟨before, after, is, -⟩ := List.lookup_eq_some_iff.mp isKey
  exact keyMap_small (value, key) (by simp [is])

theorem recordKeyIsControlKey_iff (record : BitVec 64) :
    recordKeyIsControlKey record = true ↔ record.toNat < 9999 := by
  simp [recordKeyIsControlKey, keyCharStart, BitVec.lt_def]

/-- Only records of control keys are read, because the two tests are the same. -/
theorem recordKeyToKey_eq (record : BitVec 64) :
    recordKeyToKey record =
      if record.toNat < 9999 then controlKeyValueToKey (record.setWidth 32) else none := by
  have same : recordKeyIsChr record = recordKeyIsControlKey record := rfl
  rw [recordKeyToKey, same]
  by_cases small : record.toNat < 9999
  · rw [if_pos ((recordKeyIsControlKey_iff record).mpr small), if_pos small]
  · have large : ¬recordKeyIsControlKey record = true :=
      mt (recordKeyIsControlKey_iff record).mp small
    rw [if_neg large, if_neg large, if_neg small]

/-- The record of a character is read as no key. -/
theorem recordKeyToKey_chrRecord (chr : BitVec 32) : recordKeyToKey (chrRecord chr) = none := by
  have large : (chrRecord chr).toNat = chr.toNat + 9999 := by
    simp [chrRecord, keyCharStart]
    omega
  rw [recordKeyToKey_eq, if_neg (by omega)]

/-- The record of a control key is read as that key. -/
theorem recordKeyToKey_controlRecord (value : ControlValue) :
    recordKeyToKey (controlRecord value) = controlKeyValueToKey value := by
  have back : (controlRecord value).setWidth 32 = value := by
    ext index inside
    have low : index < 64 := by omega
    simp [controlRecord, BitVec.getElem_signExtend, inside, low]
  have number : (controlRecord value).toNat =
      value.toNat + if 2 ^ 31 ≤ value.toNat then 2 ^ 64 - 2 ^ 32 else 0 := by
    simp [controlRecord, BitVec.toNat_signExtend, BitVec.msb_eq_decide]
    omega
  have unknown : ¬value.toNat < 9999 → controlKeyValueToKey value = none := by
    intro large
    cases isKey : controlKeyValueToKey value with
    | none => rfl
    | some key => exact absurd (controlKeyValueToKey_small isKey).1 large
  rw [recordKeyToKey_eq, back]
  by_cases small : value.toNat < 9999
  · rw [if_pos]
    rw [number, if_neg (by omega)]
    exact small
  · rw [unknown small, ite_self]

/-- A record that is read is read as a key with a name. -/
theorem isNamed_of_recordKeyToKey
    {record : BitVec 64}
    {key : Key}
    (isKey : recordKeyToKey record = some key) :
    key.isNamed = true := by
  rw [recordKeyToKey_eq] at isKey
  split at isKey
  · exact (controlKeyValueToKey_small isKey).2
  · cases isKey

end Keyboard
end OneDesk
