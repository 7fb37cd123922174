import OneDesk.Keyboard.Service
import OneDesk.Lib.Run

/-!
# Keys that stay down

Before the service exits, it releases every key that it has a record of.  A key that is held has a
record that reads back as the key, unless it is a character, a raw key under Wayland, or a scan
code.
-/

namespace OneDesk
namespace Keyboard

open OneDesk.Lib

/-- The key that a record is read as. -/
def KeysDown.pressed : KeysDown → Option Pressed
  | .rdevKey key => some (.rdev (.rawKey key))
  | .enigoKey record => (recordKeyToKey record).map .enigo

/-- A key whose press leaves no record that can be read. -/
def Pressed.isLoose : Pressed → Bool
  | .enigo key => !key.isNamed
  | .rdev _ => false
  | .scan _ => true

variable {Board : Type} {system : System Board} {service : Service Board}

/-- A key that was pressed and has not been released. -/
def Service.Held (service : Service Board) (key : Pressed) : Prop :=
  heldDown service.injected key = true

/-- A key has a record that is read as it. -/
def Service.Recorded (service : Service Board) (key : Pressed) : Prop :=
  ∃ entry ∈ service.keysDown, entry.1.pressed = some key

/-- Every key that is held has a record, apart from loose keys and from some that are about to be
released. -/
def Covered (service : Service Board) (toRelease : List Key) : Prop :=
  ∀ key, key.isLoose = false → service.Held key →
    service.Recorded key ∨ ∃ other ∈ toRelease, key = .enigo other

/-! ## Records -/

section Records

variable {record : KeysDown} {key : Pressed}

theorem Service.Recorded.insert
    (recorded : service.Recorded key)
    (record : KeysDown)
    (now : Nat) :
    (recordPressedKey record true now service).Recorded key := by
  obtain ⟨entry, member, reads⟩ := recorded
  by_cases same : entry.1 = record
  · exact ⟨(record, now), by simp [recordPressedKey], same ▸ reads⟩
  · exact ⟨entry, by simp [recordPressedKey, member, same], reads⟩

theorem recorded_insert
    (reads : record.pressed = some key)
    (now : Nat)
    (service : Service Board) :
    (recordPressedKey record true now service).Recorded key :=
  ⟨(record, now), by simp [recordPressedKey], reads⟩

theorem Service.Recorded.remove
    (recorded : service.Recorded key)
    (differs : record.pressed ≠ some key)
    (now : Nat) :
    (recordPressedKey record false now service).Recorded key := by
  obtain ⟨entry, member, reads⟩ := recorded
  refine ⟨entry, ?_, reads⟩
  have other : entry.1 ≠ record := by
    rintro rfl
    exact differs reads
  simp [recordPressedKey, member, other]

end Records

/-! ## Keys one by one -/

namespace Covered

variable {after : Service Board} {toRelease : List Key}

/-- A key goes down that is loose or has a record. -/
theorem down
    (covered : Covered service toRelease)
    (key : Pressed)
    (injected : after.injected = service.injected ++ [.down key])
    (records : ∀ other, service.Recorded other → after.Recorded other)
    (recorded : key.isLoose = true ∨ after.Recorded key) :
    Covered after toRelease := by
  intro other notLoose isHeld
  rw [Service.Held, injected] at isHeld
  rcases heldDown_of_append_down isHeld with rfl | wasHeld
  · exact .inl (recorded.resolve_left (by simp [notLoose]))
  · exact (covered other notLoose wasHeld).imp_left (records other)

/-- A key goes up, and no record of another key is lost. -/
theorem up
    (covered : Covered service toRelease)
    (key : Pressed)
    (injected : after.injected = service.injected ++ [.up key])
    (records : ∀ other, other ≠ key → service.Recorded other → after.Recorded other) :
    Covered after toRelease := by
  intro other notLoose isHeld
  rw [Service.Held, injected] at isHeld
  obtain ⟨differs, wasHeld⟩ := heldDown_of_append_up isHeld
  exact (covered other notLoose wasHeld).imp_left (records other differs)

/-- Nothing goes down or up, and no record that is read is lost. -/
theorem still
    (covered : Covered service toRelease)
    (injected : after.injected = service.injected)
    (records : ∀ other, service.Recorded other → after.Recorded other) :
    Covered after toRelease := by
  intro other notLoose isHeld
  rw [Service.Held, injected] at isHeld
  exact (covered other notLoose isHeld).imp_left (records other)

variable (system)

theorem keyUp
    (covered : Covered service toRelease)
    (key : Key) :
    Covered (Keyboard.keyUp system key service) toRelease :=
  covered.up (.enigo key) rfl fun _ _ => id

/-- A key that is released need not be released any more. -/
theorem keyUp_head
    {key : Key}
    (covered : Covered service (key :: toRelease)) :
    Covered (Keyboard.keyUp system key service) toRelease := by
  intro other notLoose isHeld
  obtain ⟨differs, wasHeld⟩ := heldDown_of_append_up isHeld
  rcases covered other notLoose wasHeld with recorded | ⟨pending, member, same⟩
  · exact .inl recorded
  · rcases List.mem_cons.mp member with rfl | member
    · exact absurd same differs
    · exact .inr ⟨pending, member, same⟩

/-- A modifier that is pressed is to be released. -/
theorem keyDown
    (covered : Covered service toRelease)
    (key : Key) :
    Covered (Keyboard.keyDown system key service).2 (toRelease ++ [key]) := by
  have more : Covered service (toRelease ++ [key]) := fun other notLoose isHeld =>
    (covered other notLoose isHeld).imp_right fun pending => by
      obtain ⟨found, member, same⟩ := pending
      exact ⟨found, List.mem_append_left _ member, same⟩
  intro other notLoose isHeld
  have was : other = .enigo key ∨ service.Held other := by
    unfold Service.Held Keyboard.keyDown at isHeld
    dsimp only at isHeld
    split at isHeld
    · exact heldDown_of_append_down isHeld
    · exact .inr isHeld
  rcases was with rfl | wasHeld
  · exact .inr ⟨key, by simp, rfl⟩
  · exact more other notLoose wasHeld

/-- A key that is loose or has a record is pressed, or the keyboard does not take it. -/
theorem press
    {key : Key}
    (covered : Covered service toRelease)
    (recorded : key.isNamed = false ∨ service.Recorded (.enigo key)) :
    Covered (Keyboard.keyDown system key service).2 toRelease := by
  cases taken : (system.press service.board key).1 with
  | true =>
      refine covered.down (.enigo key) (by simp [Keyboard.keyDown, taken]) (fun _ => id) ?_
      exact recorded.imp_left fun unnamed => by simp [Pressed.isLoose, unnamed]
  | false => exact covered.still (by simp [Keyboard.keyDown, taken]) fun _ => id

theorem keyClick
    (covered : Covered service toRelease)
    (key : Key) :
    Covered (Keyboard.keyClick system key service) toRelease := by
  intro other notLoose isHeld
  obtain ⟨differs, pressed⟩ := heldDown_of_append_up isHeld
  exact covered other notLoose ((heldDown_of_append_down pressed).resolve_left differs)

/-! ## Records of raw keys -/

/-- A raw key is recorded, then it goes down or up. -/
theorem simRaw
    (covered : Covered service toRelease)
    (rawKey : RawKey)
    (down : Bool)
    (now : Nat) :
    Covered
      (simulate system (.rawKey rawKey) down (recordPressedKey (.rdevKey rawKey) down now service))
      toRelease := by
  cases down with
  | true =>
      exact covered.down (.rdev (.rawKey rawKey)) rfl (fun _ recorded => recorded.insert _ now)
        (.inr (recorded_insert rfl now service))
  | false =>
      refine covered.up (.rdev (.rawKey rawKey)) rfl fun other differs recorded =>
        recorded.remove ?_ now
      exact fun same => differs (Option.some.inj same).symm

theorem simulate_up
    (covered : Covered service toRelease)
    (key : RdevKey) :
    Covered (simulate system key false service) toRelease :=
  covered.up (.rdev key) rfl fun _ _ => id

/-! ## Modifiers -/

theorem fixModifier
    (covered : Covered service toRelease)
    (modifiers : List ControlValue)
    (key0 : ControlKey)
    (key1 : Key) :
    Covered (Keyboard.fixModifier system modifiers key0 key1 service) toRelease := by
  unfold Keyboard.fixModifier
  split
  · split
    · exact covered
    · exact covered.keyUp system key1
  · exact covered

theorem fixModifiers
    (covered : Covered service toRelease)
    (modifiers : List ControlValue)
    (ck : ControlValue) :
    Covered (Keyboard.fixModifiers system modifiers ck service) toRelease := by
  unfold Keyboard.fixModifiers
  induction modifierKeys generalizing service with
  | nil => exact covered
  | cons entry entries inductionHypothesis =>
      refine inductionHypothesis ?_
      dsimp only
      split
      · exact covered
      · exact covered.fixModifier system modifiers _ _

theorem pressModifiers
    (modifiers : List ControlValue)
    (covered : Covered service toRelease) :
    Covered (Keyboard.pressModifiers system modifiers (toRelease, service)).2
      (Keyboard.pressModifiers system modifiers (toRelease, service)).1 := by
  induction modifiers generalizing service toRelease with
  | nil => exact covered
  | cons ck modifiers inductionHypothesis =>
      unfold Keyboard.pressModifiers
      split
      · exact inductionHypothesis covered
      · split
        · exact inductionHypothesis covered
        · exact inductionHypothesis (covered.keyDown system _)

theorem syncModifiers
    (covered : Covered service [])
    (event : KeyEvent) :
    Covered (Keyboard.syncModifiers system event service).2
      (Keyboard.syncModifiers system event service).1 := by
  unfold Keyboard.syncModifiers
  split
  · exact (covered.fixModifiers system event.modifiers _).pressModifiers system event.modifiers
  · exact covered

theorem releaseKeys
    (covered : Covered service toRelease) :
    Covered (Keyboard.releaseKeys system toRelease service) [] := by
  induction toRelease generalizing service with
  | nil => exact covered
  | cons key toRelease inductionHypothesis =>
      exact inductionHypothesis (covered.keyUp_head system)

/-! ## Legacy mode -/

/-- A control key is recorded as a key that reads back as it. -/
theorem controlKey
    (covered : Covered service toRelease)
    (ck : ControlValue)
    (down : Bool)
    (now : Nat) :
    Covered
      (processControlKey system ck down
        (recordPressedKey (.enigoKey (controlRecord ck)) down now service))
      toRelease := by
  have reads : (KeysDown.enigoKey (controlRecord ck)).pressed =
      (controlKeyValueToKey ck).map .enigo := by
    rw [KeysDown.pressed, recordKeyToKey_controlRecord]
  unfold processControlKey
  cases isKey : controlKeyValueToKey ck with
  | none =>
      rw [isKey] at reads
      refine covered.still rfl fun other recorded => ?_
      cases down with
      | true => exact recorded.insert _ now
      | false => exact recorded.remove (by simp [reads]) now
  | some key =>
      rw [isKey] at reads
      cases down with
      | true =>
          have inserted : Covered
              (recordPressedKey (.enigoKey (controlRecord ck)) true now service) toRelease :=
            covered.still rfl fun other recorded => recorded.insert _ now
          exact inserted.press system (.inr (recorded_insert reads now service))
      | false =>
          refine covered.up (.enigo key) rfl fun other differs recorded => recorded.remove ?_ now
          exact fun same => differs (Option.some.inj (same.symm.trans reads))

/-- A character is loose, and its record is read as nothing. -/
theorem chr
    (covered : Covered service toRelease)
    (chr : BitVec 32)
    (down : Bool)
    (now : Nat) :
    Covered
      (processChr system chr down
        (recordPressedKey (.enigoKey (chrRecord chr)) down now service))
      toRelease := by
  have recorded : Covered
      (recordPressedKey (.enigoKey (chrRecord chr)) down now service) toRelease := by
    refine covered.still rfl fun other recorded => ?_
    cases down with
    | true => exact recorded.insert _ now
    | false => exact recorded.remove (by simp [KeysDown.pressed, recordKeyToKey_chrRecord]) now
  have unnamed : (charValueToKey chr).isNamed = false := rfl
  unfold processChr
  cases down with
  | true =>
      have pressed := recorded.press system (.inl unnamed)
      simp only [if_true]
      split
      · exact pressed
      · split
        · exact pressed
        · exact pressed.still rfl fun _ => id
  | false => exact recorded.keyUp system _

end Covered

end Keyboard
end OneDesk
