import OneDesk.Keyboard.Released

/-!
# Modifiers of a key event

In legacy mode the modifiers of an event are pressed before its key and released after it.
A modifier is released even if it was held before, and a function key leaves before anything is
released.

Under the keys of enigo lie switches: some of those with names share one, some have none on a
keyboard, and what a character does to them is up to the keyboard.
-/

namespace OneDesk
namespace Keyboard

open OneDesk.Lib

/-- The switches of a keyboard, and which of them are held down. -/
structure Wiring {Board : Type} (system : System Board) (Switch : Type) where
  /-- The switch of a key with a name, if the keyboard has one. -/
  switch : Key → Option Switch
  holds : Board → Switch → Prop
  holds_press : ∀ board key at_,
    key.isNamed = true →
      (holds (system.press board key).2 at_ ↔ holds board at_ ∨ switch key = some at_)
  holds_release : ∀ board key at_,
    key.isNamed = true →
      (holds (system.release board key) at_ ↔ holds board at_ ∧ switch key ≠ some at_)

variable {Board Switch : Type} {system : System Board}
variable (wiring : Wiring system Switch)

namespace Wiring

/-! ## Definitions -/

/-- A switch of one of the eight modifiers. -/
def IsModifier (switch : Switch) : Prop :=
  ∃ entry ∈ modifierKeys, wiring.switch entry.2.2 = some switch

/-- The switch of the key of an event itself. -/
def own (event : KeyEvent) : Option Switch :=
  match event.union with
  | some (.controlKey ck) => (controlKeyValueToKey ck).bind wiring.switch
  | _ => none

/-- Some listed modifier with a switch is not reported as down when its turn comes. -/
def Unreported (switch : Switch) : List ControlValue → Service Board → Prop
  | [], _ => False
  | ck :: modifiers, service =>
      match controlKeyValueToKey ck with
      | none => Unreported switch modifiers service
      | some key =>
          if isPressed system service key ||
              (decide (key = .alt) && isAltgrPressed system service) then
            Unreported switch modifiers service
          else wiring.switch key = some switch ∨
            Unreported switch modifiers (keyDown system key service).2

end Wiring

/-- The service after the modifiers that an event does not list are released. -/
def afterRelease
    (system : System Board)
    (event : KeyEvent)
    (service : Service Board) : Service Board :=
  if event.down then releaseUnpressedModifiers system event service else service

/-- The key or the text of an event itself. -/
def processUnion
    (system : System Board)
    (event : KeyEvent)
    (now : Nat)
    (service : Service Board) : Service Board :=
  match event.union with
  | some (.controlKey ck) =>
      processControlKey system ck event.down
        (recordPressedKey (.enigoKey (controlRecord ck)) event.down now service)
  | some (.chr chr) =>
      processChr system chr event.down
        (recordPressedKey (.enigoKey (chrRecord chr)) event.down now service)
  | some (.unicode chr) => processUnicode system chr service
  | some (.seq text) => keySequence system text service
  | _ => service

/-- An event of a function key ends early. -/
def KeyEvent.endsEarly (event : KeyEvent) : Bool :=
  match event.union with
  | some (.controlKey ck) => Keyboard.isFunctionKey ck
  | _ => false

namespace Wiring

/-- A listed modifier with a switch is to be pressed for an event. -/
def ToPress (event : KeyEvent) (service : Service Board) (switch : Switch) : Prop :=
  event.down = true ∧
    wiring.Unreported switch event.modifiers (releaseUnpressedModifiers system event service)

/-- A function key has nothing to press.  Of any other event, no modifier that is to be pressed is
held, and a character or a text leaves the modifiers that are not to be pressed as they are. -/
def Restores (event : KeyEvent) (now : Nat) (service : Service Board) : Prop :=
  if event.endsEarly then ∀ switch, ¬wiring.ToPress event service switch
  else
    (∀ switch, wiring.IsModifier switch → wiring.own event ≠ some switch →
      wiring.ToPress event service switch →
      ¬wiring.holds (afterRelease system event service).board switch) ∧
    ((∀ ck, event.union ≠ some (.controlKey ck)) →
      ∀ switch, wiring.IsModifier switch → ¬wiring.ToPress event service switch →
        (wiring.holds
            (processUnion system event now (syncModifiers system event service).2).board switch ↔
          wiring.holds (syncModifiers system event service).2.board switch))

/-! ## Keys one by one -/

variable {wiring} {service : Service Board} {switch : Switch}

theorem holds_keyDown
    {key : Key}
    (named : key.isNamed = true) :
    wiring.holds (keyDown system key service).2.board switch ↔
      wiring.holds service.board switch ∨ wiring.switch key = some switch :=
  wiring.holds_press service.board key switch named

theorem holds_keyUp
    {key : Key}
    (named : key.isNamed = true) :
    wiring.holds (keyUp system key service).board switch ↔
      wiring.holds service.board switch ∧ wiring.switch key ≠ some switch :=
  wiring.holds_release service.board key switch named

theorem holds_releaseKeys
    {toRelease : List Key}
    (named : ∀ key ∈ toRelease, key.isNamed = true) :
    wiring.holds (releaseKeys system toRelease service).board switch ↔
      wiring.holds service.board switch ∧
        ¬∃ key ∈ toRelease, wiring.switch key = some switch := by
  induction toRelease generalizing service with
  | nil => simp [releaseKeys]
  | cons key toRelease inductionHypothesis =>
      have rest := @inductionHypothesis (keyUp system key service) fun other member =>
        named other (List.mem_cons_of_mem _ member)
      change wiring.holds (releaseKeys system toRelease (keyUp system key service)).board switch ↔ _
      rw [rest, holds_keyUp (named key List.mem_cons_self), and_assoc, List.exists_mem_cons_iff,
        not_or]

/-! ## Modifiers -/

theorem named_of_modifierKeys : ∀ entry ∈ modifierKeys, entry.2.2.isNamed = true := by
  decide

/-- Releasing modifiers presses none. -/
theorem holds_of_fixModifiers
    {modifiers : List ControlValue}
    {ck : ControlValue}
    (isHeld : wiring.holds (fixModifiers system modifiers ck service).board switch) :
    wiring.holds service.board switch := by
  unfold fixModifiers at isHeld
  have named := named_of_modifierKeys
  generalize modifierKeys = entries at isHeld named
  induction entries generalizing service with
  | nil => exact isHeld
  | cons entry entries inductionHypothesis =>
      have before := inductionHypothesis isHeld fun other member =>
        named other (List.mem_cons_of_mem _ member)
      dsimp only at before
      split at before
      · exact before
      · unfold fixModifier at before
        split at before
        · split at before
          · exact before
          · exact ((holds_keyUp (named entry List.mem_cons_self)).mp before).1
        · exact before

/-- Modifiers that are pressed are to be released, and are held on top of what was held. -/
theorem pressModifiers_spec
    (wiring : Wiring system Switch)
    (switch : Switch)
    (modifiers : List ControlValue)
    (toRelease : List Key)
    (service : Service Board)
    (named : ∀ key ∈ toRelease, key.isNamed = true) :
    (∀ key ∈ (pressModifiers system modifiers (toRelease, service)).1, key.isNamed = true) ∧
      ((∃ key ∈ (pressModifiers system modifiers (toRelease, service)).1,
          wiring.switch key = some switch) ↔
        (∃ key ∈ toRelease, wiring.switch key = some switch) ∨
          wiring.Unreported switch modifiers service) ∧
      (wiring.holds (pressModifiers system modifiers (toRelease, service)).2.board switch ↔
        wiring.holds service.board switch ∨ wiring.Unreported switch modifiers service) := by
  induction modifiers generalizing toRelease service with
  | nil => simpa [pressModifiers, Unreported] using named
  | cons ck modifiers inductionHypothesis =>
      unfold pressModifiers Unreported
      cases isKey : controlKeyValueToKey ck with
      | none => exact inductionHypothesis toRelease service named
      | some key =>
          have keyNamed := (controlKeyValueToKey_small isKey).2
          dsimp only
          split
          · exact inductionHypothesis toRelease service named
          · have more : ∀ other ∈ toRelease ++ [key], other.isNamed = true := by
              simpa [or_imp, forall_and, keyNamed] using named
            obtain ⟨allNamed, collected, held⟩ :=
              inductionHypothesis (toRelease ++ [key]) (keyDown system key service).2 more
            refine ⟨allNamed, ?_, ?_⟩
            · rw [collected]
              simp [or_and_right, exists_or, or_assoc]
            · rw [held, holds_keyDown keyNamed, or_assoc]

theorem syncModifiers_spec
    (wiring : Wiring system Switch)
    (switch : Switch)
    (event : KeyEvent)
    (service : Service Board) :
    (∀ key ∈ (syncModifiers system event service).1, key.isNamed = true) ∧
      ((∃ key ∈ (syncModifiers system event service).1, wiring.switch key = some switch) ↔
        wiring.ToPress event service switch) ∧
      (wiring.holds (syncModifiers system event service).2.board switch ↔
        wiring.holds (afterRelease system event service).board switch ∨
          wiring.ToPress event service switch) := by
  unfold syncModifiers afterRelease ToPress
  cases event.down with
  | true =>
      obtain ⟨named, collected, held⟩ := pressModifiers_spec wiring switch event.modifiers []
        (releaseUnpressedModifiers system event service) (by simp)
      exact ⟨named, by simpa using collected, by simpa using held⟩
  | false => simp

/-! ## The whole event -/

theorem holds_of_afterRelease
    {event : KeyEvent}
    (isHeld : wiring.holds (afterRelease system event service).board switch) :
    wiring.holds service.board switch := by
  unfold afterRelease at isHeld
  split at isHeld
  · exact holds_of_fixModifiers isHeld
  · exact isHeld

/-- The key of a control key moves its own switch only. -/
theorem holds_processControlKey
    {ck : ControlValue}
    (notOwn : (controlKeyValueToKey ck).bind wiring.switch ≠ some switch)
    (down : Bool) :
    wiring.holds (processControlKey system ck down service).board switch ↔
      wiring.holds service.board switch := by
  unfold processControlKey
  cases isKey : controlKeyValueToKey ck with
  | none => exact Iff.rfl
  | some key =>
      have named := (controlKeyValueToKey_small isKey).2
      rw [isKey, Option.bind_some] at notOwn
      cases down with
      | true => exact (holds_keyDown named).trans (or_iff_left notOwn)
      | false => exact (holds_keyUp named).trans (and_iff_left notOwn)

variable (wiring)

theorem own_of_not_control
    {event : KeyEvent}
    (notControl : ∀ ck, event.union ≠ some (.controlKey ck)) :
    wiring.own event = none := by
  unfold own
  split
  next ck isControl => exact absurd isControl (notControl ck)
  next => rfl

/-- The key or the text of an event leaves a switch alone, if it does so unless it is a control
key. -/
theorem holds_processUnion
    {event : KeyEvent}
    {now : Nat}
    (notOwn : wiring.own event ≠ some switch)
    (settles : (∀ ck, event.union ≠ some (.controlKey ck)) →
      (wiring.holds (processUnion system event now service).board switch ↔
        wiring.holds service.board switch)) :
    wiring.holds (processUnion system event now service).board switch ↔
      wiring.holds service.board switch := by
  by_cases control : ∃ ck, event.union = some (.controlKey ck)
  · obtain ⟨ck, isControl⟩ := control
    unfold own at notOwn
    rw [isControl] at notOwn
    unfold processUnion
    rw [isControl]
    exact holds_processControlKey notOwn event.down
  · exact settles (not_exists.mp control)

end Wiring

theorem legacyKeyboardMode_of_endsEarly
    {event : KeyEvent}
    (early : event.endsEarly = true)
    (now : Nat)
    (service : Service Board) :
    legacyKeyboardMode system event now service = (syncModifiers system event service).2 := by
  unfold KeyEvent.endsEarly at early
  unfold legacyKeyboardMode
  split at early
  next ck isControl => rw [isControl]; exact if_pos early
  next => cases early

theorem legacyKeyboardMode_of_not_endsEarly
    {event : KeyEvent}
    (notEarly : event.endsEarly = false)
    (now : Nat)
    (service : Service Board) :
    legacyKeyboardMode system event now service =
      releaseKeys system (syncModifiers system event service).1
        (processUnion system event now (syncModifiers system event service).2) := by
  unfold KeyEvent.endsEarly at notEarly
  unfold legacyKeyboardMode processUnion
  split at notEarly
  next ck isControl => rw [isControl]; exact if_neg (by simp [notEarly])
  next notControl =>
    cases isUnion : event.union with
    | none => rfl
    | some union =>
        cases union with
        | controlKey ck => exact absurd isUnion (notControl ck)
        | _ => rfl

/-- The modifiers that are held before an event and after the release are those after the
release. -/
theorem Wiring.held_and_afterRelease
    (wiring : Wiring system Switch)
    (event : KeyEvent)
    (service : Service Board)
    (switch : Switch) :
    wiring.holds service.board switch ∧
        wiring.holds (afterRelease system event service).board switch ↔
      wiring.holds (afterRelease system event service).board switch :=
  and_iff_right_of_imp Wiring.holds_of_afterRelease

/-- A function key leaves what it has pressed. -/
theorem Wiring.restores_of_endsEarly
    (wiring : Wiring system Switch)
    (event : KeyEvent)
    (service : Service Board) :
    ((∀ key ∈ (syncModifiers system event service).1, ∀ switch, wiring.switch key = some switch →
        ¬wiring.holds (syncModifiers system event service).2.board switch) ∧
      ∀ switch, wiring.IsModifier switch → wiring.own event ≠ some switch →
        (wiring.holds (syncModifiers system event service).2.board switch ↔
          wiring.holds (afterRelease system event service).board switch)) ↔
      ∀ switch, ¬wiring.ToPress event service switch := by
  have spec := fun switch => Wiring.syncModifiers_spec wiring switch event service
  constructor
  · rintro ⟨released, -⟩ switch toPress
    obtain ⟨-, collected, held⟩ := spec switch
    obtain ⟨key, member, is⟩ := collected.mpr toPress
    exact released key member switch is (held.mpr (.inr toPress))
  · intro nothing
    refine ⟨fun key member switch is => ?_, fun switch _ _ => ?_⟩
    · exact absurd ((spec switch).2.1.mp ⟨key, member, is⟩) (nothing switch)
    · exact (spec switch).2.2.trans (or_iff_left (nothing switch))

/-- What is held once the keys that were pressed for an event are released. -/
theorem Wiring.holds_releaseSynced
    (wiring : Wiring system Switch)
    (event : KeyEvent)
    (now : Nat)
    (service : Service Board)
    (switch : Switch) :
    wiring.holds (releaseKeys system (syncModifiers system event service).1
        (processUnion system event now (syncModifiers system event service).2)).board switch ↔
      wiring.holds
          (processUnion system event now (syncModifiers system event service).2).board switch ∧
        ¬wiring.ToPress event service switch := by
  obtain ⟨named, collected, -⟩ := Wiring.syncModifiers_spec wiring switch event service
  rw [Wiring.holds_releaseKeys named, collected]

/-- After a key event in legacy mode every modifier that was pressed for it is released, and the
modifiers held are those that were held before it and were not released, exactly if a function key
has nothing to press, and of any other event no modifier to be pressed is held already, and a
character or a text leaves the other modifiers alone. -/
theorem legacyKeyboardMode_restores
    (wiring : Wiring system Switch)
    (event : KeyEvent)
    (now : Nat)
    (service : Service Board) :
    ((∀ key ∈ (syncModifiers system event service).1, ∀ switch, wiring.switch key = some switch →
        ¬wiring.holds (legacyKeyboardMode system event now service).board switch) ∧
      ∀ switch, wiring.IsModifier switch → wiring.own event ≠ some switch →
        (wiring.holds (legacyKeyboardMode system event now service).board switch ↔
          wiring.holds service.board switch ∧
            wiring.holds (afterRelease system event service).board switch)) ↔
      wiring.Restores event now service := by
  simp only [wiring.held_and_afterRelease]
  unfold Wiring.Restores
  cases early : event.endsEarly with
  | true =>
      rw [legacyKeyboardMode_of_endsEarly early, if_pos rfl]
      exact wiring.restores_of_endsEarly event service
  | false =>
      rw [legacyKeyboardMode_of_not_endsEarly early, if_neg Bool.false_ne_true]
      have spec := fun switch => Wiring.syncModifiers_spec wiring switch event service
      have after := wiring.holds_releaseSynced event now service
      generalize syncModifiers system event service = synced at spec after ⊢
      constructor
      · rintro ⟨-, same⟩
        refine ⟨fun switch isModifier notOwn toPress isHeld => ?_,
          fun notControl switch isModifier notPressed => ?_⟩
        · exact ((after switch).mp ((same switch isModifier notOwn).mpr isHeld)).2 toPress
        · have notOwn : wiring.own event ≠ some switch := by
            rw [wiring.own_of_not_control notControl]
            exact (Option.some_ne_none switch).symm
          rw [(spec switch).2.2, or_iff_left notPressed, ← same switch isModifier notOwn,
            after switch, and_iff_left notPressed]
      · rintro ⟨notHeld, settles⟩
        refine ⟨fun key member switch is isHeld => ?_, fun switch isModifier notOwn => ?_⟩
        · exact ((after switch).mp isHeld).2 ((spec switch).2.1.mp ⟨key, member, is⟩)
        · rw [after switch]
          by_cases toPress : wiring.ToPress event service switch
          · exact iff_of_false (fun isHeld => isHeld.2 toPress)
              (notHeld switch isModifier notOwn toPress)
          · rw [and_iff_left toPress,
              wiring.holds_processUnion notOwn fun notControl =>
                settles notControl switch isModifier toPress,
              (spec switch).2.2, or_iff_left toPress]

/-- A keyboard on which every key has a switch of its own, and which reports what is held. -/
def plainSystem (platform : Platform) : System (Key → Bool) where
  platform := platform
  state board key := board key
  press board key := (true, Function.update board key true)
  release board key := Function.update board key false
  click board _ := board
  type board _ := board
  simulate board _ := board
  typeChar board _ _ := board
  typeUnit _ _ := none
  simulateCode board _ := board
  vkToScancode _ := 0
  skipLedSyncRdevKey _ := true
  isNumpadRdevKey _ := false
  toUppercase text := text

def plainWiring (platform : Platform) : Wiring (plainSystem platform) Key where
  switch key := some key
  holds board key := board key = true
  holds_press board key at_ _ := by
    by_cases same : at_ = key
    · simp [plainSystem, same]
    · simp [plainSystem, same, Ne.symm same]
  holds_release board key at_ _ := by
    by_cases same : at_ = key
    · simp [plainSystem, same]
    · simp [plainSystem, same, Ne.symm same]

/-- Control is pressed to lock the screen, and it stays down. -/
theorem control_stays_down :
    Key.control ∈ (syncModifiers (plainSystem .windows)
        ⟨true, some (.controlKey ControlKey.lockScreen.value), [ControlKey.control.value],
          some .legacy⟩ { board := fun _ => false }).1 ∧
      (plainWiring .windows).holds (legacyKeyboardMode (plainSystem .windows)
        ⟨true, some (.controlKey ControlKey.lockScreen.value), [ControlKey.control.value],
          some .legacy⟩ 0 { board := fun _ => false }).board .control := by
  constructor
  · decide
  · change (legacyKeyboardMode (plainSystem .windows)
      ⟨true, some (.controlKey ControlKey.lockScreen.value), [ControlKey.control.value],
        some .legacy⟩ 0 { board := fun _ => false }).board .control = true
    decide

end Keyboard
end OneDesk
