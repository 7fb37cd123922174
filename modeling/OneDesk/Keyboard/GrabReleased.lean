import OneDesk.Keyboard.Grab
import OneDesk.Keyboard.KeyTimeout
import OneDesk.Keyboard.Typing

/-!
# What a client leaves behind

A key that the host holds for a client is saved there with the press that was sent.  When the
keyboard leaves the window, each saved press is turned into a release with the same code, so
nothing stays down.  Only a key whose saved press is that of a dead key is not released: nothing is
sent for it in translate mode.
-/

namespace OneDesk
namespace Keyboard
namespace Grab

open OneDesk.Lib

variable {Board : Type} {session : Session} {host : Host Board} {service : Service Board}
variable {may : Pressed → Prop} {event : LocalEvent}
variable {places : GrabKey → BitVec 32 × BitVec 32} {excused : Pressed → Prop}

/-! ## What a host gets -/

section Delivery

variable (host : Host Board) (now : Nat)

/-- A host gets a code. -/
theorem atMost_deliver_chr
    (atMost : AtMost may service)
    {event : KeyEvent}
    {mode : KeyboardMode}
    (isMode : event.mode = some mode)
    (typing : mode = .map ∨ mode = .translate)
    {code : BitVec 32}
    (isCode : event.union = some (.chr code)) :
    AtMost (afterStroke may (hostKey host.system mode code) event.down)
      (Pair.deliver host now service event) := by
  have down : AtMost (afterStroke may (hostKey host.system mode code) true)
      (handleKey host.system { event with down := true } now service) :=
    atMost.handleKey_chr { event with down := true } isMode typing isCode now
  have up : AtMost (afterStroke (afterStroke may (hostKey host.system mode code) true)
        (hostKey host.system mode code) false)
      (handleKey host.system { event with down := false } now
        (handleKey host.system { event with down := true } now service)) :=
    down.handleKey_chr { event with down := false } isMode typing isCode now
  unfold Pair.deliver connectionInput
  split
  case isTrue press =>
    simp only [Bool.and_eq_true] at press
    rw [press.1.2]
    split
    case h_1 other => rw [isCode] at other; cases other
    case h_2 other => rw [isCode] at other; cases other
    case h_3 => exact up.mono fun _ allowed => Or.inr (afterStroke_down_up allowed)
  case isFalse => exact atMost.handleKey_chr event isMode typing isCode now

/-- A host gets a text. -/
theorem atMost_deliver_seq
    (atMost : AtMost may service)
    {event : KeyEvent}
    (isMode : event.mode = some .translate)
    {text : String}
    (isText : event.union = some (.seq text)) :
    AtMost may (Pair.deliver host now service event) := by
  have one : connectionInput host.system host.isModifierCode event = [event] := by
    unfold connectionInput
    rw [isText]
    split <;> rfl
  unfold Pair.deliver
  rw [one]
  exact atMost.handleKey_seq isMode isText now

/-- The host may press the key of a code that is sent. -/
def IsKeyOf (session : Session) (host : Host Board) (event : LocalEvent) (key : Pressed) : Prop :=
  ∃ code, codeOf session event = some code ∧ key = hostKey host.system session.mode code

/-- A press may press the key of its code. -/
theorem atMost_presses
    (typing : session.Typing)
    (press : event.isPress = true)
    {keyEvents : List KeyEvent}
    (told : ∀ keyEvent ∈ keyEvents, Says session event keyEvent)
    (atMost : AtMost (fun key => may key ∨ IsKeyOf session host event key) service) :
    AtMost (fun key => may key ∨ IsKeyOf session host event key)
      (keyEvents.foldl (Pair.deliver host now) service) := by
  induction keyEvents generalizing service with
  | nil => exact atMost
  | cons keyEvent keyEvents inductionHypothesis =>
      refine inductionHypothesis (fun other member => told other (List.mem_cons_of_mem _ member)) ?_
      obtain ⟨mode, ⟨code, isCode, union, down⟩ | ⟨translates, -, text, union⟩⟩ :=
        told keyEvent List.mem_cons_self
      · have delivered := atMost_deliver_chr host now atMost mode typing union
        rw [down, press] at delivered
        refine delivered.mono ?_
        rintro key (rfl | allowed)
        · exact .inr ⟨code, isCode, rfl⟩
        · exact allowed
      · exact atMost_deliver_seq host now atMost (mode.trans (congrArg some translates)) union

/-- A release releases the key of its code. -/
theorem atMost_releases
    (typing : session.Typing)
    (release : event.isPress = false)
    {keyEvents : List KeyEvent}
    (told : ∀ keyEvent ∈ keyEvents, Says session event keyEvent)
    (given : keyEvents ≠ [] ∨ ∀ key, may key → ¬IsKeyOf session host event key)
    (atMost : AtMost may service) :
    AtMost (fun key => may key ∧ ¬IsKeyOf session host event key)
      (keyEvents.foldl (Pair.deliver host now) service) := by
  induction keyEvents generalizing service may with
  | nil =>
      exact atMost.mono fun key allowed =>
        ⟨allowed, given.resolve_left (fun none => none rfl) key allowed⟩
  | cons keyEvent keyEvents inductionHypothesis =>
      obtain ⟨mode, ⟨code, isCode, union, down⟩ | ⟨-, press, -⟩⟩ :=
        told keyEvent List.mem_cons_self
      · have delivered := atMost_deliver_chr host now atMost mode typing union
        rw [down, release] at delivered
        have fewer : AtMost (fun key => may key ∧ ¬IsKeyOf session host event key)
            (Pair.deliver host now service keyEvent) := by
          refine delivered.mono ?_
          rintro key ⟨differs, allowed⟩
          refine ⟨allowed, ?_⟩
          rintro ⟨other, isOther, rfl⟩
          exact differs (by rw [Option.some.inj (isCode.symm.trans isOther)])
        exact (inductionHypothesis
          (fun other member => told other (List.mem_cons_of_mem _ member))
          (.inr fun _ allowed => allowed.2) fewer).mono fun _ allowed => allowed.1
      · rw [release] at press
        cases press

end Delivery

/-- A dead key sends nothing. -/
theorem sent_of_silent
    (dead : silent session event = true)
    (lockModes : Option (BitVec 32))
    (locks : Locks) :
    sent session event lockModes locks = [] := by
  simp only [silent, Bool.and_eq_true, decide_eq_true_eq] at dead
  simp [sent, keyEvents, modeEvents, translateKeyboardMode, dead.1, dead.2]

theorem keycode_congr
    {other : LocalEvent}
    (position : event.positionCode = other.positionCode)
    (platform : event.platformCode = other.platformCode) :
    keycode session event = keycode session other := by
  unfold keycode
  rw [position, platform]

/-- The code of a key is that of its place on the keyboard. -/
theorem codeOf_congr
    {other : LocalEvent}
    (key : event.stroke.key = other.stroke.key)
    (position : event.positionCode = other.positionCode)
    (platform : event.platformCode = other.platformCode) :
    codeOf session event = codeOf session other := by
  unfold codeOf isAltgr
  rw [key, platform, keycode_congr position platform]

/-- The host may press the key of a code that is sent, and it is not the code of a dead key. -/
def Sounds (session : Session) (host : Host Board) (event : LocalEvent) (key : Pressed) : Prop :=
  silent session event = false ∧ IsKeyOf session host event key

/-- What is saved of a press is what its releases need. -/
theorem sounds_stroke
    (stroke : Stroke GrabKey)
    (key : stroke.key = event.stroke.key)
    (pressed : Pressed) :
    Sounds session host { event with stroke } pressed ↔ Sounds session host event pressed := by
  have code : codeOf session { event with stroke } = codeOf session event :=
    codeOf_congr key rfl rfl
  simp only [Sounds, IsKeyOf, code]
  rfl

section Processing

variable (host : Host Board) (lockModes : Option (BitVec 32)) (locks : Locks) (now : Nat)
variable {pair : Pair Board}

/-- After a press the host may hold the key of it. -/
theorem Pair.service_press
    (typing : session.Typing)
    (press : event.isPress = true)
    (atMost : AtMost may pair.service) :
    AtMost (fun key => may key ∨ Sounds session host event key)
      (pair.processEvent session host event lockModes locks now).service := by
  unfold Pair.processEvent
  split
  · exact atMost.mono fun _ => .inl
  · change AtMost _ ((sent session event lockModes locks).foldl (deliver host now) pair.service)
    cases dead : silent session event with
    | true =>
        rw [sent_of_silent dead]
        exact atMost.mono fun _ => .inl
    | false =>
        have before : AtMost (fun key => may key ∨ IsKeyOf session host event key) pair.service :=
          atMost.mono fun _ => .inl
        refine (atMost_presses host now typing press (fun _ member => told_of_mem_sent member)
          before).mono ?_
        exact fun _ allowed => allowed.imp_right fun isKey => ⟨dead, isKey⟩

/-- After a release the host does not hold the key of it. -/
theorem Pair.service_release
    (typing : session.Typing)
    (release : event.isPress = false)
    (atMost : AtMost may pair.service) :
    AtMost (fun key => may key ∧ ¬Sounds session host event key)
      (pair.processEvent session host event lockModes locks now).service := by
  unfold Pair.processEvent
  rw [if_neg (by simp [Client.isLongPress, release])]
  change AtMost _ ((sent session event lockModes locks).foldl (deliver host now) pair.service)
  cases dead : silent session event with
  | true =>
      rw [sent_of_silent dead]
      exact atMost.mono fun _ allowed => ⟨allowed, fun sounds => by cases dead.symm.trans sounds.1⟩
  | false =>
      have given : sent session event lockModes locks ≠ [] ∨
          ∀ key, may key → ¬IsKeyOf session host event key := by
        cases isCode : codeOf session event with
        | none =>
            refine .inr fun key _ isKey => ?_
            obtain ⟨code, isSome, -⟩ := isKey
            cases isCode.symm.trans isSome
        | some code => exact .inl (sent_ne_nil typing release dead isCode lockModes locks)
      exact (atMost_releases host now typing release (fun _ member => told_of_mem_sent member) given
        atMost).mono fun _ allowed => ⟨allowed.1, fun sounds => allowed.2 sounds.2⟩

/-- A release is always remembered. -/
theorem Pair.client_release (release : event.isPress = false) :
    (pair.processEvent session host event lockModes locks now).client =
      pair.client.remember event := by
  unfold Pair.processEvent
  rw [if_neg (by simp [Client.isLongPress, release])]

/-- A press is remembered, or changes nothing. -/
theorem Pair.processEvent_press_cases (event : LocalEvent) :
    pair.processEvent session host event lockModes locks now = pair ∨
      (pair.processEvent session host event lockModes locks now).client =
        pair.client.remember event := by
  unfold Pair.processEvent
  split
  · exact .inl rfl
  · exact .inr rfl

end Processing

/-! ## Leaving the window -/

/-- An event of a keyboard whose keys have their places. -/
structure Typed (places : GrabKey → BitVec 32 × BitVec 32) (event : LocalEvent) : Prop where
  position : event.positionCode = (places event.stroke.key).1
  platform : event.platformCode = (places event.stroke.key).2

/-- A key has one code. -/
theorem isKeyOf_congr
    {other : LocalEvent}
    (typed : Typed places event)
    (typedOther : Typed places other)
    (same : event.stroke.key = other.stroke.key)
    {key : Pressed}
    (isKey : IsKeyOf session host event key) :
    IsKeyOf session host other key := by
  obtain ⟨code, isCode, rfl⟩ := isKey
  refine ⟨code, ?_, rfl⟩
  rw [← isCode]
  refine codeOf_congr same.symm ?_ ?_
  · rw [typed.position, typedOther.position, same]
  · rw [typed.platform, typedOther.platform, same]

/-- Every key that the host holds is excused, or is saved with a press that sounds. -/
structure Grabbed (session : Session) (host : Host Board)
    (places : GrabKey → BitVec 32 × BitVec 32) (excused : Pressed → Prop) (pair : Pair Board) :
    Prop where
  saved : ∀ key saved, pair.client.toRelease.lookup key = some saved →
    saved.stroke = .down key ∧ Typed places saved
  held : AtMost
    (fun key => excused key ∨ ∃ grabbed saved,
      pair.client.toRelease.lookup grabbed = some saved ∧ Sounds session host saved key)
    pair.service

namespace Grabbed

variable {pair : Pair Board} (lockModes : Option (BitVec 32)) (locks : Locks) (now : Nat)

/-- Of what is saved of a key, an event of that key sounds the same or is excused. -/
theorem sounds_or_excused
    (grabbed : Grabbed session host places excused pair)
    (typed : Typed places event)
    (dead : silent session event = true → ∀ key, IsKeyOf session host event key → excused key)
    {saved : LocalEvent}
    (found : pair.client.toRelease.lookup event.stroke.key = some saved)
    {key : Pressed}
    (sounds : Sounds session host saved key) :
    excused key ∨ Sounds session host event key := by
  obtain ⟨press, typedSaved⟩ := grabbed.saved _ saved found
  have isKey : IsKeyOf session host event key :=
    isKeyOf_congr typedSaved typed (by rw [press]; rfl) sounds.2
  cases isDead : silent session event with
  | true => exact .inl (dead isDead key isKey)
  | false => exact .inr ⟨isDead, isKey⟩

theorem press
    (grabbed : Grabbed session host places excused pair)
    (typing : session.Typing)
    {pressed : GrabKey}
    (isPress : event.stroke = .down pressed)
    (typed : Typed places event)
    (dead : silent session event = true → ∀ key, IsKeyOf session host event key → excused key) :
    Grabbed session host places excused
      (pair.processEvent session host event lockModes locks now) := by
  have isDown : event.isPress = true := by rw [LocalEvent.isPress, isPress]
  rcases Pair.processEvent_press_cases host lockModes locks now event with
    same | remembered
  · rw [same]
    exact grabbed
  · have entries (key : GrabKey) :
        (pair.processEvent session host event lockModes locks now).client.toRelease.lookup key =
          if key = pressed then some event else pair.client.toRelease.lookup key := by
      rw [remembered, Client.remember, isPress]
      exact Table.lookup_insert_eq pressed key event _
    refine ⟨?_, ?_⟩
    · intro key saved found
      rw [entries] at found
      split at found
      case isTrue here =>
        obtain rfl := Option.some.inj found
        exact ⟨by rw [isPress, here], typed⟩
      case isFalse => exact grabbed.saved key saved found
    · refine (Pair.service_press host lockModes locks now typing isDown grabbed.held).mono ?_
      have isNew (key : Pressed) (sounds : Sounds session host event key) :
          ∃ grabbed saved, (pair.processEvent session host event lockModes locks
            now).client.toRelease.lookup grabbed = some saved ∧ Sounds session host saved key :=
        ⟨pressed, event, by rw [entries, if_pos rfl], sounds⟩
      rintro key ((excused | ⟨held, saved, found, sounds⟩) | sounds)
      · exact .inl excused
      · by_cases here : held = pressed
        · subst here
          have foundKey : pair.client.toRelease.lookup event.stroke.key = some saved := by
            rw [isPress]
            exact found
          exact (grabbed.sounds_or_excused typed dead foundKey sounds).imp_right (isNew key)
        · exact .inr ⟨held, saved, by rw [entries, if_neg here]; exact found, sounds⟩
      · exact .inr (isNew key sounds)

theorem release
    (grabbed : Grabbed session host places excused pair)
    (typing : session.Typing)
    {released : GrabKey}
    (isRelease : event.stroke = .up released)
    (typed : Typed places event)
    (dead : silent session event = true → ∀ key, IsKeyOf session host event key → excused key) :
    Grabbed session host places excused
      (pair.processEvent session host event lockModes locks now) := by
  have isUp : event.isPress = false := by rw [LocalEvent.isPress, isRelease]
  have entries (key : GrabKey) :
      (pair.processEvent session host event lockModes locks now).client.toRelease.lookup key =
        if key = released then none else pair.client.toRelease.lookup key := by
    rw [Pair.client_release host lockModes locks now isUp, Client.remember, isRelease]
    exact Table.lookup_erase_eq released key _
  refine ⟨?_, ?_⟩
  · intro key saved found
    rw [entries] at found
    split at found
    · cases found
    · exact grabbed.saved key saved found
  · refine (Pair.service_release host lockModes locks now typing isUp grabbed.held).mono ?_
    rintro key ⟨excused | ⟨held, saved, found, sounds⟩, silenced⟩
    · exact .inl excused
    · by_cases here : held = released
      · subst here
        have foundKey : pair.client.toRelease.lookup event.stroke.key = some saved := by
          rw [isRelease]
          exact found
        exact .inl ((grabbed.sounds_or_excused typed dead foundKey sounds).resolve_right silenced)
      · exact .inr ⟨held, saved, by rw [entries, if_neg here]; exact found, sounds⟩

end Grabbed

namespace Pair

variable {pair : Pair Board} (host : Host Board) (locks : Locks) (now : Nat)

/-- Nothing is saved of other keys than one. -/
def SavesOnly (key : GrabKey) (pair : Pair Board) : Prop :=
  ∀ other, other ≠ key → pair.client.toRelease.lookup other = none

/-- A saved key goes up again. -/
theorem up_saved
    (typing : session.Typing)
    {saved : LocalEvent}
    {key : GrabKey}
    (isKey : key = saved.stroke.key)
    (only : pair.SavesOnly key)
    (atMost : AtMost may pair.service) :
    (∀ other, (pair.processEvent session host { saved with stroke := .up key } none locks
        now).client.toRelease.lookup other = none) ∧
      AtMost (fun pressed => may pressed ∧ ¬Sounds session host saved pressed)
        (pair.processEvent session host { saved with stroke := .up key } none locks
          now).service := by
  refine ⟨fun other => ?_, ?_⟩
  · rw [client_release host none locks now rfl]
    refine (Table.lookup_erase_eq key other _).trans ?_
    split
    · rfl
    case isFalse differs => exact only other differs
  · refine (service_release host none locks now typing rfl atMost).mono ?_
    rintro pressed ⟨allowed, silenced⟩
    refine ⟨allowed, fun sounds => silenced ?_⟩
    have again : Sounds session host { saved with stroke := .up key } pressed ↔
        Sounds session host saved pressed :=
      sounds_stroke (.up key) isKey pressed
    exact again.mpr sounds

/-- A saved key goes down again. -/
theorem down_saved
    (typing : session.Typing)
    {saved : LocalEvent}
    {key : GrabKey}
    (isKey : key = saved.stroke.key)
    (only : pair.SavesOnly key)
    (atMost : AtMost may pair.service) :
    (pair.processEvent session host { saved with stroke := .down key } none locks
        now).SavesOnly key ∧
      AtMost (fun pressed => may pressed ∨ Sounds session host saved pressed)
        (pair.processEvent session host { saved with stroke := .down key } none locks
          now).service := by
  refine ⟨fun other differs => ?_, ?_⟩
  · rcases processEvent_press_cases host none locks now { saved with stroke := .down key } with
      same | remembered
    · rw [same]
      exact only other differs
    · rw [remembered]
      exact ((Table.lookup_insert_eq key other _ _).trans (if_neg differs)).trans
        (only other differs)
  · refine (service_press host none locks now typing rfl atMost).mono fun pressed allowed => ?_
    have again : Sounds session host { saved with stroke := .down key } pressed ↔
        Sounds session host saved pressed := sounds_stroke (.down key) isKey pressed
    exact allowed.imp_right again.mp

/-- A saved key is released, whatever else that takes. -/
theorem releaseKey_spec
    (typing : session.Typing)
    {saved : LocalEvent}
    {key : GrabKey}
    (isKey : key = saved.stroke.key)
    (empty : ∀ other, pair.client.toRelease.lookup other = none)
    (atMost : AtMost may pair.service) :
    (∀ other, (pair.releaseKey session host locks now saved key).client.toRelease.lookup other =
        none) ∧
      AtMost (fun pressed => may pressed ∧ ¬Sounds session host saved pressed)
        (pair.releaseKey session host locks now saved key).service := by
  have first := up_saved host locks now typing isKey (fun other _ => empty other) atMost
  unfold releaseKey releasing
  split
  · have again := down_saved host locks now typing isKey (fun other _ => first.1 other) first.2
    have last := up_saved host locks now typing isKey again.1 again.2
    refine ⟨last.1, last.2.mono ?_⟩
    rintro pressed ⟨allowed | sounds, silenced⟩
    · exact ⟨allowed.1, silenced⟩
    · exact absurd sounds silenced
  · exact first

/-- The keys of an order are released, as far as they are saved. -/
theorem releaseSaved_spec
    (typing : session.Typing)
    (saved : Table GrabKey LocalEvent)
    (keyed : ∀ key event, saved.lookup key = some event → key = event.stroke.key)
    {order : List GrabKey}
    {pair : Pair Board}
    (empty : ∀ other, pair.client.toRelease.lookup other = none)
    (atMost : AtMost
      (fun pressed => excused pressed ∨ ∃ key ∈ order, ∃ event,
        saved.lookup key = some event ∧ Sounds session host event pressed)
      pair.service) :
    (∀ other, (pair.releaseSaved session host saved order locks now).client.toRelease.lookup
        other = none) ∧
      AtMost excused (pair.releaseSaved session host saved order locks now).service := by
  induction order generalizing pair with
  | nil => exact ⟨empty, atMost.mono fun _ allowed => by simpa using allowed⟩
  | cons key order inductionHypothesis =>
      rw [releaseSaved, List.foldl_cons]
      refine inductionHypothesis ?_ ?_
      · split
        case h_1 event found =>
          exact (releaseKey_spec host locks now typing (keyed key event found) empty atMost).1
        case h_2 => exact empty
      · split
        case h_1 event found =>
          refine (releaseKey_spec host locks now typing (keyed key event found) empty
            atMost).2.mono ?_
          rintro pressed ⟨isExcused | ⟨other, member, saving, foundOther, sounds⟩, silenced⟩
          · exact .inl isExcused
          · rcases List.mem_cons.mp member with rfl | later
            · obtain rfl := Option.some.inj (found.symm.trans foundOther)
              exact absurd sounds silenced
            · exact .inr ⟨other, later, saving, foundOther, sounds⟩
        case h_2 missing =>
          refine atMost.mono fun pressed allowed => allowed.imp_right ?_
          rintro ⟨other, member, saving, foundOther, sounds⟩
          rcases List.mem_cons.mp member with rfl | later
          · rw [missing] at foundOther
            cases foundOther
          · exact ⟨other, later, saving, foundOther, sounds⟩

/-- The order in which a map gives its keys has all of them. -/
def Covers (pair : Pair Board) : PairEvent → Prop
  | .leave order _ _ => ∀ key, (pair.client.toRelease.lookup key).isSome → key ∈ order
  | _ => True

/-- When the keyboard leaves, nothing is saved and nothing is held that is not excused. -/
theorem leave_spec
    (typing : session.Typing)
    (grabbed : Grabbed session host places excused pair)
    {order : List GrabKey}
    (covers : ∀ key, (pair.client.toRelease.lookup key).isSome → key ∈ order) :
    (∀ other, (pair.releaseRemoteKeys session host order locks now).client.toRelease.lookup
        other = none) ∧
      AtMost excused (pair.releaseRemoteKeys session host order locks now).service := by
  have empty (other : GrabKey) : ({ pair with client := { pair.client with toRelease := ∅ } } :
      Pair Board).client.toRelease.lookup other = none := rfl
  refine releaseSaved_spec host locks now typing pair.client.toRelease ?_ empty ?_
  · intro key event found
    rw [(grabbed.saved key event found).1]
    rfl
  · refine grabbed.held.mono fun pressed allowed => allowed.imp_right ?_
    rintro ⟨key, saved, found, sounds⟩
    exact ⟨key, covers key (by rw [found]; rfl), saved, found, sounds⟩

end Pair

/-- What a step asks of the keyboard, and of the keys that are excused. -/
def Admissible (session : Session) (host : Host Board)
    (places : GrabKey → BitVec 32 × BitVec 32) (excused : Pressed → Prop) (pair : Pair Board)
    (event : PairEvent) : Prop :=
  pair.Covers event ∧
    ∀ typed lockModes locks now, event = .typed typed lockModes locks now →
      Typed places typed ∧
        (silent session typed = true → ∀ key, IsKeyOf session host typed key → excused key)

theorem Grabbed.step
    {pair : Pair Board}
    (typing : session.Typing)
    (grabbed : Grabbed session host places excused pair)
    {event : PairEvent}
    (admissible : Admissible session host places excused pair event) :
    Grabbed session host places excused (pair.step session host event) := by
  cases event with
  | typed event lockModes locks now =>
      obtain ⟨typed, dead⟩ := admissible.2 event lockModes locks now rfl
      cases isStroke : event.stroke with
      | down key => exact grabbed.press lockModes locks now typing isStroke typed dead
      | up key => exact grabbed.release lockModes locks now typing isStroke typed dead
  | leave order locks now =>
      obtain ⟨empty, held⟩ := Pair.leave_spec host locks now typing grabbed admissible.1
      refine ⟨fun key saved found => ?_, held.mono fun _ => .inl⟩
      cases (empty key).symm.trans found
  | timer now => exact ⟨grabbed.saved, grabbed.held.fixKeys false now _⟩

/-- A client under Linux that types in map mode to another one. -/
def linuxSession : Session where
  rdev :=
    { winScancodeToMacosIsoCode := some, winScancodeToMacosCode := some
      winScancodeToAndroidKeyCode := some, winScancodeToLinuxCode := some
      macosCodeToWinScancode := some, macosCodeToAndroidKeyCode := some
      macosCodeToLinuxCode := some, linuxCodeToWinScancode := some
      linuxCodeToMacosIsoCode := some, linuxCodeToMacosCode := some
      linuxCodeToAndroidKeyCode := some
      keyFromCode := fun _ code => .other code.toNat
      codeFromKey := fun _ _ => none }
  platform := .linux
  peer := .other
  iso := false
  allowSwapKey := false
  mode := .map

/-- A key under X11, which has its code from its place. -/
def x11Key (stroke : Stroke GrabKey) : LocalEvent :=
  ⟨stroke, if stroke.key = .shiftLeft then 50 else 38, 0, none⟩

/-- Shift and a letter go down. -/
def typesCapital : List PairEvent :=
  [.typed (x11Key (.down .shiftLeft)) none ⟨false, false⟩ 0,
    .typed (x11Key (.down (.letter 0))) none ⟨false, false⟩ 0]

end Grab
end Keyboard
end OneDesk
