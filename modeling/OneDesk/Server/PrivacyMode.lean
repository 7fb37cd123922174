import OneDesk.Lib.Run

/-!
# Privacy mode

One privacy mode is shared by all connections of a host.  It remembers the
connection it belongs to, and both turning it on and turning it off ask for that
connection, except that the id 0 may always turn it off.  A connection waits for
its request while a thread serves it, for at most 7.5 seconds where the
implementation is slow; the thread goes on nevertheless.
-/

namespace OneDesk
namespace Server
namespace PrivacyMode

/-- The connection privacy mode belongs to while it is off. -/
def invalidPrivacyModeConnId : Nat := 0

def occupied : String := "Privacy occupied by another one."

def turnOffOtherId : String :=
  "Failed to turn off privacy mode that belongs to someone else."

/-- Key of the implementation that plugs in a virtual display. -/
def implVirtualDisplay : String := "privacy_mode_impl_virtual_display"

/-- What a host is started with. -/
structure Setup where
  /-- `DEFAULT_PRIVACY_MODE_IMPL`, empty if there is none. -/
  defaultImpl : String
  /-- Keys of `PRIVACY_MODE_CREATOR`. -/
  creators : List String

/-- What the operating system answers while an event is handled. -/
structure Os where
  /-- Keys of `get_supported_privacy_mode_impl`. -/
  supportedImpls : List String
  /-- The option `privacy-mode-impl-key`. -/
  implOption : String
  isAmyuniIdd : Bool
  isVirtualDisplaySupported : Bool
  /-- The outcome of turning on, once the checks have passed. -/
  turnOn : Except String Bool
  /-- Why turning off fails, once the check has passed. -/
  turnOffError : Option String
  /-- The result of `check_privacy_mode_err`. -/
  privacyModeErr : String

/-- An implementation of privacy mode and the connection it belongs to. -/
structure Impl where
  implKey : String
  connId : Nat
  deriving DecidableEq

namespace Impl

variable (os : Os) (impl : Impl)

/-- Whether a connection has privacy mode already; an error if another one has. -/
def checkOnConnId (connId : Nat) : Except String Bool :=
  if impl.connId = connId then .ok true
  else if impl.connId ≠ invalidPrivacyModeConnId then .error occupied
  else .ok false

/-- Whether a connection may turn privacy mode off. -/
def checkOffConnId (connId : Nat) : Except String Unit :=
  if impl.connId ≠ invalidPrivacyModeConnId ∧ connId ≠ invalidPrivacyModeConnId ∧
      impl.connId ≠ connId then
    .error turnOffOtherId
  else .ok ()

def isAsyncPrivacyMode : Bool := impl.implKey == implVirtualDisplay && os.isAmyuniIdd

/-- `turn_on_privacy` of the implementations. -/
def turnOnPrivacy (connId : Nat) : Impl × Except String Bool :=
  if impl.implKey = implVirtualDisplay ∧ os.isVirtualDisplaySupported = false then
    (impl, .error "idd_not_support_under_win10_2004_tip")
  else
    match impl.checkOnConnId connId with
    | .error error => (impl, .error error)
    | .ok true => (impl, .ok true)
    | .ok false =>
        match os.turnOn with
        | .ok true => ({ impl with connId := connId }, .ok true)
        | .ok false => (impl, .ok false)
        | .error error => (impl, .error error)

/-- `turn_off_privacy` of the implementations. -/
def turnOffPrivacy (connId : Nat) : Impl × Except String Unit :=
  match impl.checkOffConnId connId with
  | .error error => (impl, .error error)
  | .ok () =>
      match os.turnOffError with
      | some error => (impl, .error error)
      | none => ({ impl with connId := invalidPrivacyModeConnId }, .ok ())

end Impl

/-- The global `PRIVACY_MODE`. -/
abbrev Mode := Option Impl

section Mode

variable (setup : Setup) (os : Os) (mode : Mode)

def isPrivacyModeSupported : Bool := setup.defaultImpl != ""

/-- The connection privacy mode belongs to, 0 if it is off. -/
def owner : Nat := (mode.map Impl.connId).getD invalidPrivacyModeConnId

def isInPrivacyMode : Bool := owner mode != invalidPrivacyModeConnId

def getPrivacyModeConnId : Option Nat := mode.map Impl.connId

/-- An implementation that is not supported falls back to the option, then to the
default. -/
def getSupportedImpl (implKey : String) : String :=
  if os.supportedImpls.contains implKey then implKey
  else if os.supportedImpls.contains os.implOption then os.implOption
  else setup.defaultImpl

/-- Turn the current implementation on, after replacing it if it is another one. -/
def startImpl (implKey : String) (connId : Nat) :
    Mode × Option (Except String Bool) :=
  if (mode.map Impl.implKey).getD "" ≠ implKey then
    if setup.creators.contains implKey then
      -- The old one is cleared and dropped, whatever comes of it.
      let started := Impl.turnOnPrivacy os ⟨implKey, invalidPrivacyModeConnId⟩ connId
      (some started.1, some started.2)
    else (mode, some (.error s!"Unsupported privacy mode: {implKey}"))
  else
    match mode with
    | some impl =>
        let started := impl.turnOnPrivacy os connId
        (some started.1, some started.2)
    | none => (none, none)

/-- `turn_on_privacy_sync`, under the lock of the mode. -/
def turnOnPrivacySync (requested : String) (connId : Nat) :
    Mode × Option (Except String Bool) :=
  let implKey := getSupportedImpl setup os requested
  match mode with
  | none => startImpl setup os mode implKey connId
  | some impl =>
      match impl.checkOnConnId connId with
      | .error error => (mode, some (.error error))
      | .ok already =>
          if already = true ∧ impl.implKey = implKey then (mode, some (.ok true))
          else startImpl setup os mode implKey connId

def turnOffPrivacy (connId : Nat) : Mode := mode.map fun impl =>
  (impl.turnOffPrivacy os connId).1

/-- The user chooses another implementation. -/
def switch (implKey : String) : Mode :=
  if mode.map Impl.implKey = some implKey then mode
  else if setup.creators.contains implKey then
    some ⟨implKey, invalidPrivacyModeConnId⟩
  else mode

/-- A free privacy mode can be turned on: the implementation is there or can be
created, and the operating system follows. -/
def starts (requested : String) : Prop :=
  (mode.map Impl.implKey = some (getSupportedImpl setup os requested) ∨
    getSupportedImpl setup os requested ∈ setup.creators) ∧
  ¬(getSupportedImpl setup os requested = implVirtualDisplay ∧
    os.isVirtualDisplaySupported = false) ∧
  os.turnOn = .ok true

/-- Only its owner and the id 0 turn privacy mode off. -/
theorem owner_turnOffPrivacy (connId : Nat) :
    owner (turnOffPrivacy os mode connId) =
      if os.turnOffError = none ∧ (connId = 0 ∨ owner mode = connId) then 0
      else owner mode := by
  cases mode with
  | none => exact (ite_self 0).symm
  | some impl =>
      change (impl.turnOffPrivacy os connId).1.connId =
        if os.turnOffError = none ∧ (connId = 0 ∨ impl.connId = connId) then 0
        else impl.connId
      unfold Impl.turnOffPrivacy Impl.checkOffConnId invalidPrivacyModeConnId
      by_cases foreign : impl.connId ≠ 0 ∧ connId ≠ 0 ∧ impl.connId ≠ connId
      · rw [if_pos foreign, if_neg]
        rintro ⟨_, free | own⟩
        · exact foreign.2.1 free
        · exact foreign.2.2 own
      · rw [if_neg foreign]
        cases os.turnOffError with
        | some error => simp
        | none =>
            by_cases off : impl.connId = 0
            · simp [off]
            · have allowed : connId = 0 ∨ impl.connId = connId := by
                by_contra other
                exact foreign ⟨off, fun free => other (.inl free),
                  fun own => other (.inr own)⟩
              rw [if_pos ⟨rfl, allowed⟩]

/-- An implementation that is free is taken only if the operating system follows. -/
theorem Impl.turnOnPrivacy_free
    (implKey : String)
    {connId : Nat}
    (valid : connId ≠ 0) :
    let started := Impl.turnOnPrivacy os ⟨implKey, invalidPrivacyModeConnId⟩ connId
    started.1.connId = 0 ∨
      started.1.connId = connId ∧ started.2 = .ok true ∧
        ¬(implKey = implVirtualDisplay ∧ os.isVirtualDisplaySupported = false) ∧
          os.turnOn = .ok true := by
  unfold Impl.turnOnPrivacy Impl.checkOnConnId invalidPrivacyModeConnId
  dsimp only
  split
  · exact .inl rfl
  next supported =>
    rw [if_neg valid.symm, if_neg (by simp)]
    dsimp only
    split
    next follows => exact .inr ⟨rfl, rfl, supported, follows⟩
    · exact .inl rfl
    · exact .inl rfl

/-- Results a connection may have while privacy mode is its own. -/
def mayOwn : Option (Except String Bool) → Bool
  | some (.ok on) => on
  | some (.error _) => true
  | none => false

/-- What a request can do to the owner. -/
structure Grants (connId : Nat) (before : Mode) (possible : Prop)
    (started : Mode × Option (Except String Bool)) : Prop where
  result : owner started.1 = connId → mayOwn started.2 = true
  foreign : owner before ≠ 0 → owner before ≠ connId → owner started.1 = owner before
  own : owner before = connId → owner started.1 = connId ∨ owner started.1 = 0
  free : owner before = 0 → owner started.1 = 0 ∨ owner started.1 = connId ∧ possible

theorem startImpl_grants
    (requested : String)
    {connId : Nat}
    (valid : connId ≠ 0)
    (unowned : owner mode = 0 ∨ owner mode = connId ∧
      mode.map Impl.implKey ≠ some (getSupportedImpl setup os requested)) :
    Grants connId mode (starts setup os mode requested)
      (startImpl setup os mode (getSupportedImpl setup os requested) connId) := by
  have mine : owner mode = 0 ∨ owner mode = connId := unowned.imp id And.left
  have foreign : ∀ after : Mode × Option (Except String Bool), owner mode ≠ 0 →
      owner mode ≠ connId → owner after.1 = owner mode :=
    fun _ on other => absurd mine (not_or.mpr ⟨on, other⟩)
  -- A free implementation of that key is turned on.
  have turnedOn : (mode.map Impl.implKey = some (getSupportedImpl setup os requested) ∨
      getSupportedImpl setup os requested ∈ setup.creators) →
      Grants connId mode (starts setup os mode requested)
        (some (Impl.turnOnPrivacy os
            ⟨getSupportedImpl setup os requested, invalidPrivacyModeConnId⟩ connId).1,
          some (Impl.turnOnPrivacy os
            ⟨getSupportedImpl setup os requested, invalidPrivacyModeConnId⟩
              connId).2) := by
    intro there
    rcases Impl.turnOnPrivacy_free os (getSupportedImpl setup os requested) valid with
      off | ⟨on, result, supported, follows⟩
    · exact ⟨fun taken => absurd (taken.symm.trans off) valid, foreign _,
        fun _ => .inr off, fun _ => .inl off⟩
    · refine ⟨fun _ => ?_, foreign _, fun _ => .inl on,
        fun _ => .inr ⟨on, there, supported, follows⟩⟩
      dsimp only
      rw [result]
      rfl
  unfold startImpl
  split
  · split
    next created =>
      exact turnedOn (.inr (List.contains_iff_mem.mp created))
    · exact ⟨fun _ => rfl, fun _ _ => rfl, fun own => .inl own, fun free => .inl free⟩
  next same =>
    cases mode with
    | none =>
        exact ⟨fun taken => absurd taken.symm valid, fun _ _ => rfl, fun _ => .inr rfl,
          fun _ => .inl rfl⟩
    | some impl =>
        have sameKey : impl.implKey = getSupportedImpl setup os requested :=
          not_not.mp same
        have off : impl.connId = 0 := by
          rcases unowned with off | ⟨_, otherKey⟩
          · exact off
          · exact absurd (congrArg some sameKey) otherKey
        have current : Impl.turnOnPrivacy os impl connId = Impl.turnOnPrivacy os
            ⟨getSupportedImpl setup os requested, invalidPrivacyModeConnId⟩ connId := by
          obtain ⟨implKey, ownerId⟩ := impl
          cases sameKey
          cases off
          rfl
        dsimp only
        rw [current]
        exact turnedOn (.inl (congrArg some sameKey))

/-- What `turn_on_privacy_sync` can do to the owner. -/
theorem turnOnPrivacySync_grants
    (requested : String)
    {connId : Nat}
    (valid : connId ≠ 0) :
    Grants connId mode (starts setup os mode requested)
      (turnOnPrivacySync setup os mode requested connId) := by
  unfold turnOnPrivacySync
  cases mode with
  | none => exact startImpl_grants setup os none requested valid (.inl rfl)
  | some impl =>
      dsimp only
      unfold Impl.checkOnConnId
      by_cases own : impl.connId = connId
      · rw [if_pos own]
        dsimp only
        split
        · exact ⟨fun _ => rfl, fun _ _ => rfl, fun _ => .inl own, fun free => .inl free⟩
        next other =>
          refine startImpl_grants setup os (some impl) requested valid (.inr ⟨own, ?_⟩)
          intro sameKey
          exact other ⟨rfl, Option.some.inj sameKey⟩
      rw [if_neg own]
      by_cases on : impl.connId ≠ invalidPrivacyModeConnId
      · rw [if_pos on]
        exact ⟨fun _ => rfl, fun _ _ => rfl, fun own => .inl own, fun free => .inl free⟩
      · rw [if_neg on]
        dsimp only
        rw [if_neg (by simp)]
        exact startImpl_grants setup os (some impl) requested valid
          (.inl (not_not.mp on))

end Mode

/-! ## The connections of a host -/

/-- Answers to a request to turn privacy mode on. -/
inductive Answer
  | notSupported (details implKey : String)
  | onSucceeded (implKey : String)
  | onFailed (details implKey : String)
  | onFailedPlugin (implKey : String)
  | offFailed (details implKey : String)
  deriving DecidableEq

/-- Whether a connection is told that privacy mode is not on. -/
def Answer.isFailure : Answer → Bool
  | .onSucceeded _ => false
  | _ => true

/-- Where the task of a connection is. -/
inductive Phase
  | idle
  /-- It waits for a thread; only some wait with a deadline. -/
  | waiting (thread : Nat) (deadline : Bool) (implKey : String)
  /-- It has a result, or gave up. -/
  | received (implKey : String) (result : Option (Except String Bool))
  /-- The request failed and privacy mode is on. -/
  | clearing (error implKey : String)
  /-- It ends, and saw that privacy mode is its own. -/
  | leaving
  /-- It ends, and `AuthedConnID` is still to be dropped. -/
  | left
  | ended

/-- An authorized connection, and what it was told last. -/
structure Member where
  phase : Phase
  told : Option Answer

/-- Whether privacy mode may be on for a connection where it is now. -/
def Member.mayOwn (member : Member) : Bool :=
  match member.phase with
  | .idle => member.told.all fun answer => !answer.isFailure
  | .waiting _ _ _ => true
  | .received _ result => PrivacyMode.mayOwn result
  | .clearing _ _ => true
  | .leaving => true
  | .left => false
  | .ended => false

/-- A thread that has not got the lock yet. -/
structure Thread where
  number : Nat
  connId : Nat
  implKey : String

/-- A host with its authorized connections. -/
structure System where
  mode : Mode
  idCount : Nat
  members : Nat → Option Member
  /-- Connections of type `Remote` in `AUTHED_CONNS`. -/
  remotes : List Nat
  threads : List Thread
  nextThread : Nat

/-- Steps of the connections, of their threads, and of the host. -/
inductive Event
  | opens (isRemote : Bool)
  | asksOn (id : Nat) (implKey : String)
  | runs (thread : Nat)
  | timesOut (id : Nat)
  | answers (id : Nat)
  | clears (id : Nat)
  | asksOff (id : Nat)
  | leaves (id : Nat)
  | turnsOff (id : Nat)
  | drops (id : Nat)
  /-- The user closes everything. -/
  | hostTurnsOff
  /-- The user chooses another implementation. -/
  | hostSwitches (implKey : String)

/-- An event with what the operating system answers. -/
structure Input where
  os : Os
  event : Event

namespace System

variable (setup : Setup) (os : Os) (system : System)

/-- Phase of a connection. -/
def phase (id : Nat) : Option Phase := (system.members id).map Member.phase

/-- A connection goes on to another phase. -/
def enter (id : Nat) (phase : Phase) : System :=
  { system with
    members := Function.update system.members id
      ((system.members id).map fun member => { member with phase := phase }) }

/-- A connection is answered. -/
def tell (id : Nat) (answer : Answer) : System :=
  { system with
    members := Function.update system.members id
      ((system.members id).map fun _ => ⟨.idle, some answer⟩) }

/-- `turn_off_privacy` on the global mode. -/
def turnOffPrivacy (connId : Nat) : System :=
  { system with mode := PrivacyMode.turnOffPrivacy os system.mode connId }

/-- A new connection gets the next id. -/
def opens (isRemote : Bool) : System :=
  { system with
    idCount := system.idCount + 1
    members := Function.update system.members (system.idCount + 1)
      (some ⟨.idle, none⟩)
    remotes :=
      if isRemote then system.remotes ++ [system.idCount + 1] else system.remotes }

/-- `Connection::turn_on_privacy` up to the wait. -/
def asksOn (id : Nat) (implKey : String) : System :=
  if isPrivacyModeSupported setup = false then
    system.tell id (.notSupported ("Unsupported. 1 Multi-screen is not supported. " ++
      "2 Please confirm the license is activated.") implKey)
  else
    { system.enter id (.waiting system.nextThread
        ((system.mode.map fun impl => impl.isAsyncPrivacyMode os).getD false)
        implKey) with
      threads := system.threads ++ [⟨system.nextThread, id, implKey⟩]
      nextThread := system.nextThread + 1 }

/-- A thread gets the lock, and hands its result to a connection that still
waits. -/
def runs (thread : Thread) : System :=
  let started := turnOnPrivacySync setup os system.mode thread.implKey thread.connId
  let served :=
    { system with
      mode := started.1
      threads := system.threads.filter fun other => other.number != thread.number }
  match system.phase thread.connId with
  | some (.waiting number _ implKey) =>
      if number = thread.number then
        served.enter thread.connId (.received implKey started.2)
      else served
  | _ => served

/-- `Connection::turn_on_privacy` after the wait. -/
def answers (id : Nat) (implKey : String) : Option (Except String Bool) → System
  | some (.ok true) =>
      if os.privacyModeErr = "" then system.tell id (.onSucceeded implKey)
      else
        (system.turnOffPrivacy os id).tell id (.onFailed os.privacyModeErr implKey)
  | some (.ok false) => system.tell id (.onFailedPlugin implKey)
  | some (.error error) =>
      if isInPrivacyMode system.mode then system.enter id (.clearing error implKey)
      else system.tell id (.onFailed error implKey)
  | none => system.tell id (.offFailed "Not supported" implKey)

/-- The drop of `AuthedConnID`: without a remote connection the virtual displays
are reset, and privacy mode with them. -/
def drops (id : Nat) : System :=
  let dropped :=
    { system.enter id .ended with
      remotes := system.remotes.filter fun other => other != id }
  if dropped.remotes.isEmpty && os.isAmyuniIdd then
    dropped.turnOffPrivacy os invalidPrivacyModeConnId
  else dropped

/-- One event. -/
def step (input : Input) : System :=
  match input.event with
  | .opens isRemote => system.opens isRemote
  | .asksOn id implKey =>
      match system.phase id with
      | some .idle => system.asksOn setup input.os id implKey
      | _ => system
  | .runs number =>
      match system.threads.find? fun thread => thread.number == number with
      | some thread => system.runs setup input.os thread
      | none => system
  | .timesOut id =>
      match system.phase id with
      | some (.waiting _ true implKey) =>
          system.enter id (.received implKey (some (.error "deadline has elapsed")))
      | _ => system
  | .answers id =>
      match system.phase id with
      | some (.received implKey result) => system.answers input.os id implKey result
      | _ => system
  | .clears id =>
      match system.phase id with
      | some (.clearing error implKey) =>
          (system.turnOffPrivacy input.os invalidPrivacyModeConnId).tell id
            (.onFailed error implKey)
      | _ => system
  | .asksOff id =>
      match system.phase id with
      | some .idle =>
          if isPrivacyModeSupported setup then system.turnOffPrivacy input.os id
          else system
      | _ => system
  | .leaves id =>
      match system.phase id with
      | some .idle =>
          if getPrivacyModeConnId system.mode = some id then system.enter id .leaving
          else system.enter id .left
      | _ => system
  | .turnsOff id =>
      match system.phase id with
      | some .leaving => (system.turnOffPrivacy input.os id).enter id .left
      | _ => system
  | .drops id =>
      match system.phase id with
      | some .left => system.drops input.os id
      | _ => system
  | .hostTurnsOff => system.turnOffPrivacy input.os invalidPrivacyModeConnId
  | .hostSwitches implKey =>
      { system with mode := PrivacyMode.switch setup system.mode implKey }

/-- A host without connections, with an implementation at most chosen. -/
def init (implKey : Option String) : System :=
  ⟨implKey.map fun key => ⟨key, invalidPrivacyModeConnId⟩, 0, fun _ => none, [], [], 0⟩

/-! ## Whose privacy mode it is -/

/-- The connection privacy mode belongs to. -/
def owner : Nat := PrivacyMode.owner system.mode

/-- The connection an event acts for. -/
def actor : Event → Option Nat
  | .opens _ => none
  | .asksOn id _ => some id
  | .runs number =>
      (system.threads.find? fun thread => thread.number == number).map Thread.connId
  | .timesOut id => some id
  | .answers id => some id
  | .clears id => some id
  | .asksOff id => some id
  | .leaves id => some id
  | .turnsOff id => some id
  | .drops id => some id
  | .hostTurnsOff => none
  | .hostSwitches _ => none

/-- Privacy mode changes hands only by its owner or by the host. -/
def Respects (input : Input) : Prop :=
  system.owner = 0 ∨ (system.step setup input).owner = system.owner ∨
    system.actor input.event = some system.owner ∨
      input.event = .hostTurnsOff ∨ ∃ implKey, input.event = .hostSwitches implKey

/-- All requests have finished. -/
def Settled : Prop :=
  system.threads = [] ∧ ∀ id phase, system.phase id = some phase →
    phase = .idle ∨ phase = .ended

/-- Privacy mode is on for a connection that is there and was not told that it
failed. -/
def WellOwned : Prop :=
  system.owner ≠ 0 → ∃ member, system.members system.owner = some member ∧
    member.phase ≠ .ended ∧ ∀ answer, member.told = some answer →
      answer.isFailure = false

/-- The steps that break it: a connection whose request failed turns off what
belongs to another one, or cannot turn off what is its own; a thread succeeds
whose connection has given up and looked away; a connection that ends cannot turn
privacy mode off; the last remote connection takes the privacy mode of another
kind of connection with it. -/
def Disturbs (input : Input) : Prop :=
  match input.event with
  | .runs number => ∃ thread,
      (system.threads.find? fun thread => thread.number == number) = some thread ∧
      system.owner = 0 ∧ starts setup input.os system.mode thread.implKey ∧
      ∀ member, system.members thread.connId = some member → member.mayOwn = false
  | .answers id =>
      (∃ implKey, system.phase id = some (.received implKey (some (.ok true)))) ∧
      input.os.privacyModeErr ≠ "" ∧ system.owner = id ∧
      input.os.turnOffError ≠ none
  | .clears id =>
      (∃ error implKey, system.phase id = some (.clearing error implKey)) ∧
      system.owner ≠ 0 ∧
      (system.owner ≠ id ∧ input.os.turnOffError = none ∨
        system.owner = id ∧ input.os.turnOffError ≠ none)
  | .turnsOff id =>
      system.phase id = some .leaving ∧ system.owner = id ∧
      input.os.turnOffError ≠ none
  | .drops id =>
      system.phase id = some .left ∧
      (system.remotes.filter fun other => other != id) = [] ∧
      input.os.isAmyuniIdd = true ∧ system.owner ≠ 0 ∧ system.owner ≠ id ∧
      input.os.turnOffError = none
  | _ => False

/-- The invariant of all runs without such a step. -/
structure Sound : Prop where
  valid : system.members 0 = none
  threads : ∀ thread ∈ system.threads, thread.connId ≠ 0
  unsupported : isPrivacyModeSupported setup = false →
    system.owner = 0 ∧ system.threads = []
  owned : system.owner ≠ 0 → ∃ member, system.members system.owner = some member ∧
    member.mayOwn = true

variable {setup os system}

theorem ne_zero_of_phase
    (sound : system.Sound setup)
    {id : Nat}
    {phase : Phase}
    (there : system.phase id = some phase) :
    id ≠ 0 := by
  rintro rfl
  rw [System.phase, sound.valid] at there
  cases there

/-- Privacy mode is turned off, or not. -/
theorem Sound.withMode
    (sound : system.Sound setup)
    {mode : Mode}
    (owned : PrivacyMode.owner mode = system.owner ∨ PrivacyMode.owner mode = 0) :
    System.Sound setup { system with mode := mode } := by
  refine ⟨sound.valid, sound.threads, fun missing => ⟨?_, (sound.unsupported missing).2⟩,
    fun on => ?_⟩
  · rcases owned with same | off
    · exact same.trans (sound.unsupported missing).1
    · exact off
  · rcases owned with same | off
    · have stillOn : system.owner ≠ 0 := fun off => on (same.trans off)
      obtain ⟨member, there, may⟩ := sound.owned stillOn
      refine ⟨member, ?_, may⟩
      change system.members (PrivacyMode.owner mode) = some member
      rw [same]
      exact there
    · exact absurd off on

/-- A connection that may keep privacy mode changes. -/
theorem Sound.withMember
    (sound : system.Sound setup)
    {id : Nat}
    (changed : Member → Member)
    (may : system.owner = id → ∀ member, system.members id = some member →
      member.mayOwn = true → (changed member).mayOwn = true) :
    System.Sound setup { system with
      members := Function.update system.members id ((system.members id).map changed) } := by
  refine ⟨?_, sound.threads, sound.unsupported, fun on => ?_⟩
  · change Function.update system.members id ((system.members id).map changed) 0 = none
    by_cases zero : 0 = id
    · subst zero
      rw [Function.update_self, sound.valid]
      rfl
    · rw [Function.update_of_ne zero]
      exact sound.valid
  · obtain ⟨member, there, mine⟩ := sound.owned on
    change ∃ member, Function.update system.members id
      ((system.members id).map changed) system.owner = some member ∧ _
    by_cases own : system.owner = id
    · rw [own] at there
      refine ⟨changed member, ?_, may own member there mine⟩
      rw [own, Function.update_self, there]
      rfl
    · rw [Function.update_of_ne own]
      exact ⟨member, there, mine⟩

theorem Sound.enter
    (sound : system.Sound setup)
    {id : Nat}
    {phase : Phase}
    (may : system.owner = id → ∀ told, (⟨phase, told⟩ : Member).mayOwn = true) :
    (system.enter id phase).Sound setup :=
  sound.withMember _ fun own member _ _ => may own member.told

theorem Sound.tell
    (sound : system.Sound setup)
    {id : Nat}
    {answer : Answer}
    (may : system.owner = id → answer.isFailure = false) :
    (system.tell id answer).Sound setup := by
  refine sound.withMember (fun _ => ⟨.idle, some answer⟩) fun own _ _ _ => ?_
  change (!answer.isFailure) = true
  rw [may own]
  rfl

theorem owner_turnOff (connId : Nat) :
    (system.turnOffPrivacy os connId).owner =
      if os.turnOffError = none ∧ (connId = 0 ∨ system.owner = connId) then 0
      else system.owner :=
  owner_turnOffPrivacy os system.mode connId

theorem Sound.turnOff
    (sound : system.Sound setup)
    (connId : Nat) :
    (system.turnOffPrivacy os connId).Sound setup := by
  refine sound.withMode ?_
  rw [owner_turnOffPrivacy]
  split
  · exact .inr rfl
  · exact .inl rfl

/-- Turning off as another connection does nothing. -/
theorem owner_turnOff_foreign
    {connId : Nat}
    (valid : connId ≠ 0)
    (foreign : system.owner ≠ connId) :
    (system.turnOffPrivacy os connId).owner = system.owner := by
  rw [owner_turnOff, if_neg]
  rintro ⟨_, zero | own⟩
  · exact valid zero
  · exact foreign own

/-- Turning off what is one's own. -/
theorem owner_turnOff_own
    {connId : Nat}
    (succeeds : system.owner = connId → os.turnOffError = none)
    (valid : connId ≠ 0) :
    (system.turnOffPrivacy os connId).owner ≠ connId := by
  rw [owner_turnOff]
  split
  · exact valid.symm
  next fails =>
    intro own
    exact fails ⟨succeeds own, .inr own⟩

theorem sound_opens
    (sound : system.Sound setup)
    (isRemote : Bool) :
    (system.opens isRemote).Sound setup := by
  refine ⟨?_, sound.threads, sound.unsupported, fun on => ?_⟩
  · change Function.update system.members (system.idCount + 1) (some ⟨.idle, none⟩) 0 =
      none
    rw [Function.update_of_ne (by omega)]
    exact sound.valid
  · change ∃ member, Function.update system.members (system.idCount + 1)
      (some ⟨.idle, none⟩) system.owner = some member ∧ _
    by_cases same : system.owner = system.idCount + 1
    · rw [same, Function.update_self]
      exact ⟨_, rfl, rfl⟩
    · rw [Function.update_of_ne same]
      exact sound.owned on

theorem sound_asksOn
    (sound : system.Sound setup)
    {id : Nat}
    (implKey : String)
    (idle : system.phase id = some .idle) :
    (system.asksOn setup os id implKey).Sound setup := by
  have valid := ne_zero_of_phase sound idle
  unfold asksOn
  split
  next missing =>
    refine sound.tell fun own => ?_
    exact absurd (own.symm.trans (sound.unsupported missing).1) valid
  next supported =>
    have waits : (system.enter id (.waiting system.nextThread
        ((system.mode.map fun impl => impl.isAsyncPrivacyMode os).getD false)
        implKey)).Sound setup :=
      sound.enter fun _ _ => rfl
    refine ⟨waits.valid, ?_, fun missing => absurd missing supported, waits.owned⟩
    intro thread member
    rcases List.mem_append.mp member with earlier | new
    · exact sound.threads thread earlier
    · rw [List.mem_singleton.mp new]
      exact valid

/-- A thread that serves a request leaves the privacy mode of others alone. -/
theorem owner_runs (thread : Thread) :
    (system.runs setup os thread).owner =
      PrivacyMode.owner
        (turnOnPrivacySync setup os system.mode thread.implKey thread.connId).1 := by
  unfold runs
  dsimp only
  split
  · split <;> rfl
  · rfl

theorem sound_runs
    (sound : system.Sound setup)
    {thread : Thread}
    (member : thread ∈ system.threads)
    (watched : system.owner = 0 → starts setup os system.mode thread.implKey →
      ∃ member, system.members thread.connId = some member ∧ member.mayOwn = true) :
    (system.runs setup os thread).Sound setup := by
  have valid := sound.threads thread member
  have grants := turnOnPrivacySync_grants setup os system.mode thread.implKey valid
  have supported : ¬isPrivacyModeSupported setup = false := by
    intro missing
    rw [(sound.unsupported missing).2] at member
    cases member
  let served : System :=
    { system with
      mode := (turnOnPrivacySync setup os system.mode thread.implKey thread.connId).1
      threads := system.threads.filter fun other => other.number != thread.number }
  have servedSound : served.Sound setup := by
    refine ⟨sound.valid, ?_, fun missing => absurd missing supported, fun on => ?_⟩
    · exact fun other kept => sound.threads other (List.mem_filter.mp kept).1
    · by_cases foreign : system.owner ≠ 0 ∧ system.owner ≠ thread.connId
      · have same : served.owner = system.owner := grants.foreign foreign.1 foreign.2
        obtain ⟨current, there, may⟩ := sound.owned foreign.1
        exact ⟨current, by rw [same]; exact there, may⟩
      · by_cases own : system.owner = thread.connId
        · have mine : served.owner = system.owner := by
            rcases grants.own own with mine | off
            · exact mine.trans own.symm
            · exact absurd off on
          obtain ⟨current, there, may⟩ := sound.owned (own.trans_ne valid)
          exact ⟨current, by rw [mine]; exact there, may⟩
        · have off : system.owner = 0 := by
            by_contra taken
            exact foreign ⟨taken, own⟩
          rcases grants.free off with still | ⟨mine, possible⟩
          · exact absurd still on
          · obtain ⟨current, there, may⟩ := watched off possible
            refine ⟨current, ?_, may⟩
            change system.members (PrivacyMode.owner _) = some current
            rw [mine]
            exact there
  unfold runs
  dsimp only
  split
  · split
    · exact servedSound.enter fun own _ => grants.result own
    · exact servedSound
  · exact servedSound

theorem sound_answers
    (sound : system.Sound setup)
    {id : Nat}
    {implKey : String}
    {result : Option (Except String Bool)}
    (received : system.phase id = some (.received implKey result))
    (succeeds : result = some (.ok true) → os.privacyModeErr ≠ "" →
      system.owner = id → os.turnOffError = none) :
    (system.answers os id implKey result).Sound setup := by
  have valid := ne_zero_of_phase sound received
  -- The owner has a result with which it may be the owner.
  have result_of_own : system.owner = id → PrivacyMode.mayOwn result = true := by
    intro own
    obtain ⟨member, there, may⟩ := sound.owned (own.trans_ne valid)
    rw [own] at there
    rw [System.phase, there] at received
    have phase : member.phase = .received implKey result := Option.some.inj received
    rw [Member.mayOwn, phase] at may
    exact may
  match result, succeeds, result_of_own with
  | some (.ok true), succeeds, _ =>
      unfold answers
      dsimp only
      split
      · exact sound.tell fun _ => rfl
      next failed =>
        refine (sound.turnOff id).tell fun own => ?_
        exact absurd own (owner_turnOff_own (succeeds rfl failed) valid)
  | some (.ok false), _, result_of_own =>
      exact sound.tell fun own => absurd (result_of_own own) Bool.false_ne_true
  | some (.error error), _, _ =>
      unfold answers
      dsimp only
      split
      · exact sound.enter fun _ _ => rfl
      next off =>
        refine sound.tell fun own => ?_
        have isOff : system.owner = 0 := by
          simpa [System.owner, isInPrivacyMode, invalidPrivacyModeConnId] using off
        exact absurd (own.symm.trans isOff) valid
  | none, _, result_of_own =>
      exact sound.tell fun own => absurd (result_of_own own) Bool.false_ne_true

/-- Whoever has left is not the owner. -/
theorem not_owner_of_left
    (sound : system.Sound setup)
    {id : Nat}
    (left : system.phase id = some .left) :
    system.owner ≠ id := by
  intro own
  obtain ⟨member, there, may⟩ := sound.owned (own.trans_ne (ne_zero_of_phase sound left))
  rw [own] at there
  rw [System.phase, there] at left
  have phase : member.phase = .left := Option.some.inj left
  rw [Member.mayOwn, phase] at may
  cases may

theorem sound_leaves
    (sound : system.Sound setup)
    {id : Nat}
    (valid : id ≠ 0) :
    (if getPrivacyModeConnId system.mode = some id then system.enter id .leaving
      else system.enter id .left).Sound setup := by
  split
  · exact sound.enter fun _ _ => rfl
  next other =>
    refine sound.enter fun own => ?_
    have stranger : system.owner ≠ id := by
      unfold System.owner PrivacyMode.owner
      cases mode : system.mode with
      | none => exact valid.symm
      | some impl =>
          rw [mode] at other
          exact fun own => other (congrArg some own)
    exact absurd own stranger

theorem sound_drops
    (sound : system.Sound setup)
    {id : Nat}
    (left : system.phase id = some .left) :
    (system.drops os id).Sound setup := by
  have ended : (system.enter id .ended).Sound setup :=
    sound.enter fun own => absurd own (not_owner_of_left sound left)
  have dropped : System.Sound setup { system.enter id .ended with
      remotes := system.remotes.filter fun other => other != id } :=
    ⟨ended.valid, ended.threads, ended.unsupported, ended.owned⟩
  unfold drops
  dsimp only
  split
  · exact dropped.turnOff _
  · exact dropped

/-- Every step that is not among those preserves the invariant. -/
theorem step_sound
    {input : Input}
    (sound : system.Sound setup)
    (calm : ¬system.Disturbs setup input) :
    (system.step setup input).Sound setup := by
  obtain ⟨os, event⟩ := input
  unfold step
  cases event with
  | opens isRemote => exact sound_opens sound isRemote
  | asksOn id implKey =>
      dsimp only
      split
      next idle => exact sound_asksOn sound implKey idle
      next => exact sound
  | runs number =>
      dsimp only
      split
      next thread found =>
        refine sound_runs sound (List.mem_of_find?_eq_some found) fun off possible => ?_
        by_contra unwatched
        refine calm ⟨thread, found, off, possible, fun member there => ?_⟩
        rw [← Bool.not_eq_true]
        exact fun may => unwatched ⟨member, there, may⟩
      next => exact sound
  | timesOut id =>
      dsimp only
      split
      · exact sound.enter fun _ _ => rfl
      · exact sound
  | answers id =>
      dsimp only
      split
      next implKey result received =>
        refine sound_answers sound received fun on failed own => ?_
        by_contra fails
        subst on
        exact calm ⟨⟨implKey, received⟩, failed, own, fails⟩
      next => exact sound
  | clears id =>
      dsimp only
      split
      next error implKey clearing =>
        have valid := ne_zero_of_phase sound clearing
        refine (sound.turnOff _).tell fun own => ?_
        rw [owner_turnOff] at own
        split at own
        · exact absurd own.symm valid
        next fails =>
          refine absurd ⟨⟨error, implKey, clearing⟩, own.trans_ne valid, .inr ⟨own, ?_⟩⟩
            calm
          exact fun succeeds => fails ⟨succeeds, .inl rfl⟩
      next => exact sound
  | asksOff id =>
      dsimp only
      split
      · split
        · exact sound.turnOff id
        · exact sound
      · exact sound
  | leaves id =>
      dsimp only
      split
      next idle => exact sound_leaves sound (ne_zero_of_phase sound idle)
      next => exact sound
  | turnsOff id =>
      dsimp only
      split
      next leaving =>
        have valid := ne_zero_of_phase sound leaving
        refine (sound.turnOff id).enter fun own => ?_
        refine absurd own (owner_turnOff_own (fun own => ?_) valid)
        by_contra fails
        exact calm ⟨leaving, own, fails⟩
      next => exact sound
  | drops id =>
      dsimp only
      split
      next left => exact sound_drops sound left
      next => exact sound
  | hostTurnsOff => exact sound.turnOff _
  | hostSwitches implKey =>
      refine sound.withMode ?_
      unfold switch
      split
      · exact .inl rfl
      · split
        · exact .inr rfl
        · exact .inl rfl

theorem owner_answers_foreign
    {id : Nat}
    {implKey : String}
    (result : Option (Except String Bool))
    (valid : id ≠ 0)
    (foreign : system.owner ≠ id) :
    (system.answers os id implKey result).owner = system.owner := by
  match result with
  | some (.ok true) =>
      unfold answers
      dsimp only
      split
      · rfl
      · exact owner_turnOff_foreign valid foreign
  | some (.ok false) => rfl
  | some (.error error) =>
      unfold answers
      dsimp only
      split <;> rfl
  | none => rfl

/-- Every step that is not among those leaves the privacy mode of others alone. -/
theorem step_respects
    {input : Input}
    (sound : system.Sound setup)
    (calm : ¬system.Disturbs setup input) :
    system.Respects setup input := by
  by_cases off : system.owner = 0
  · exact .inl off
  right
  by_cases acts : system.actor input.event = some system.owner
  · exact .inr (.inl acts)
  obtain ⟨os, event⟩ := input
  -- What is left are steps of other connections: the owner has to stay.
  have stranger : ∀ {id}, some id ≠ some system.owner → system.owner ≠ id :=
    fun other same => other (congrArg some same.symm)
  unfold step
  cases event with
  | opens isRemote => exact .inl rfl
  | asksOn id implKey =>
      left
      dsimp only
      split
      · unfold asksOn
        split <;> rfl
      · rfl
  | runs number =>
      left
      dsimp only
      split
      next thread found =>
        have valid := sound.threads thread (List.mem_of_find?_eq_some found)
        have other : system.owner ≠ thread.connId := by
          apply stranger
          rw [actor, found] at acts
          exact acts
        rw [owner_runs]
        exact (turnOnPrivacySync_grants setup os system.mode thread.implKey
          valid).foreign off other
      next => rfl
  | timesOut id =>
      left
      dsimp only
      split <;> rfl
  | answers id =>
      left
      dsimp only
      split
      next implKey result received =>
        exact owner_answers_foreign result (ne_zero_of_phase sound received)
          (stranger acts)
      next => rfl
  | clears id =>
      left
      dsimp only
      split
      next error implKey clearing =>
        refine (owner_turnOff _).trans (if_neg ?_)
        rintro ⟨succeeds, _⟩
        exact calm ⟨⟨error, implKey, clearing⟩, off, .inl ⟨stranger acts, succeeds⟩⟩
      next => rfl
  | asksOff id =>
      left
      dsimp only
      split
      next idle =>
        split
        · exact owner_turnOff_foreign (ne_zero_of_phase sound idle) (stranger acts)
        · rfl
      next => rfl
  | leaves id =>
      left
      dsimp only
      split
      · split <;> rfl
      · rfl
  | turnsOff id =>
      left
      dsimp only
      split
      next leaving =>
        exact owner_turnOff_foreign (ne_zero_of_phase sound leaving) (stranger acts)
      next => rfl
  | drops id =>
      left
      dsimp only
      split
      next left =>
        unfold drops
        dsimp only
        split
        next last =>
          rw [Bool.and_eq_true, List.isEmpty_iff] at last
          refine (owner_turnOff _).trans (if_neg ?_)
          rintro ⟨succeeds, _⟩
          exact calm ⟨left, last.1, last.2, off, stranger acts, succeeds⟩
        next => rfl
      next => rfl
  | hostTurnsOff => exact .inr (.inr (.inl rfl))
  | hostSwitches implKey => exact .inr (.inr (.inr ⟨implKey, rfl⟩))

theorem wellOwned_of_settled
    (sound : system.Sound setup)
    (settled : system.Settled) :
    system.WellOwned := by
  intro on
  obtain ⟨member, there, may⟩ := sound.owned on
  have known : system.phase system.owner = some member.phase := by
    rw [System.phase, there]
    rfl
  rcases settled.2 system.owner member.phase known with idle | ended
  · refine ⟨member, there, by rw [idle]; exact Phase.noConfusion, ?_⟩
    intro answer told
    rw [Member.mayOwn, idle, told] at may
    simpa using may
  · rw [Member.mayOwn, ended] at may
    cases may

theorem init_sound (implKey : Option String) : (init implKey).Sound setup := by
  have off : (init implKey).owner = 0 := by
    cases implKey with
    | none => rfl
    | some key => rfl
  exact ⟨rfl, fun _ member => (by cases member), fun _ => ⟨off, rfl⟩,
    fun on => absurd off on⟩

variable (setup)

/-- In every run without a step that breaks it, privacy mode is turned off or
replaced by its owner or by the host only, and whenever all requests have finished
it is not on for a connection that has ended or was told that it failed. -/
theorem privacy_belongs_to_one
    (implKey : Option String)
    (inputs : List Input)
    (calm : Lib.Along (step setup) (fun system input => ¬system.Disturbs setup input)
      (init implKey) inputs) :
    Lib.Along (step setup) (fun system input => system.Respects setup input)
        (init implKey) inputs ∧
      ∀ before, before <+: inputs →
        (Lib.run (step setup) (init implKey) before).Settled →
          (Lib.run (step setup) (init implKey) before).WellOwned := by
  have sound : ∀ before, before <+: inputs →
      (Lib.run (step setup) (init implKey) before).Sound setup := by
    intro before within
    exact Lib.run_invariant (fun system => system.Sound setup)
      (fun _ _ sound calm => step_sound sound calm) (init_sound implKey)
      (calm.restrict within)
  constructor
  · rw [Lib.along_iff_forall_split]
    rintro before input after rfl
    exact step_respects (sound before ⟨input :: after, rfl⟩)
      (Lib.along_iff_forall_split.mp calm before input after rfl)
  · exact fun before within settled => wellOwned_of_settled (sound before within) settled

end System

/-- An installed host with virtual displays. -/
def Setup.virtualDisplay : Setup := ⟨implVirtualDisplay, [implVirtualDisplay]⟩

/-- Windows with virtual displays, where everything succeeds. -/
def Os.plain : Os :=
  ⟨[implVirtualDisplay], implVirtualDisplay, true, true, .ok true, none, ""⟩

namespace System

/-- The next connection turns privacy mode on, and waits for it. -/
def turnedOn (id thread : Nat) : List Input :=
  [⟨.plain, .opens true⟩, ⟨.plain, .asksOn id implVirtualDisplay⟩,
    ⟨.plain, .runs thread⟩, ⟨.plain, .answers id⟩]

/-- A connection that turns privacy mode on in time. -/
theorem privacy_belongs_to_one_in_time :
    Lib.Along (step .virtualDisplay)
        (fun system input => system.Respects .virtualDisplay input)
        (init none) (turnedOn 1 0) ∧
      ∀ before, before <+: turnedOn 1 0 →
        (Lib.run (step .virtualDisplay) (init none) before).Settled →
          (Lib.run (step .virtualDisplay) (init none) before).WellOwned := by
  refine privacy_belongs_to_one .virtualDisplay none (turnedOn 1 0)
    ⟨id, id, ?_, ?_, trivial⟩
  · rintro ⟨thread, found, _, _, unwatched⟩
    cases found
    exact absurd (unwatched _ rfl) (by decide)
  · rintro ⟨_, failed, _⟩
    exact failed rfl

/-- A connection that finds privacy mode occupied turns it off for its owner; and
privacy mode comes on for a connection that gave up and was told that it failed. -/
theorem occupied_request_turns_off :
    (let asked := Lib.run (step .virtualDisplay) (init none)
      (turnedOn 1 0 ++ turnedOn 2 1)
    asked.owner = 1 ∧ asked.actor (.clears 2) = some 2 ∧
      (asked.step .virtualDisplay ⟨.plain, .clears 2⟩).owner = 0) ∧
    (let late := Lib.run (step .virtualDisplay) (init (some implVirtualDisplay))
      [⟨.plain, .opens true⟩, ⟨.plain, .asksOn 1 implVirtualDisplay⟩,
        ⟨.plain, .timesOut 1⟩, ⟨.plain, .answers 1⟩, ⟨.plain, .runs 0⟩]
    late.threads.isEmpty = true ∧ late.owner = 1 ∧
      ((late.members 1).bind Member.told).any Answer.isFailure = true) := by
  decide

end System

end PrivacyMode
end Server
end OneDesk
