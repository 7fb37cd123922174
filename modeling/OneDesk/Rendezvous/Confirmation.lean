import OneDesk.Rendezvous.Mediator

/-!
# Confirmed keys

A confirmation is noted for the prefix of a host and says nothing of the id it is for.
It is about the current id as long as ids and confirmations are changed in turn.
-/

namespace OneDesk
namespace Rendezvous

namespace Config

variable {config : Config} {host other : Text}

@[simp] theorem id_setKeyConfirmed (v : Bool) : (config.setKeyConfirmed v).id = config.id := by
  unfold setKeyConfirmed
  split <;> rfl

@[simp] theorem pk_setKeyConfirmed (v : Bool) : (config.setKeyConfirmed v).pk = config.pk := by
  unfold setKeyConfirmed
  split <;> rfl

@[simp] theorem id_setHostKeyConfirmed (v : Bool) :
    (config.setHostKeyConfirmed host v).id = config.id := by
  unfold setHostKeyConfirmed
  split <;> rfl

@[simp] theorem pk_setHostKeyConfirmed (v : Bool) :
    (config.setHostKeyConfirmed host v).pk = config.pk := by
  unfold setHostKeyConfirmed
  split <;> rfl

/-- Confirming the key, or not, confirms no host. -/
theorem confirmed_of_setKeyConfirmed
    {v : Bool}
    (confirmed : (config.setKeyConfirmed v).getHostKeyConfirmed host = true) :
    config.getHostKeyConfirmed host = true := by
  unfold setKeyConfirmed at confirmed
  split at confirmed
  · exact confirmed
  · cases v with
    | true => exact confirmed
    | false => cases confirmed

/-- A host that is confirmed has been before, or is now. -/
theorem confirmed_of_setHostKeyConfirmed
    {v : Bool}
    (confirmed : (config.setHostKeyConfirmed host v).getHostKeyConfirmed other = true) :
    config.getHostKeyConfirmed other = true ∨ (other = host ∧ v = true) := by
  unfold setHostKeyConfirmed at confirmed
  split at confirmed
  · exact .inl confirmed
  · by_cases same : other = host
    · subst same
      simp only [getHostKeyConfirmed, Function.update_self, beq_iff_eq,
        Option.some.injEq] at confirmed
      exact .inr ⟨rfl, confirmed⟩
    · simp only [getHostKeyConfirmed, Function.update_of_ne same] at confirmed
      exact .inl confirmed

end Config

/-- A phase in which a mediator has nothing to finish that others depend on. -/
def Phase.Quiet : Phase → Prop
  | .idle | .registerPeer | .registerPk | .clearSolving => True
  | .confirmHost _ | .updateId | .setSolving => False

namespace Mediators

variable {servers : List Host} {state : Mediators}

/-- What all mediators together keep. -/
structure Sound (servers : List Host) (state : Mediators) : Prop where
  sent : ∀ request ∈ state.sent, request.pk = state.config.pk
  /-- An answer that is about to be noted has been given. -/
  confirming : ∀ mediator request, state.phase mediator = .confirmHost request →
    ∃ host, servers[mediator]? = some host ∧ request.host = host.name ∧
      request ∈ state.answered ∧ request.pk = state.config.pk
  confirmed : ∀ host ∈ servers,
    state.config.getHostKeyConfirmed host.hostPrefix = true → state.ConfirmedBy host
  /-- Whoever changes the id holds the lock. -/
  locked : ∀ mediator,
    state.phase mediator = .updateId ∨ state.phase mediator = .setSolving →
      state.lock = some mediator
  updating : ∀ mediator, state.phase mediator = .updateId →
    ∃ host, servers[mediator]? = some host ∧ (state.solving = [] ∨ state.solving = host.name)
  setting : ∀ mediator, state.phase mediator = .setSolving →
    ∃ host, servers[mediator]? = some host ∧ state.resolving = some host.name
  /-- A conflict is noted, or about to be. -/
  resolving : ∀ name, state.resolving = some name →
    name ≠ [] ∧ (state.solving = name ∨ ∃ mediator, state.phase mediator = .setSolving)

theorem sound_new
    (servers : List Host)
    (id : Text)
    (pk : Stream.Bytes) :
    Sound servers (new id pk) where
  sent := fun request member => absurd member List.not_mem_nil
  confirming := fun mediator request confirming => by cases confirming
  confirmed := fun host member confirmed => by cases confirmed
  locked := fun mediator phase => by rcases phase with phase | phase <;> cases phase
  updating := fun mediator phase => by cases phase
  setting := fun mediator phase => by cases phase
  resolving := fun name resolving => by cases resolving

/-- After one mediator has moved, a phase is its new one, or is as before. -/
theorem phase_cases
    {phases : Nat → Phase}
    {mediator index : Nat}
    {phase next : Phase}
    (isNext : Function.update phases mediator phase index = next) :
    (index = mediator ∧ phase = next) ∨ phases index = next := by
  by_cases same : index = mediator
  · subst same
    rw [Function.update_self] at isNext
    exact .inl ⟨rfl, isNext⟩
  · rw [Function.update_of_ne same] at isNext
    exact .inr isNext

/-- A phase that is not the new one of a mediator is as before. -/
theorem phase_before
    {phases : Nat → Phase}
    {mediator index : Nat}
    {phase next : Phase}
    (isNext : Function.update phases mediator phase index = next)
    (differs : phase ≠ next) :
    phases index = next := by
  rcases phase_cases isNext with ⟨_, same⟩ | before
  · exact absurd same differs
  · exact before

theorem phase_of_ne
    {phases : Nat → Phase}
    {mediator index : Nat}
    {phase next : Phase}
    (different : phases mediator ≠ next)
    (isNext : phases index = next) :
    Function.update phases mediator phase index = next := by
  have notMediator : index ≠ mediator := by
    rintro rfl
    exact different isNext
  rw [Function.update_of_ne notMediator]
  exact isNext

/-- Nobody changes the id while nobody holds the lock. -/
theorem Sound.nobody_changes
    (sound : Sound servers state)
    (free : state.lock = none)
    (index : Nat) :
    state.phase index ≠ .updateId ∧ state.phase index ≠ .setSolving := by
  have notLocked (changes : state.phase index = .updateId ∨ state.phase index = .setSolving) :
      False := by
    have held := sound.locked index changes
    rw [free] at held
    cases held
  exact ⟨fun updating => notLocked (.inl updating), fun setting => notLocked (.inr setting)⟩

/-- At most one mediator changes the id. -/
theorem Sound.changes_alone
    (sound : Sound servers state)
    {mediator index : Nat}
    (changes : state.phase mediator = .updateId ∨ state.phase mediator = .setSolving)
    (others : state.phase index = .updateId ∨ state.phase index = .setSolving) :
    index = mediator := by
  have held := sound.locked index others
  rw [sound.locked mediator changes, Option.some.injEq] at held
  exact held.symm

/-- A mediator that goes to a quiet phase disturbs nobody, unless it was to note a
conflict. -/
theorem Sound.setPhase
    (sound : Sound servers state)
    {mediator : Nat}
    {phase : Phase}
    (quiet : Phase.Quiet phase)
    (notSetting : state.phase mediator ≠ .setSolving) :
    Sound servers (state.setPhase mediator phase) := by
  have other {next : Phase} {index : Nat}
      (loud : ¬Phase.Quiet next)
      (isNext : (state.setPhase mediator phase).phase index = next) :
      state.phase index = next := by
    rcases phase_cases isNext with ⟨_, rfl⟩ | before
    · exact absurd quiet loud
    · exact before
  refine ⟨sound.sent, ?_, sound.confirmed, ?_, ?_, ?_, ?_⟩
  · intro index request confirming
    exact sound.confirming index request (other id confirming)
  · rintro index (updating | setting)
    · exact sound.locked index (.inl (other id updating))
    · exact sound.locked index (.inr (other id setting))
  · intro index updating
    exact sound.updating index (other id updating)
  · intro index setting
    exact sound.setting index (other id setting)
  · intro name resolving
    obtain ⟨nonempty, noted | ⟨index, setting⟩⟩ := sound.resolving name resolving
    · exact ⟨nonempty, .inl noted⟩
    · exact ⟨nonempty, .inr ⟨index, phase_of_ne notSetting setting⟩⟩

/-- Changes of the configuration that keep the id and the key disturb nobody if whoever
is confirmed by them has confirmed the current id. -/
theorem Sound.setConfig
    (sound : Sound servers state)
    {config : Config}
    (sameId : config.id = state.config.id)
    (samePk : config.pk = state.config.pk)
    (confirmed : ∀ host ∈ servers, config.getHostKeyConfirmed host.hostPrefix = true →
      state.ConfirmedBy host) :
    Sound servers { state with config := config } where
  sent := by
    intro request member
    rw [sound.sent request member, samePk]
  confirming := by
    intro mediator request confirming
    rw [samePk]
    exact sound.confirming mediator request confirming
  confirmed := by
    intro host member isConfirmed
    rw [ConfirmedBy, sameId, samePk]
    exact confirmed host member isConfirmed
  locked := sound.locked
  updating := sound.updating
  setting := sound.setting
  resolving := sound.resolving

/-- An answer `OK` is noted for later. -/
theorem sound_handleOk
    (sound : Sound servers state)
    {mediator : Nat}
    {host : Host}
    {request : Request}
    (isHost : servers[mediator]? = some host)
    (idle : state.phase mediator = .idle)
    (isSent : request ∈ state.sent) :
    Sound servers (state.handleOk mediator host request) := by
  unfold handleOk
  split
  · next sameHost =>
      have keyed : Sound servers { state with config := state.config.setKeyConfirmed true } :=
        sound.setConfig (by simp) (by simp) fun other member isConfirmed =>
          sound.confirmed other member (Config.confirmed_of_setKeyConfirmed isConfirmed)
      refine ⟨keyed.sent, ?_, ?_, ?_, ?_, ?_, ?_⟩
      · intro index other confirming
        rcases phase_cases confirming with ⟨rfl, isRequest⟩ | before
        · cases isRequest
          exact ⟨host, isHost, sameHost, by simp, keyed.sent request isSent⟩
        · obtain ⟨server, isServer, same, given, samePk⟩ :=
            keyed.confirming index other before
          exact ⟨server, isServer, same, List.mem_append_left _ given, samePk⟩
      · intro other member isConfirmed
        obtain ⟨given, isGiven, same⟩ := keyed.confirmed other member isConfirmed
        exact ⟨given, List.mem_append_left _ isGiven, same⟩
      · rintro index (updating | setting)
        · exact sound.locked index (.inl (phase_before updating nofun))
        · exact sound.locked index (.inr (phase_before setting nofun))
      · intro index updating
        exact sound.updating index (phase_before updating nofun)
      · intro index setting
        exact sound.setting index (phase_before setting nofun)
      · intro name resolving
        obtain ⟨nonempty, noted | ⟨index, setting⟩⟩ := sound.resolving name resolving
        · exact ⟨nonempty, .inl noted⟩
        · exact ⟨nonempty, .inr ⟨index, phase_of_ne (by rw [idle]; simp) setting⟩⟩
  · exact sound

/-- A mediator that is told of a mismatch takes the lock. -/
theorem sound_handleUuidMismatch
    (sound : Sound servers state)
    {mediator : Nat}
    {host : Host}
    (isHost : servers[mediator]? = some host)
    (idle : state.phase mediator = .idle) :
    Sound servers (state.handleUuidMismatch mediator host) := by
  unfold handleUuidMismatch
  split
  · next mayBegin =>
      obtain ⟨free, mayAct⟩ := mayBegin
      have unkeyed : Sound servers
          { state with config := state.config.setKeyConfirmed false } :=
        sound.setConfig (by simp) (by simp) fun other member isConfirmed =>
          sound.confirmed other member (Config.confirmed_of_setKeyConfirmed isConfirmed)
      have nobody := sound.nobody_changes free
      refine ⟨unkeyed.sent, ?_, unkeyed.confirmed, ?_, ?_, ?_, ?_⟩
      · intro index request confirming
        exact unkeyed.confirming index request (phase_before confirming nofun)
      · rintro index (updating | setting)
        · rcases phase_cases updating with ⟨rfl, _⟩ | before
          · rfl
          · exact absurd before (nobody index).1
        · exact absurd (phase_before setting nofun) (nobody index).2
      · intro index updating
        rcases phase_cases updating with ⟨rfl, _⟩ | before
        · refine ⟨host, isHost, ?_⟩
          simpa [mayAct, Mediators.mayAct] using mayAct
        · exact absurd before (nobody index).1
      · intro index setting
        exact absurd (phase_before setting nofun) (nobody index).2
      · intro name resolving
        obtain ⟨nonempty, noted | ⟨index, setting⟩⟩ := sound.resolving name resolving
        · exact ⟨nonempty, .inl noted⟩
        · exact absurd setting (nobody index).2
  · exact sound

/-- A confirmation of the current id is noted for the only server with its prefix. -/
theorem sound_confirmHost
    (sound : Sound servers state)
    {mediator : Nat}
    {host : Host}
    {request : Request}
    (isHost : servers[mediator]? = some host)
    (confirming : state.phase mediator = .confirmHost request)
    (current : request.id = state.config.id)
    (alone : ∀ other ∈ servers, other.hostPrefix = host.hostPrefix → other = host) :
    Sound servers
      { state with config := state.config.setHostKeyConfirmed host.hostPrefix true } := by
  refine sound.setConfig (by simp) (by simp) ?_
  intro other member isConfirmed
  rcases Config.confirmed_of_setHostKeyConfirmed isConfirmed with before | ⟨samePrefix, _⟩
  · exact sound.confirmed other member before
  · obtain ⟨server, isServer, sameHost, given, samePk⟩ :=
      sound.confirming mediator request confirming
    rw [isHost, Option.some.injEq] at isServer
    subst isServer
    rw [alone other member samePrefix]
    exact ⟨request, given, sameHost, current, samePk⟩

/-- A conflict is given up by the server it is with, if there is one. -/
theorem sound_clearSolving
    (sound : Sound servers state)
    {host : Host}
    (free : state.lock = none)
    (own : state.solving = [] ∨ state.solving = host.name) :
    Sound servers
      { state with
        solving := []
        resolving := if state.resolving = some host.name then none else state.resolving } := by
  have nobody := sound.nobody_changes free
  refine ⟨sound.sent, sound.confirming, sound.confirmed, sound.locked, ?_, ?_, ?_⟩
  · intro index updating
    exact absurd updating (nobody index).1
  · intro index setting
    exact absurd setting (nobody index).2
  · intro name resolving
    dsimp only at resolving
    split at resolving
    · cases resolving
    · next others =>
        obtain ⟨nonempty, noted | ⟨index, setting⟩⟩ := sound.resolving name resolving
        · rcases own with nothing | same
          · exact absurd (noted.symm.trans nothing) nonempty
          · rw [noted] at same
            rw [resolving, same] at others
            exact absurd rfl others
        · exact absurd setting (nobody index).2

/-- The id is changed while nobody is confirmed. -/
theorem sound_updateId
    (sound : Sound servers state)
    {mediator : Nat}
    {host : Host}
    (isHost : servers[mediator]? = some host)
    (updating : state.phase mediator = .updateId)
    (nobody : ∀ other ∈ servers, state.config.getHostKeyConfirmed other.hostPrefix = false)
    (newId : Text) :
    Sound servers
      { state with
        config := state.config.updateId newId
        resolving := some host.name
        phase := Function.update state.phase mediator .setSolving } := by
  refine ⟨sound.sent, ?_, ?_, ?_, ?_, ?_, ?_⟩
  · intro index request confirming
    exact sound.confirming index request (phase_before confirming nofun)
  · intro other member isConfirmed
    have notConfirmed := nobody other member
    change state.config.getHostKeyConfirmed other.hostPrefix = true at isConfirmed
    rw [notConfirmed] at isConfirmed
    cases isConfirmed
  · rintro index (changing | setting)
    · exact sound.locked index (.inl (phase_before changing nofun))
    · rcases phase_cases setting with ⟨rfl, _⟩ | before
      · exact sound.locked index (.inl updating)
      · exact sound.locked index (.inr before)
  · intro index changing
    exact sound.updating index (phase_before changing nofun)
  · intro index setting
    rcases phase_cases setting with ⟨rfl, _⟩ | before
    · exact ⟨host, isHost, rfl⟩
    · obtain rfl := sound.changes_alone (.inl updating) (.inr before)
      rw [updating] at before
      cases before
  · rintro name ⟨⟩
    exact ⟨host.nonempty, .inr ⟨mediator, Function.update_self _ _ _⟩⟩

/-- The conflict is noted and the lock is given back. -/
theorem sound_setSolving
    (sound : Sound servers state)
    {mediator : Nat}
    {host : Host}
    (isHost : servers[mediator]? = some host)
    (setting : state.phase mediator = .setSolving) :
    Sound servers
      { state with
        solving := host.name
        lock := none
        phase := Function.update state.phase mediator .registerPk } := by
  have nobody (index : Nat) :
      Function.update state.phase mediator .registerPk index ≠ .updateId ∧
        Function.update state.phase mediator .registerPk index ≠ .setSolving := by
    constructor
    · intro updating
      obtain rfl := sound.changes_alone (.inr setting) (.inl (phase_before updating nofun))
      rw [Function.update_self] at updating
      cases updating
    · intro others
      obtain rfl := sound.changes_alone (.inr setting) (.inr (phase_before others nofun))
      rw [Function.update_self] at others
      cases others
  refine ⟨sound.sent, ?_, sound.confirmed, ?_, ?_, ?_, ?_⟩
  · intro index request confirming
    exact sound.confirming index request (phase_before confirming nofun)
  · rintro index (changing | changing)
    · exact absurd changing (nobody index).1
    · exact absurd changing (nobody index).2
  · intro index changing
    exact absurd changing (nobody index).1
  · intro index changing
    exact absurd changing (nobody index).2
  · intro name resolving
    obtain ⟨nonempty, _⟩ := sound.resolving name resolving
    obtain ⟨server, isServer, isResolving⟩ := sound.setting mediator setting
    rw [isHost, Option.some.injEq] at isServer
    subst isServer
    refine ⟨nonempty, .inl ?_⟩
    change state.resolving = some name at resolving
    rw [isResolving, Option.some.injEq] at resolving
    exact resolving

/-- A mediator that goes on carefully disturbs nobody. -/
theorem sound_goOn
    (sound : Sound servers state)
    {mediator : Nat}
    {newId : Text}
    (careful : state.Careful servers (.goOn mediator newId))
    {host : Host}
    (isHost : servers[mediator]? = some host) :
    Sound servers (state.goOn mediator host newId) := by
  have condition := careful host isHost
  unfold goOn
  cases phase : state.phase mediator with
  | idle => exact sound
  | registerPeer =>
      have notSetting : state.phase mediator ≠ .setSolving := by simp [phase]
      dsimp only
      split
      · exact sound.setPhase trivial notSetting
      · exact sound.setPhase trivial notSetting
  | registerPk =>
      have added : Sound servers { state with
          sent := state.sent ++ [⟨host.name, state.config.id, state.config.pk⟩] } := by
        refine ⟨?_, sound.confirming, sound.confirmed, sound.locked, sound.updating,
          sound.setting, sound.resolving⟩
        intro request member
        rcases List.mem_append.mp member with before | new
        · exact sound.sent request before
        · rw [List.mem_singleton.mp new]
      exact added.setPhase trivial (by simp [phase])
  | confirmHost request =>
      rw [phase] at condition
      exact (sound_confirmHost sound isHost phase condition.1 condition.2).setPhase trivial
        (by simp [phase])
  | clearSolving =>
      rw [phase] at condition
      dsimp only
      split
      · next free =>
          exact (sound_clearSolving sound free condition).setPhase trivial (by simp [phase])
      · exact sound
  | updateId =>
      rw [phase] at condition
      exact sound_updateId sound isHost phase condition newId
  | setSolving => exact sound_setSolving sound isHost phase

/-- What an idle mediator does disturbs nobody if it disturbs nobody for its server. -/
theorem Sound.whenIdle
    (sound : Sound servers state)
    {mediator : Nat}
    {next : Host → Mediators}
    (disturbsNobody : ∀ host, servers[mediator]? = some host →
      state.phase mediator = .idle → Sound servers (next host)) :
    Sound servers (state.whenIdle servers mediator next) := by
  unfold Mediators.whenIdle
  split
  · exact sound
  · next host isHost =>
      split
      · next idle => exact disturbsNobody host isHost idle
      · exact sound

/-- Every careful event leaves the mediators in order. -/
theorem sound_step
    (sound : Sound servers state)
    {event : MediatorEvent}
    (careful : state.Careful servers event) :
    Sound servers (state.step servers event) := by
  have moves {mediator : Nat} {phase : Phase} (idle : state.phase mediator = .idle)
      (quiet : Phase.Quiet phase) : Sound servers (state.setPhase mediator phase) :=
    sound.setPhase quiet (by simp [idle])
  cases event with
  | timer mediator =>
      refine sound.whenIdle fun host _ idle => ?_
      split
      · exact moves idle trivial
      · exact sound
  | timerTcp mediator =>
      refine sound.whenIdle fun host _ idle => ?_
      split
      · exact moves idle trivial
      · exact sound
  | registerPeerResponse mediator requestPk =>
      refine sound.whenIdle fun host _ idle => ?_
      split
      · exact moves idle trivial
      · exact sound
  | registerPkOk mediator index =>
      refine sound.whenIdle fun host isHost idle => ?_
      split
      · exact sound
      · next request isRequest =>
          exact sound_handleOk sound isHost idle (List.mem_of_getElem? isRequest)
  | registerPkMismatch mediator index =>
      refine sound.whenIdle fun host isHost idle => ?_
      split
      · exact sound
      · split
        · exact sound_handleUuidMismatch sound isHost idle
        · exact sound
  | goOn mediator newId =>
      rw [step]
      split
      · exact sound
      · next host isHost => exact sound_goOn sound careful isHost
  | startTcp mediator =>
      refine sound.whenIdle fun host _ idle => ?_
      refine sound.setConfig (by simp) (by simp) ?_
      intro other member isConfirmed
      rcases Config.confirmed_of_setHostKeyConfirmed isConfirmed with before | ⟨_, never⟩
      · exact sound.confirmed other member before
      · cases never
  | restart =>
      rw [step]
      split
      · next allIdle =>
          refine ⟨sound.sent, sound.confirming, sound.confirmed, sound.locked, ?_, ?_, ?_⟩
          · intro mediator updating
            obtain ⟨host, isHost, _⟩ := sound.updating mediator updating
            exact ⟨host, isHost, .inl rfl⟩
          · intro mediator setting
            obtain ⟨host, isHost, _⟩ := sound.setting mediator setting
            rw [List.all_eq_true] at allIdle
            have inside : mediator < servers.length :=
              (List.getElem?_eq_some_iff.mp isHost).1
            have idle := allIdle mediator (List.mem_range.mpr inside)
            rw [decide_eq_true_eq] at idle
            change state.phase mediator = .setSolving at setting
            rw [setting] at idle
            cases idle
          · intro name resolving
            cases resolving
      · exact sound

/-- What an idle mediator does keeps the id if it keeps it for its server. -/
theorem id_whenIdle
    {mediator : Nat}
    {next : Host → Mediators}
    (keeps : ∀ host, (next host).config.id = state.config.id) :
    (state.whenIdle servers mediator next).config.id = state.config.id := by
  unfold whenIdle
  split
  · rfl
  · split
    · exact keeps _
    · rfl

/-- Only a mediator that has been told of a mismatch changes the id. -/
theorem updating_of_id_ne
    {event : MediatorEvent}
    (changed : (state.step servers event).config.id ≠ state.config.id) :
    ∃ mediator newId host, event = .goOn mediator newId ∧
      servers[mediator]? = some host ∧ state.phase mediator = .updateId := by
  cases event with
  | goOn mediator newId =>
      rw [step] at changed
      split at changed
      · exact absurd rfl changed
      · next host isHost =>
          refine ⟨mediator, newId, host, rfl, isHost, ?_⟩
          unfold goOn at changed
          cases phase : state.phase mediator with
          | updateId => rfl
          | idle => simp [phase] at changed
          | registerPeer =>
              simp only [phase] at changed
              split at changed <;> exact absurd rfl changed
          | registerPk => simp [phase] at changed
          | confirmHost request => simp [phase] at changed
          | clearSolving =>
              simp only [phase] at changed
              split at changed <;> exact absurd rfl changed
          | setSolving => simp [phase] at changed
  | timer mediator =>
      refine absurd (id_whenIdle fun host => ?_) changed
      split <;> rfl
  | timerTcp mediator =>
      refine absurd (id_whenIdle fun host => ?_) changed
      split <;> rfl
  | registerPeerResponse mediator requestPk =>
      refine absurd (id_whenIdle fun host => ?_) changed
      split <;> rfl
  | registerPkOk mediator index =>
      refine absurd (id_whenIdle fun host => ?_) changed
      split
      · rfl
      · unfold handleOk
        split
        · simp
        · rfl
  | registerPkMismatch mediator index =>
      refine absurd (id_whenIdle fun host => ?_) changed
      split
      · rfl
      · unfold handleUuidMismatch
        split
        · split
          · simp
          · rfl
        · rfl
  | startTcp mediator =>
      refine absurd (id_whenIdle fun host => ?_) changed
      simp
  | restart =>
      rw [step] at changed
      split at changed <;> exact absurd rfl changed

/-- While a conflict with a server is being solved, no other mediator gets to change the
id. -/
theorem undisturbed_of_sound
    (sound : Sound servers state)
    (event : MediatorEvent) :
    state.Undisturbed servers event := by
  intro name resolving changed
  obtain ⟨mediator, newId, host, isGoOn, isHost, updating⟩ := updating_of_id_ne changed
  refine ⟨mediator, newId, host, isGoOn, isHost, ?_⟩
  obtain ⟨server, isServer, solving⟩ := sound.updating mediator updating
  rw [isHost, Option.some.injEq] at isServer
  subst isServer
  obtain ⟨nonempty, noted | ⟨other, setting⟩⟩ := sound.resolving name resolving
  · rcases solving with nothing | same
    · exact absurd (noted.symm.trans nothing) nonempty
    · exact same.symm.trans noted
  · obtain rfl := sound.changes_alone (.inl updating) (.inr setting)
    rw [updating] at setting
    cases setting

/-- The first of two servers. -/
def firstServer : Host := ⟨"a.net:21116".toList, by decide⟩

/-- The second of two servers. -/
def secondServer : Host := ⟨"b.net:21116".toList, by decide⟩

end Mediators

end Rendezvous
end OneDesk
