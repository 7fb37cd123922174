import OneDesk.Lib.Announced
import OneDesk.Service.Template

/-!
# The display service

The displays are kept once for all with a flag that says whether the subscribers know of them.
Several parties look for changes; only the thread of the service tells the subscribers and sets the
flag.  While the displays are expected to change for a while, changes are kept without touching the
flag, and it is taken back in the end.
-/

namespace OneDesk
namespace Service
namespace Displays

open OneDesk.Lib

variable {DisplayInfo : Type} [DecidableEq DisplayInfo]

/-- `SyncDisplaysInfo` -/
structure SyncDisplaysInfo (DisplayInfo : Type) where
  displays : List DisplayInfo
  isSynced : Bool

namespace SyncDisplaysInfo

variable (info : SyncDisplaysInfo DisplayInfo)

/-- The displays are replaced, which counts as a change unless changes are ignored. -/
def replace (ignored : Bool) (displays : List DisplayInfo) : SyncDisplaysInfo DisplayInfo :=
  { displays, isSynced := if !ignored then false else info.isSynced }

/-- `check_changed` -/
def checkChanged (ignored : Bool) (displays : List DisplayInfo) : SyncDisplaysInfo DisplayInfo :=
  if info.displays.length ≠ displays.length then info.replace ignored displays
  else if displays.zipIdx.any fun (d, i) => decide (some d ≠ info.displays[i]?) then
    info.replace ignored displays
  else info

/-- `get_update_sync_displays` -/
def getUpdateSyncDisplays : Option (List DisplayInfo) × SyncDisplaysInfo DisplayInfo :=
  if info.isSynced then (none, info)
  else (some info.displays, { info with isSynced := true })

end SyncDisplaysInfo

/-- How the callback of a snapshot has ended. -/
inductive Ending
  /-- Changes are ignored for the moment. -/
  | ignored
  /-- Nobody is in `subscribes`. -/
  | alone
  /-- The others make it fail with "new subscriber". -/
  | bailed
  deriving DecidableEq

/-- Where the thread of the service is, by what it does next. -/
inductive Phase (DisplayInfo : Type)
  /-- `GenericService::run` looks for subscribers. -/
  | outside
  /-- `run` looks whether to go on. -/
  | entered
  /-- It looks for new subscribers. -/
  | snapshot
  /-- The callback reads `TEMP_IGNORE_DISPLAYS_CHANGED`. -/
  | loading
  /-- The callback looks for others in `subscribes`. -/
  | counting
  /-- The callback takes back `is_synced`. -/
  | resetting
  /-- The guard is dropped. -/
  | dropping (ending : Ending)
  /-- The displays are looked up and checked. -/
  | checking
  /-- `get_displays_msg` -/
  | updating
  /-- The displays are sent. -/
  | sending (displays : List DisplayInfo)
  deriving DecidableEq

/-- The service is between two ticks. -/
def Phase.isBetween : Phase DisplayInfo → Bool
  | .outside | .entered => true
  | _ => false

/-- The thread of the service has a guard. -/
def Phase.holdsGuard : Phase DisplayInfo → Bool
  | .loading | .counting | .resetting | .dropping _ => true
  | _ => false

/-- The service with everything that it shares. -/
structure DisplayService (DisplayInfo : Type) where
  service : ServiceInner (List DisplayInfo)
  /-- The display lists that a connection got, in its login response and from the service. -/
  inbox : Int → List (List DisplayInfo)
  /-- `SYNC_DISPLAYS` -/
  sync : SyncDisplaysInfo DisplayInfo
  /-- `TEMP_IGNORE_DISPLAYS_CHANGED` -/
  ignore : Bool
  /-- The holders that are alive or wait in their drop. -/
  holders : Nat
  /-- The holders whose drop has reset the flag and not yet taken back `is_synced`. -/
  clearing : Nat
  phase : Phase DisplayInfo

/-- One critical section. -/
inductive Event (DisplayInfo : Type)
  /-- The thread of the service goes on; the displays that it finds if it looks them up. -/
  | tick (displays : Option (List DisplayInfo))
  /-- `check_update_displays` by another party. -/
  | check (displays : List DisplayInfo)
  /-- The displays are cloned for the login response of a connection. -/
  | login (id : Int)
  /-- `on_subscribe` -/
  | subscribe (id : Int)
  /-- `on_unsubscribe` -/
  | unsubscribe (id : Int)
  /-- `temp_ignore_displays_changed` -/
  | hold
  /-- The drop of a holder resets the flag. -/
  | release
  /-- The drop of a holder takes back `is_synced`. -/
  | clear

namespace DisplayService

/-- The service before its first tick. -/
def new : DisplayService DisplayInfo where
  service := .new true
  inbox := fun _ => []
  sync := ⟨[], false⟩
  ignore := false
  holders := 0
  clearing := 0
  phase := .outside

variable (service : DisplayService DisplayInfo)

/-- The display list that a connection got last. -/
def known (id : Int) : Option (List DisplayInfo) := announced some (service.inbox id)

/-- `ServiceInner::has_subscribes`; the service stays active. -/
def hasSubscribes : Bool :=
  decide (service.service.subscribes.length > 0 ∨ service.service.newSubscribes.length > 0)

/-- `check_update_displays` -/
def checkUpdateDisplays (displays : List DisplayInfo) : DisplayService DisplayInfo :=
  { service with sync := service.sync.checkChanged service.ignore displays }

/-- `is_synced = false` -/
def takeBack : DisplayService DisplayInfo :=
  { service with sync := { service.sync with isSynced := false } }

/-- The next step of the thread of the service. -/
def tick (displays : Option (List DisplayInfo)) : DisplayService DisplayInfo :=
  match service.phase with
  | .outside => if service.hasSubscribes then { service with phase := .entered } else service
  | .entered =>
      { service with phase := if service.hasSubscribes then .snapshot else .outside }
  | .snapshot =>
      if service.service.newSubscribes.length > 0 then
        { service with service := service.service.step (.snapshot 0), phase := .loading }
      else { service with phase := .checking }
  | .loading =>
      { service with phase := if !service.ignore then .counting else .dropping .ignored }
  | .counting =>
      { service with
        phase :=
          if service.service.subscribes.length > 0 then .resetting else .dropping .alone }
  | .resetting => { service.takeBack with phase := .dropping .bailed }
  | .dropping ending =>
      { service with
        service := service.service.step (.drop 0)
        phase := if ending = .bailed then .outside else .checking }
  | .checking =>
      match displays with
      | some displays => { service.checkUpdateDisplays displays with phase := .updating }
      | none => { service with phase := .entered }
  | .updating =>
      match service.sync.getUpdateSyncDisplays with
      | (some displays, sync) => { service with sync, phase := .sending displays }
      | (none, sync) => { service with sync, phase := .entered }
  | .sending displays =>
      { service with
        service := service.service.step (.send displays .all)
        inbox := deliver service.service.subscribed displays service.inbox
        phase := .entered }

/-- One step.  A connection subscribes after its login. -/
def step : Event DisplayInfo → DisplayService DisplayInfo
  | .tick displays => service.tick displays
  | .check displays => service.checkUpdateDisplays displays
  | .login id => { service with inbox := deliver {id} service.sync.displays service.inbox }
  | .subscribe id =>
      if (service.known id).isSome then
        { service with service := service.service.step (.onSubscribe id) }
      else service
  | .unsubscribe id => { service with service := service.service.step (.onUnsubscribe id) }
  | .hold => { service with ignore := true, holders := service.holders + 1 }
  | .release =>
      if service.holders > 0 then
        { service with
          ignore := false
          holders := service.holders - 1
          clearing := service.clearing + 1 }
      else service
  | .clear =>
      if service.clearing > 0 then { service.takeBack with clearing := service.clearing - 1 }
      else service

/-- Some connections know the displays as they are. -/
def Know (ids : Finset Int) : Prop := ∀ id ∈ ids, service.known id = some service.sync.displays

instance (ids : Finset Int) : Decidable (service.Know ids) :=
  inferInstanceAs (Decidable (∀ id ∈ ids, service.known id = some service.sync.displays))

/-- The flag says that the subscribers know of the displays, and no holder is about to change it. -/
def Quiet : Prop := service.sync.isSynced = true ∧ service.holders = 0 ∧ service.clearing = 0

instance : Decidable service.Quiet := inferInstanceAs (Decidable (_ ∧ _))

/-- Between two ticks, the subscribers know of the displays if the flag says so. -/
def NoneLost : Prop :=
  service.Quiet → service.phase.isBetween → service.Know service.service.subscribed

/--
New subscribers who are moved over alone know the displays from their logins, unless they are about
to be told anyway.
-/
def UpToDate : Event DisplayInfo → Prop
  | .tick _ =>
      service.phase = .dropping .alone → service.Quiet → service.Know service.service.waiting
  | _ => True

instance : (event : Event DisplayInfo) → Decidable (service.UpToDate event)
  | .tick _ =>
      inferInstanceAs (Decidable (service.phase = .dropping .alone →
        service.Quiet → service.Know service.service.waiting))
  | .check _ | .login _ | .subscribe _ | .unsubscribe _ | .hold | .release | .clear =>
      .isTrue trivial

end DisplayService

/-! ## Changes -/

/-- Displays that are not the ones that are kept replace them. -/
theorem SyncDisplaysInfo.checkChanged_eq
    (info : SyncDisplaysInfo DisplayInfo)
    (ignored : Bool)
    (displays : List DisplayInfo) :
    info.checkChanged ignored displays =
      if displays = info.displays then info else info.replace ignored displays := by
  unfold checkChanged
  by_cases same : displays = info.displays
  · subst same
    have unchanged : (info.displays.zipIdx.any fun (d, i) =>
        decide (some d ≠ info.displays[i]?)) = false := by
      rw [List.any_eq_false]
      rintro ⟨display, index⟩ member
      have found := List.mk_mem_zipIdx_iff_getElem?.mp member
      simp [found]
    rw [if_neg (not_not_intro rfl), unchanged, if_neg Bool.false_ne_true, if_pos rfl]
  · rw [if_neg same]
    split
    case isTrue => rfl
    case isFalse lengths =>
      split
      case isTrue => rfl
      case isFalse unchanged =>
        refine absurd (List.ext_getElem? fun index => ?_) same
        rw [ne_eq, not_not] at lengths
        cases found : displays[index]? with
        | none =>
            rw [List.getElem?_eq_none_iff] at found
            rw [eq_comm, List.getElem?_eq_none_iff]
            omega
        | some display =>
            rw [Bool.not_eq_true, List.any_eq_false] at unchanged
            have equal := unchanged (display, index) (List.mk_mem_zipIdx_iff_getElem?.mpr found)
            simpa using equal

namespace DisplayService

variable {service : DisplayService DisplayInfo}

omit [DecidableEq DisplayInfo] in
/-- What a connection knows after some were sent the displays. -/
theorem announced_deliver_displays
    (group : Finset Int)
    (displays : List DisplayInfo)
    (inbox : Int → List (List DisplayInfo))
    (id : Int) :
    announced some (deliver group displays inbox id) =
      if id ∈ group then some displays else announced some (inbox id) := by
  rw [announced_deliver]
  rfl

omit [DecidableEq DisplayInfo] in
theorem Know.mono
    {ids others : Finset Int}
    (know : service.Know ids)
    (fewer : others ⊆ ids) :
    service.Know others :=
  fun id member => know id (fewer member)

/-- A change leaves the service as it was, or somebody is about to tell of it. -/
theorem checkUpdateDisplays_eq_or
    (held : service.ignore = true → service.holders > 0)
    (displays : List DisplayInfo) :
    service.checkUpdateDisplays displays = service ∨
      ¬(service.checkUpdateDisplays displays).Quiet := by
  unfold checkUpdateDisplays
  rw [SyncDisplaysInfo.checkChanged_eq]
  split
  case isTrue => exact .inl rfl
  case isFalse =>
    refine .inr fun quiet => ?_
    cases ignore_eq : service.ignore with
    | true => exact absurd quiet.2.1 (Nat.ne_of_gt (held ignore_eq))
    | false =>
        have synced := quiet.1
        simp [ignore_eq, SyncDisplaysInfo.replace] at synced

end DisplayService

/-! ## Runs -/

/-- Everyone in `subscribes` knows the displays as they are, unless they are about to be told. -/
structure Settled (service : DisplayService DisplayInfo) : Prop where
  needs : service.service.needSnapshot = true
  guarded : service.phase.holdsGuard → service.service.HoldsGuard 0
  held : service.ignore = true → service.holders > 0
  ignored : service.phase = .dropping .ignored → ¬service.Quiet
  bailed : service.phase = .dropping .bailed → ¬service.Quiet
  sent : ∀ displays, service.phase = .sending displays → service.Quiet →
    displays = service.sync.displays
  told : (∀ displays, service.phase ≠ .sending displays) → service.Quiet →
    service.Know service.service.subscribed

namespace Settled

variable {service : DisplayService DisplayInfo}

omit [DecidableEq DisplayInfo] in
theorem new : Settled (.new : DisplayService DisplayInfo) where
  needs := rfl
  guarded := by rintro ⟨⟩
  held := by rintro ⟨⟩
  ignored := by rintro ⟨⟩
  bailed := by rintro ⟨⟩
  sent := by rintro _ ⟨⟩
  told := by rintro _ ⟨⟨⟩, _⟩

omit [DecidableEq DisplayInfo] in
/-- After a step that leaves something to be told, there is nothing to know. -/
theorem of_not_quiet
    {after : DisplayService DisplayInfo}
    (needs : after.service.needSnapshot = true)
    (guarded : after.phase.holdsGuard → after.service.HoldsGuard 0)
    (held : after.ignore = true → after.holders > 0)
    (loud : ¬after.Quiet) :
    Settled after where
  needs := needs
  guarded := guarded
  held := held
  ignored := fun _ => loud
  bailed := fun _ => loud
  sent := fun _ _ quiet => absurd quiet loud
  told := fun _ quiet => absurd quiet loud

omit [DecidableEq DisplayInfo] in
/-- The thread of the service goes on without touching anything. -/
theorem move
    (settled : Settled service)
    {phase : Phase DisplayInfo}
    (silent : ∀ displays, service.phase ≠ .sending displays)
    (guarded : phase.holdsGuard → service.service.HoldsGuard 0)
    (ending : phase = .dropping .ignored ∨ phase = .dropping .bailed → ¬service.Quiet)
    (silentAfter : ∀ displays, phase ≠ .sending displays) :
    Settled { service with phase } where
  needs := settled.needs
  guarded := guarded
  held := settled.held
  ignored := fun is => ending (.inl is)
  bailed := fun is => ending (.inr is)
  sent := fun displays is => absurd is (silentAfter displays)
  told := fun _ => settled.told silent

omit [DecidableEq DisplayInfo] in
/-- The thread goes on to where it has no guard. -/
theorem rest
    (settled : Settled service)
    {phase : Phase DisplayInfo}
    (silent : ∀ displays, service.phase ≠ .sending displays)
    (free : phase.holdsGuard = false)
    (silentAfter : ∀ displays, phase ≠ .sending displays) :
    Settled { service with phase } := by
  refine settled.move silent (fun holds => absurd holds (by simp [free])) ?_ silentAfter
  rintro (rfl | rfl)
  · cases free
  · cases free

theorem check
    (settled : Settled service)
    (displays : List DisplayInfo) :
    Settled (service.checkUpdateDisplays displays) := by
  rcases DisplayService.checkUpdateDisplays_eq_or settled.held displays with same | loud
  · rw [same]
    exact settled
  · exact of_not_quiet settled.needs settled.guarded settled.held loud

end Settled

namespace Settled

variable {service : DisplayService DisplayInfo}

omit [DecidableEq DisplayInfo] in
/-- The guard of a snapshot is dropped. -/
theorem drop
    (settled : Settled service)
    {ending : Ending}
    (phase_eq : service.phase = .dropping ending)
    {next : Phase DisplayInfo}
    (free : next.holdsGuard = false)
    (silentAfter : ∀ displays, next ≠ .sending displays)
    (upToDate : service.Quiet → service.Know service.service.waiting) :
    Settled { service with service := service.service.step (.drop 0), phase := next } where
  needs := by simp [settled.needs]
  guarded := fun holds => absurd holds (by simp [free])
  held := settled.held
  ignored := by
    rintro rfl
    cases free
  bailed := by
    rintro rfl
    cases free
  sent := fun displays is => absurd is (silentAfter displays)
  told := by
    intro _ quiet id member
    have inUse : (service.service.swaps.lookup 0).isSome :=
      settled.guarded (by rw [phase_eq]; rfl)
    rw [subscribed_drop, if_pos inUse, Finset.mem_union] at member
    rcases member with waiting | subscribed
    · exact upToDate quiet id waiting
    · exact settled.told (by simp [phase_eq]) quiet id subscribed

/-- The displays are taken for sending, or everyone knows them already. -/
theorem update
    (settled : Settled service)
    (phase_eq : service.phase = .updating)
    (found : Option (List DisplayInfo)) :
    Settled (service.tick found) := by
  simp only [DisplayService.tick, phase_eq, SyncDisplaysInfo.getUpdateSyncDisplays]
  cases synced : service.sync.isSynced with
  | true => exact settled.rest (by simp [phase_eq]) rfl (by simp)
  | false =>
      exact {
        needs := settled.needs
        guarded := by rintro ⟨⟩
        held := settled.held
        ignored := by rintro ⟨⟩
        bailed := by rintro ⟨⟩
        sent := by
          rintro displays ⟨⟩ _
          rfl
        told := fun silent => absurd rfl (silent service.sync.displays) }

/-- The displays are sent to everyone in `subscribes`. -/
theorem send
    (settled : Settled service)
    {displays : List DisplayInfo}
    (phase_eq : service.phase = .sending displays)
    (found : Option (List DisplayInfo)) :
    Settled (service.tick found) := by
  simp only [DisplayService.tick, phase_eq]
  exact {
    needs := by simp [settled.needs]
    guarded := by rintro ⟨⟩
    held := settled.held
    ignored := by rintro ⟨⟩
    bailed := by rintro ⟨⟩
    sent := by rintro _ ⟨⟩
    told := by
      intro _ quiet id member
      rw [subscribed_send] at member
      rw [DisplayService.known, DisplayService.announced_deliver_displays, if_pos member,
        settled.sent displays phase_eq quiet] }

/-- A guard is handed out if there are new subscribers. -/
theorem enterSnapshot
    (settled : Settled service)
    (phase_eq : service.phase = .snapshot)
    (found : Option (List DisplayInfo)) :
    Settled (service.tick found) := by
  have silent : ∀ displays, service.phase ≠ .sending displays := by simp [phase_eq]
  simp only [DisplayService.tick, phase_eq]
  split
  case isTrue waiting =>
    exact {
      needs := by simp [settled.needs]
      guarded := fun _ => holdsGuard_snapshot waiting 0
      held := settled.held
      ignored := by rintro ⟨⟩
      bailed := by rintro ⟨⟩
      sent := by rintro _ ⟨⟩
      told := by
        intro _ quiet
        rw [subscribed_snapshot]
        exact settled.told silent quiet }
  case isFalse => exact settled.rest silent rfl (by simp)

/-- Of the ways through a snapshot, only the one without others has to be up to date. -/
theorem tick
    (settled : Settled service)
    {found : Option (List DisplayInfo)}
    (upToDate : service.UpToDate (.tick found)) :
    Settled (service.tick found) := by
  cases phase_eq : service.phase with
  | outside =>
      simp only [DisplayService.tick, phase_eq]
      split
      · exact settled.rest (by simp [phase_eq]) rfl (by simp)
      · exact settled
  | entered =>
      simp only [DisplayService.tick, phase_eq]
      refine settled.rest (by simp [phase_eq]) ?_ fun displays => ?_
      · split <;> rfl
      · split <;> simp
  | snapshot => exact settled.enterSnapshot phase_eq found
  | loading =>
      have inUse := settled.guarded (by rw [phase_eq]; rfl)
      simp only [DisplayService.tick, phase_eq]
      refine settled.move (by simp [phase_eq]) (fun _ => inUse) (fun ending quiet => ?_) ?_
      · -- The flag is on, so its holder has yet to take back `is_synced`.
        cases ignore_eq : service.ignore with
        | true => exact absurd quiet.2.1 (Nat.ne_of_gt (settled.held ignore_eq))
        | false => simp [ignore_eq] at ending
      · intro displays
        split <;> simp
  | counting =>
      have inUse := settled.guarded (by rw [phase_eq]; rfl)
      simp only [DisplayService.tick, phase_eq]
      refine settled.move (by simp [phase_eq]) (fun _ => inUse) (fun ending => ?_) ?_
      · split at ending <;> simp at ending
      · intro displays
        split <;> simp
  | resetting =>
      have inUse := settled.guarded (by rw [phase_eq]; rfl)
      simp only [DisplayService.tick, phase_eq]
      exact of_not_quiet settled.needs (fun _ => inUse) settled.held fun quiet => by cases quiet.1
  | dropping ending =>
      have waitingKnow : service.Quiet → service.Know service.service.waiting := by
        cases ending with
        | ignored => exact fun quiet => absurd quiet (settled.ignored phase_eq)
        | alone => exact upToDate phase_eq
        | bailed => exact fun quiet => absurd quiet (settled.bailed phase_eq)
      simp only [DisplayService.tick, phase_eq]
      refine settled.drop phase_eq ?_ ?_ waitingKnow
      · split <;> rfl
      · intro displays
        split <;> simp
  | checking =>
      simp only [DisplayService.tick, phase_eq]
      cases found with
      | some displays =>
          have silent : ∀ sent, (service.checkUpdateDisplays displays).phase ≠ .sending sent := by
            simp [DisplayService.checkUpdateDisplays, phase_eq]
          exact (settled.check displays).rest silent rfl (by simp)
      | none => exact settled.rest (by simp [phase_eq]) rfl (by simp)
  | updating => exact settled.update phase_eq found
  | sending displays => exact settled.send phase_eq found

omit [DecidableEq DisplayInfo] in
/-- A critical section that promotes nobody leaves nothing untold. -/
theorem fewer
    (settled : Settled service)
    {event : Service.Event (List DisplayInfo)}
    (kept : event ≠ .drop 0)
    (subset : (service.service.step event).subscribed ⊆ service.service.subscribed) :
    Settled { service with service := service.service.step event } where
  needs := by simp [settled.needs]
  guarded := fun holds => (settled.guarded holds).step kept
  held := settled.held
  ignored := settled.ignored
  bailed := settled.bailed
  sent := settled.sent
  told := fun silent quiet => (settled.told silent quiet).mono subset

theorem step
    (settled : Settled service)
    {event : Event DisplayInfo}
    (upToDate : service.UpToDate event) :
    Settled (service.step event) := by
  cases event with
  | tick displays => exact settled.tick upToDate
  | check displays => exact settled.check displays
  | login id =>
      exact {
        needs := settled.needs
        guarded := settled.guarded
        held := settled.held
        ignored := settled.ignored
        bailed := settled.bailed
        sent := settled.sent
        told := by
          intro silent quiet other member
          have known := settled.told silent quiet other member
          simp only [DisplayService.step, DisplayService.known,
            DisplayService.announced_deliver_displays]
          split
          · rfl
          · exact known }
  | subscribe id =>
      simp only [DisplayService.step]
      split
      · exact settled.fewer (by simp) (subscribed_onSubscribe _ settled.needs id).subset
      · exact settled
  | unsubscribe id =>
      refine settled.fewer (by simp) ?_
      rw [subscribed_onUnsubscribe]
      exact Finset.erase_subset id _
  | hold =>
      refine of_not_quiet settled.needs settled.guarded (fun _ => Nat.succ_pos _) fun quiet => ?_
      exact Nat.succ_ne_zero _ quiet.2.1
  | release =>
      simp only [DisplayService.step]
      split
      · refine of_not_quiet settled.needs settled.guarded (by rintro ⟨⟩) fun quiet => ?_
        exact Nat.succ_ne_zero _ quiet.2.2
      · exact settled
  | clear =>
      simp only [DisplayService.step]
      split
      · exact of_not_quiet settled.needs settled.guarded settled.held fun quiet => by
          cases quiet.1
      · exact settled

end Settled

/--
After somebody is moved over who does not know the displays and will not be told, the next lookup
changes nothing, and the tick ends.
-/
theorem Settled.exists_lost
    {service : DisplayService DisplayInfo}
    (settled : Settled service)
    {event : Event DisplayInfo}
    (outdated : ¬service.UpToDate event) :
    ∃ more, ¬(run DisplayService.step (service.step event) more).NoneLost := by
  cases event with
  | tick found =>
      simp only [DisplayService.UpToDate, Classical.not_imp] at outdated
      obtain ⟨phase_eq, quiet, unaware⟩ := outdated
      refine ⟨[.tick (some service.sync.displays), .tick none], fun noneLost => unaware ?_⟩
      have inUse : (service.service.swaps.lookup 0).isSome :=
        settled.guarded (by rw [phase_eq]; rfl)
      have synced : service.sync.isSynced = true := quiet.1
      have after_eq : run DisplayService.step (service.step (.tick found))
          [.tick (some service.sync.displays), .tick none] =
          { service with service := service.service.step (.drop 0), phase := .entered } := by
        simp [DisplayService.step, DisplayService.tick, phase_eq,
          DisplayService.checkUpdateDisplays, SyncDisplaysInfo.checkChanged_eq,
          SyncDisplaysInfo.getUpdateSyncDisplays, synced]
      rw [after_eq] at noneLost
      intro id waiting
      refine noneLost quiet rfl id ?_
      rw [subscribed_drop, if_pos inUse]
      exact Finset.mem_union_left _ waiting
  | check displays => exact absurd trivial outdated
  | login id => exact absurd trivial outdated
  | subscribe id => exact absurd trivial outdated
  | unsubscribe id => exact absurd trivial outdated
  | hold => exact absurd trivial outdated
  | release => exact absurd trivial outdated
  | clear => exact absurd trivial outdated

/--
In a run in which everyone who is moved over alone is up to date, no display change is lost; and
from the first time that somebody is not, the run can go on so that one is.
-/
theorem noneLost_upToDate :
    (∀ events, Along DisplayService.step DisplayService.UpToDate
        (.new : DisplayService DisplayInfo) events →
      ∀ before, before <+: events → (run DisplayService.step .new before).NoneLost) ∧
    ∀ (events : List (Event DisplayInfo)) event,
      Along DisplayService.step DisplayService.UpToDate .new events →
      ¬(run DisplayService.step .new events).UpToDate event →
        ∃ more, ¬(run DisplayService.step .new (events ++ event :: more)).NoneLost := by
  have settled (events : List (Event DisplayInfo))
      (along : Along DisplayService.step DisplayService.UpToDate .new events) :
      Settled (run DisplayService.step .new events) :=
    run_invariant Settled (fun _ _ settled upToDate => settled.step upToDate) .new along
  constructor
  · intro events along before isPrefix quiet between
    refine (settled before (along.restrict isPrefix)).told (fun displays is => ?_) quiet
    rw [is] at between
    cases between
  · intro events event along outdated
    obtain ⟨more, lost⟩ := (settled events along).exists_lost outdated
    refine ⟨more, ?_⟩
    rwa [run_append, run_cons]

/-- One tick of a service without new subscribers, on what it finds. -/
def quietTick (displays : List Nat) : List (Event Nat) :=
  [.tick none, .tick none, .tick (some displays), .tick none]

/-- A connection logs in and is moved over alone. -/
def firstViewer : List (Event Nat) :=
  [.check [1], .login 2, .subscribe 2, .tick none, .tick none, .tick none, .tick none, .tick none,
    .tick none, .tick (some [1]), .tick none, .tick none]

/-- Another one logs in, a display comes, the first one is told of it and leaves. -/
def secondViewer : List (Event Nat) :=
  [.login 1] ++ quietTick [1, 2] ++ [.tick none, .unsubscribe 2, .subscribe 1]

/-- The first viewer is told of a change that was ignored for a while. -/
theorem noneLost_upToDate_holder :
    (run DisplayService.step .new (firstViewer ++
      [.hold, .check [1, 2], .release, .clear] ++ quietTick [1, 2] ++ [.tick none])).NoneLost := by
  refine noneLost_upToDate.1 _ ?_ _ (List.prefix_refl _)
  decide +kernel

/-- The second viewer is moved over alone with the displays of its login. -/
theorem second_viewer_misses_display :
    ¬(run DisplayService.step .new (firstViewer ++ secondViewer ++
      [.tick none, .tick none, .tick none, .tick none, .tick none, .tick (some [1, 2]),
        .tick none])).NoneLost := by
  intro noneLost
  have known := noneLost (by decide +kernel) (by decide +kernel) 1 (by decide +kernel)
  revert known
  decide +kernel

end Displays
end Service
end OneDesk
