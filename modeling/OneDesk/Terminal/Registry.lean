import OneDesk.Lib.Run
import OneDesk.Terminal.Session

/-!
# The registry of terminal services

Services are shared by id.  Every connection has a loop that removes its service
when it ends, unless the service is persistent; a cleanup pass notes the services
that are idle and removes them afterwards.  Each step of a thread is one critical
section.
-/

namespace OneDesk
namespace Terminal

open OneDesk.Lib

/-- `MAX_SERVICES` -/
def maxServices : ℕ := 100

/-- `SERVICE_IDLE_TIMEOUT` in nanoseconds. -/
def serviceIdleTimeout : ℕ := 3600 * 10 ^ 9

/-- What the loop of a connection does next. -/
inductive LoopStage
  /-- `ServiceTmpl::run` looks whether its service is active. -/
  | active
  /-- It looks whether its service has subscribers. -/
  | subscribed
  /-- `run` looks whether its service is `ok`. -/
  | ok
  /-- `TerminalServiceProxy::new` looks whether the service is persistent. -/
  | proxy
  | readOutputs (isPersistent : Bool)
  /-- `run` looks whether it should remove the service. -/
  | leaving
  /-- `run` calls `remove_service`. -/
  | removing
  | exited
  deriving DecidableEq

/-- The thread of a `TerminalService`. -/
structure ServiceLoop where
  serviceId : String
  active : Bool
  subscribed : Bool
  stage : LoopStage

/-- A live connection that has called `init_terminal_service`. -/
structure TerminalClient where
  serviceId : String
  isPersistent : Bool
  /-- The loop of its `terminal_generic_service`. -/
  loop : ℕ
  /-- Whether `get_or_create_service` gave it a service. -/
  created : Bool

/-- `TERMINAL_SERVICES` with the threads that use it. -/
structure TerminalServices where
  services : Table String PersistentTerminalService
  clients : Table ℤ TerminalClient
  loops : Table ℕ ServiceLoop
  nextLoop : ℕ
  /-- What a cleanup pass has still to remove. -/
  toRemove : List String

/-- One step of a thread. -/
inductive ServiceEvent
  /-- `terminal_service::new` for a connection. -/
  | connect (conn : ℤ) (serviceId : String) (isPersistent isSpecifiedUser : Bool) (now : ℕ)
  | onSubscribe (conn : ℤ)
  | action (conn : ℤ) (action : TerminalAction) (answers : Answers) (now : ℕ)
  /-- `update_terminal_persistence` -/
  | setPersistent (conn : ℤ) (isPersistent : Bool)
  /-- The connection is dropped, with a call of `on_disconnect` or without. -/
  | drop (conn : ℤ) (disconnects : Bool)
  /-- The reader thread of a terminal reads a chunk. -/
  | output (serviceId : String) (terminalId : ℤ) (chunk : Bytes)
  /-- The reader thread of a terminal ends. -/
  | finish (serviceId : String) (terminalId : ℤ) (exitCode : ℤ)
  /-- The next step of a loop, which locks some sessions in the order of the map. -/
  | loop (number : ℕ) (order : List ℤ)
  /-- `cleanup_inactive_services` notes what it removes, in the order of the map. -/
  | cleanup (now : ℕ) (order : List String)
  /-- `cleanup_inactive_services` removes the next service. -/
  | removeNext

/-- Whether a cleanup pass notes a service. -/
def PersistentTerminalService.overdue
    (service : PersistentTerminalService)
    (now : ℕ) : Bool :=
  if !service.isPersistent && decide (now - service.lastActivity > serviceIdleTimeout) then true
  else
    service.isPersistent && decide (service.sessions.length = 0) &&
      decide (now - service.lastActivity > serviceIdleTimeout * 2)

namespace TerminalServices

variable (terminals : TerminalServices)

/-- Whether `get_or_create_service` refuses a new service. -/
def full (serviceId : String) : Bool :=
  (terminals.services.lookup serviceId).isNone && decide (terminals.services.length ≥ maxServices)

/-- `get_or_create_service` -/
def getOrCreateService (serviceId : String) (isPersistent isSpecifiedUser : Bool) (now : ℕ) :
    TerminalServices :=
  if terminals.full serviceId then terminals
  else
    let service := (terminals.services.lookup serviceId).getD
      (.new serviceId isPersistent isSpecifiedUser now)
    { terminals with
      services := terminals.services.insert serviceId (service.resetStatus isPersistent) }

/-- `terminal_service::new`, which starts a loop. -/
def connect (conn : ℤ) (serviceId : String) (isPersistent isSpecifiedUser : Bool) (now : ℕ) :
    TerminalServices :=
  { terminals.getOrCreateService serviceId isPersistent isSpecifiedUser now with
    clients := terminals.clients.insert conn
      { serviceId
        isPersistent
        loop := terminals.nextLoop
        created := !terminals.full serviceId }
    loops := terminals.loops.insert terminals.nextLoop
      { serviceId
        active := true
        subscribed := false
        stage := .active }
    nextLoop := terminals.nextLoop + 1 }

/-- `remove_service` -/
def removeService (serviceId : String) : TerminalServices :=
  { terminals with services := terminals.services.erase serviceId }

/-- Change the service that a connection finds under its id. -/
def withService (serviceId : String)
    (change : PersistentTerminalService → PersistentTerminalService) : TerminalServices :=
  { terminals with services := terminals.services.modify serviceId change }

/-- `on_subscribe` of the `terminal_generic_service`. -/
def onSubscribe (conn : ℤ) : TerminalServices :=
  match terminals.clients.lookup conn with
  | none => terminals
  | some client =>
      { terminals with
        loops := terminals.loops.modify client.loop fun loop => { loop with subscribed := true } }

/-- `handle_terminal_action` -/
def handleTerminalAction (conn : ℤ) (action : TerminalAction) (answers : Answers) (now : ℕ) :
    TerminalServices :=
  match terminals.clients.lookup conn with
  | none => terminals
  | some client =>
      terminals.withService client.serviceId fun service =>
        (service.handleAction action answers now).1

/-- `update_terminal_persistence` -/
def updateTerminalPersistence (conn : ℤ) (isPersistent : Bool) : TerminalServices :=
  match terminals.clients.lookup conn with
  | none => terminals
  | some client =>
      { terminals.withService client.serviceId fun service => { service with isPersistent } with
        clients := terminals.clients.insert conn { client with isPersistent } }

/-- The connection is dropped, which ends its loop. -/
def drop (conn : ℤ) (disconnects : Bool) : TerminalServices :=
  match terminals.clients.lookup conn with
  | none => terminals
  | some client =>
      let ended :=
        { terminals with
          clients := terminals.clients.erase conn
          loops := terminals.loops.modify client.loop fun loop => { loop with active := false } }
      if disconnects && !client.isPersistent then ended.removeService client.serviceId
      else ended

/-- Whether the service of an id is persistent, as a new proxy sees it. -/
def isPersistent (serviceId : String) : Bool :=
  ((terminals.services.lookup serviceId).map (·.isPersistent)).getD false

/-- Whether a loop that ends removes the service of an id. -/
def shouldRemove (serviceId : String) : Bool :=
  ((terminals.services.lookup serviceId).map fun service => !service.isPersistent).getD false

/-- What a loop does after its next step. -/
def nextStage (loop : ServiceLoop) : LoopStage :=
  match loop.stage with
  | .active => if loop.active then .subscribed else .exited
  | .subscribed => if loop.subscribed then .ok else .active
  | .ok => if loop.active && loop.subscribed then .proxy else .leaving
  | .proxy => .readOutputs (terminals.isPersistent loop.serviceId)
  | .readOutputs _ => .ok
  | .leaving => if terminals.shouldRemove loop.serviceId then .removing else .active
  | .removing => .active
  | .exited => .exited

/-- What the next step of a loop does to the services. -/
def loopEffect (loop : ServiceLoop) (order : List ℤ) : TerminalServices :=
  match loop.stage with
  | .readOutputs isPersistent =>
      terminals.withService loop.serviceId fun service => service.afterRead isPersistent order
  | .removing => terminals.removeService loop.serviceId
  | _ => terminals

/-- The next step of a loop. -/
def stepLoop (number : ℕ) (order : List ℤ) : TerminalServices :=
  match terminals.loops.lookup number with
  | none => terminals
  | some loop =>
      { terminals.loopEffect loop order with
        loops := terminals.loops.insert number
          { loop with stage := terminals.nextStage loop } }

/-- The services that a cleanup pass notes. -/
def overdueServices (now : ℕ) (order : List String) : List String :=
  order.dedup.filter fun id =>
    ((terminals.services.lookup id).map fun service => service.overdue now).getD false

/-- One step. -/
def step (event : ServiceEvent) : TerminalServices :=
  match event with
  | .connect conn serviceId isPersistent isSpecifiedUser now =>
      terminals.connect conn serviceId isPersistent isSpecifiedUser now
  | .onSubscribe conn => terminals.onSubscribe conn
  | .action conn action answers now => terminals.handleTerminalAction conn action answers now
  | .setPersistent conn isPersistent => terminals.updateTerminalPersistence conn isPersistent
  | .drop conn disconnects => terminals.drop conn disconnects
  | .output serviceId terminalId chunk =>
      terminals.withService serviceId fun service =>
        { service with sessions := service.sessions.modify terminalId (·.putOutput chunk) }
  | .finish serviceId terminalId exitCode =>
      terminals.withService serviceId fun service =>
        { service with sessions := service.sessions.modify terminalId (·.finishReader exitCode) }
  | .loop number order => terminals.stepLoop number order
  | .cleanup now order =>
      if terminals.toRemove.isEmpty then
        { terminals with toRemove := terminals.overdueServices now order }
      else terminals
  | .removeNext =>
      match terminals.toRemove with
      | [] => terminals
      | id :: rest => { terminals.removeService id with toRemove := rest }

/-- No service and no connection. -/
def start : TerminalServices :=
  { services := ∅
    clients := ∅
    loops := ∅
    nextLoop := 0
    toRemove := [] }

/-- Some live connection uses an id. -/
def Used (serviceId : String) : Prop :=
  ∃ conn client, terminals.clients.lookup conn = some client ∧ client.serviceId = serviceId

/-- Some live connection other than one uses an id. -/
def UsedByOther (conn : ℤ) (serviceId : String) : Prop :=
  ∃ other client, other ≠ conn ∧ terminals.clients.lookup other = some client ∧
    client.serviceId = serviceId

/-- Some thread has decided to remove the service of an id. -/
def Doomed (serviceId : String) : Prop :=
  serviceId ∈ terminals.toRemove ∨
    ∃ number loop, terminals.loops.lookup number = some loop ∧ loop.stage = .removing ∧
      loop.serviceId = serviceId

/-- A step that removes a service removes one that no live connection uses, or the last
one does that asks for it. -/
def RemovesUnused (event : ServiceEvent) : Prop :=
  match event with
  | .drop conn disconnects => ∀ client, terminals.clients.lookup conn = some client →
      disconnects = true → client.isPersistent = false →
      ¬terminals.UsedByOther conn client.serviceId
  | .loop number _ => ∀ loop, terminals.loops.lookup number = some loop →
      loop.stage = .removing → ¬terminals.Used loop.serviceId
  | .removeNext => ∀ id rest, terminals.toRemove = id :: rest → ¬terminals.Used id
  | _ => True

/-- Every live connection that was given a service finds it. -/
def Served : Prop :=
  ∀ conn client, terminals.clients.lookup conn = some client → client.created = true →
    (terminals.services.lookup client.serviceId).isSome = true

/-- A step that decides to remove a service decides it for one that no live connection
uses, and nobody connects to a service that is about to be removed. -/
def Careful (event : ServiceEvent) : Prop :=
  match event with
  | .connect _ serviceId _ _ _ => ¬terminals.Doomed serviceId
  | .drop conn disconnects => ∀ client, terminals.clients.lookup conn = some client →
      disconnects = true → client.isPersistent = false →
      ¬terminals.UsedByOther conn client.serviceId
  | .loop number _ => ∀ loop, terminals.loops.lookup number = some loop →
      loop.stage = .leaving → terminals.shouldRemove loop.serviceId = true →
      ¬terminals.Used loop.serviceId
  | .cleanup now order => ∀ id ∈ terminals.overdueServices now order, ¬terminals.Used id
  | _ => True

/-- What careful steps keep. -/
structure Orderly : Prop where
  doomed : ∀ id, terminals.Doomed id → ¬terminals.Used id
  served : terminals.Served

variable {terminals}

theorem isSome_lookup_withService
    (terminals : TerminalServices)
    (serviceId other : String)
    (change : PersistentTerminalService → PersistentTerminalService) :
    ((terminals.withService serviceId change).services.lookup other).isSome =
      (terminals.services.lookup other).isSome := by
  rw [withService, Table.lookup_modify]
  split
  · rw [Option.isSome_map]
  · rfl

theorem Served.withService
    (served : terminals.Served)
    (serviceId : String)
    (change : PersistentTerminalService → PersistentTerminalService) :
    (terminals.withService serviceId change).Served := by
  intro conn client found created
  rw [isSome_lookup_withService]
  exact served conn client found created

/-- Removing a service that nobody uses takes it from nobody. -/
theorem Served.removeService
    (served : terminals.Served)
    {serviceId : String}
    (unused : ¬terminals.Used serviceId) :
    (terminals.removeService serviceId).Served := by
  intro conn client found created
  have different : client.serviceId ≠ serviceId := fun same =>
    unused ⟨conn, client, found, same⟩
  rw [TerminalServices.removeService, Table.lookup_erase_eq, if_neg different]
  exact served conn client found created

theorem isSome_lookup_getOrCreateService
    (terminals : TerminalServices)
    (serviceId other : String)
    (isPersistent isSpecifiedUser : Bool)
    (now : ℕ) :
    ((terminals.getOrCreateService serviceId isPersistent isSpecifiedUser now).services.lookup
        other).isSome =
      ((terminals.services.lookup other).isSome ||
        decide (other = serviceId) && !terminals.full serviceId) := by
  unfold getOrCreateService
  split_ifs with full
  · simp [full]
  · rw [Table.lookup_insert_eq]
    split_ifs with same
    · simp [same, full]
    · simp [same]

/-- A step that takes no service away, adds no user and decides no removal. -/
structure Calm (before after : TerminalServices) : Prop where
  used : ∀ id, after.Used id → before.Used id
  doomed : ∀ id, after.Doomed id → before.Doomed id
  served : before.Served → after.Served

theorem Calm.orderly
    {before after : TerminalServices}
    (calm : Calm before after)
    (orderly : before.Orderly) :
    after.Orderly where
  doomed id doomed used := orderly.doomed id (calm.doomed id doomed) (calm.used id used)
  served := calm.served orderly.served

theorem Calm.refl
    (terminals : TerminalServices) :
    Calm terminals terminals :=
  ⟨fun _ used => used, fun _ doomed => doomed, fun served => served⟩

theorem Calm.trans
    {first second third : TerminalServices}
    (left : Calm first second)
    (right : Calm second third) :
    Calm first third :=
  ⟨fun id used => left.used id (right.used id used),
    fun id doomed => left.doomed id (right.doomed id doomed),
    fun served => right.served (left.served served)⟩

theorem calm_withService
    (terminals : TerminalServices)
    (serviceId : String)
    (change : PersistentTerminalService → PersistentTerminalService) :
    Calm terminals (terminals.withService serviceId change) :=
  ⟨fun _ used => used, fun _ doomed => doomed, fun served => served.withService serviceId change⟩

/-- A loop changes, and it does not decide to remove its service. -/
theorem calm_modifyLoop
    (terminals : TerminalServices)
    (number : ℕ)
    (change : ServiceLoop → ServiceLoop)
    (serviceId : ∀ loop, (change loop).serviceId = loop.serviceId)
    (stage : ∀ loop, (change loop).stage = loop.stage) :
    Calm terminals { terminals with loops := terminals.loops.modify number change } where
  used _ used := used
  doomed := by
    rintro id (noted | ⟨other, loop, found, removing, named⟩)
    · exact .inl noted
    · rw [Table.lookup_modify] at found
      split at found
      case isTrue =>
        obtain ⟨earlier, earlier_eq, rfl⟩ := Option.map_eq_some_iff.mp found
        exact .inr ⟨other, earlier, earlier_eq, (stage earlier).symm.trans removing,
          (serviceId earlier).symm.trans named⟩
      case isFalse => exact .inr ⟨other, loop, found, removing, named⟩
  served served := served

theorem calm_onSubscribe
    (terminals : TerminalServices)
    (conn : ℤ) :
    Calm terminals (terminals.onSubscribe conn) := by
  unfold onSubscribe
  split
  · exact .refl terminals
  · exact calm_modifyLoop terminals _ _ (fun _ => rfl) fun _ => rfl

theorem calm_handleTerminalAction
    (terminals : TerminalServices)
    (conn : ℤ)
    (action : TerminalAction)
    (answers : Answers)
    (now : ℕ) :
    Calm terminals (terminals.handleTerminalAction conn action answers now) := by
  unfold handleTerminalAction
  split
  · exact .refl terminals
  · exact calm_withService terminals _ _

theorem calm_updateTerminalPersistence
    (terminals : TerminalServices)
    (conn : ℤ)
    (isPersistent : Bool) :
    Calm terminals (terminals.updateTerminalPersistence conn isPersistent) := by
  unfold updateTerminalPersistence
  split
  · exact .refl terminals
  · rename_i client client_eq
    refine ⟨?_, fun _ doomed => doomed, ?_⟩
    · rintro id ⟨other, later, found, named⟩
      rw [Table.lookup_insert_eq] at found
      split at found
      case isTrue =>
        obtain rfl := Option.some_inj.mp found
        exact ⟨conn, client, client_eq, named⟩
      case isFalse => exact ⟨other, later, found, named⟩
    · intro served other later found created
      have given := served.withService client.serviceId fun service =>
        { service with isPersistent }
      rw [Table.lookup_insert_eq] at found
      split at found
      case isTrue =>
        obtain rfl := Option.some_inj.mp found
        exact given conn client client_eq created
      case isFalse => exact given other later found created

/-- What a dropped connection leaves when nothing is removed. -/
theorem calm_endClient
    (terminals : TerminalServices)
    (conn : ℤ)
    (number : ℕ) :
    Calm terminals
      { terminals with
        clients := terminals.clients.erase conn
        loops := terminals.loops.modify number fun loop => { loop with active := false } } := by
  refine (calm_modifyLoop terminals number (fun loop => { loop with active := false })
    (fun _ => rfl) fun _ => rfl).trans ?_
  have earlier : ∀ other client, (terminals.clients.erase conn).lookup other = some client →
      terminals.clients.lookup other = some client := by
    intro other client found
    rw [Table.lookup_erase_eq] at found
    split at found
    · cases found
    · exact found
  refine ⟨?_, fun _ doomed => doomed, ?_⟩
  · rintro id ⟨other, client, found, named⟩
    exact ⟨other, client, earlier other client found, named⟩
  · intro served other client found created
    exact served other client (earlier other client found) created

theorem orderly_drop
    (orderly : terminals.Orderly)
    {conn : ℤ}
    {disconnects : Bool}
    (careful : terminals.Careful (.drop conn disconnects)) :
    (terminals.drop conn disconnects).Orderly := by
  unfold drop
  split
  · exact orderly
  · rename_i client client_eq
    have ended := (calm_endClient terminals conn client.loop).orderly orderly
    dsimp only
    split_ifs with removes
    · obtain ⟨disconnects, notPersistent⟩ := Bool.and_eq_true_iff.mp removes
      have unused := careful client client_eq disconnects (by simpa using notPersistent)
      refine ⟨ended.doomed, ended.served.removeService ?_⟩
      rintro ⟨other, later, found, named⟩
      rw [Table.lookup_erase_eq] at found
      split at found
      case isTrue => cases found
      case isFalse different => exact unused ⟨other, later, different, found, named⟩
    · exact ended

theorem orderly_connect
    (orderly : terminals.Orderly)
    {conn : ℤ}
    {serviceId : String}
    (isPersistent isSpecifiedUser : Bool)
    (now : ℕ)
    (unharmed : ¬terminals.Doomed serviceId) :
    (terminals.connect conn serviceId isPersistent isSpecifiedUser now).Orderly := by
  have created := isSome_lookup_getOrCreateService terminals serviceId
  have toRemove : (terminals.getOrCreateService serviceId isPersistent isSpecifiedUser
      now).toRemove = terminals.toRemove := by
    unfold getOrCreateService
    split_ifs <;> rfl
  constructor
  · rintro id doomed ⟨other, client, found, named⟩
    have before : terminals.Doomed id := by
      rcases doomed with noted | ⟨number, loop, loop_eq, removing, named⟩
      · exact .inl (toRemove ▸ noted)
      · rw [connect, Table.lookup_insert_eq] at loop_eq
        split at loop_eq
        case isTrue =>
          obtain rfl := Option.some_inj.mp loop_eq
          cases removing
        case isFalse => exact .inr ⟨number, loop, loop_eq, removing, named⟩
    rw [connect, Table.lookup_insert_eq] at found
    split at found
    case isTrue =>
      obtain rfl := Option.some_inj.mp found
      obtain rfl : serviceId = id := named
      exact unharmed before
    case isFalse => exact orderly.doomed id before ⟨other, client, found, named⟩
  · intro other client found given
    rw [connect, Table.lookup_insert_eq] at found
    split at found
    case isTrue =>
      obtain rfl := Option.some_inj.mp found
      have notFull : terminals.full serviceId = false := by simpa using given
      exact (created serviceId isPersistent isSpecifiedUser now).trans (by simp [notFull])
    case isFalse =>
      have kept := orderly.served other client found given
      exact (created client.serviceId isPersistent isSpecifiedUser now).trans (by simp [kept])

/-- A loop's step touches the services only. -/
theorem loopEffect_eq
    (terminals : TerminalServices)
    (loop : ServiceLoop)
    (order : List ℤ) :
    (terminals.loopEffect loop order).clients = terminals.clients ∧
      (terminals.loopEffect loop order).toRemove = terminals.toRemove := by
  unfold loopEffect
  split <;> exact ⟨rfl, rfl⟩

/-- A loop is about to remove its service only if it has found that it should. -/
theorem leaving_of_removing
    {loop : ServiceLoop}
    (removing : terminals.nextStage loop = .removing) :
    loop.stage = .leaving ∧ terminals.shouldRemove loop.serviceId = true := by
  unfold nextStage at removing
  split at removing
  case h_6 leaving =>
    split_ifs at removing with removes
    exact ⟨leaving, removes⟩
  all_goals first
    | cases removing
    | split_ifs at removing

theorem orderly_stepLoop
    (orderly : terminals.Orderly)
    {number : ℕ}
    {order : List ℤ}
    (careful : terminals.Careful (.loop number order)) :
    (terminals.stepLoop number order).Orderly := by
  unfold stepLoop
  split
  · exact orderly
  · rename_i loop loop_eq
    obtain ⟨clients, toRemove⟩ := loopEffect_eq terminals loop order
    constructor
    · rintro id doomed ⟨conn, client, found, named⟩
      have used : terminals.Used id := ⟨conn, client, clients ▸ found, named⟩
      rcases doomed with noted | ⟨other, later, later_eq, removing, named⟩
      · exact orderly.doomed id (.inl (toRemove ▸ noted)) used
      · rw [Table.lookup_insert_eq] at later_eq
        split at later_eq
        case isTrue =>
          obtain rfl := Option.some_inj.mp later_eq
          obtain ⟨leaving, removes⟩ := leaving_of_removing removing
          obtain rfl : loop.serviceId = id := named
          exact careful loop loop_eq leaving removes used
        case isFalse =>
          exact orderly.doomed id (.inr ⟨other, later, later_eq, removing, named⟩) used
    · suffices (terminals.loopEffect loop order).Served from this
      unfold loopEffect
      split
      · exact orderly.served.withService _ _
      · rename_i removing
        exact orderly.served.removeService
          (orderly.doomed _ (.inr ⟨number, loop, loop_eq, removing, rfl⟩))
      · exact orderly.served

/-- A careful step keeps the registry orderly. -/
theorem step_orderly
    (event : ServiceEvent)
    (orderly : terminals.Orderly)
    (careful : terminals.Careful event) :
    (terminals.step event).Orderly := by
  cases event with
  | connect conn serviceId isPersistent isSpecifiedUser now =>
      exact orderly_connect orderly isPersistent isSpecifiedUser now careful
  | onSubscribe conn => exact (calm_onSubscribe terminals conn).orderly orderly
  | action conn action answers now =>
      exact (calm_handleTerminalAction terminals conn action answers now).orderly orderly
  | setPersistent conn isPersistent =>
      exact (calm_updateTerminalPersistence terminals conn isPersistent).orderly orderly
  | drop conn disconnects => exact orderly_drop orderly careful
  | output serviceId terminalId chunk =>
      exact (calm_withService terminals serviceId _).orderly orderly
  | finish serviceId terminalId exitCode =>
      exact (calm_withService terminals serviceId _).orderly orderly
  | loop number order => exact orderly_stepLoop orderly careful
  | cleanup now order =>
      simp only [step]
      split_ifs
      · refine ⟨?_, orderly.served⟩
        rintro id (noted | removing)
        · exact careful id noted
        · exact orderly.doomed id (.inr removing)
      · exact orderly
  | removeNext =>
      simp only [step]
      split
      · exact orderly
      · rename_i id rest toRemove
        have noted : id ∈ terminals.toRemove := by simp [toRemove]
        refine ⟨?_, orderly.served.removeService (orderly.doomed id (.inl noted))⟩
        rintro other (later | removing)
        · exact orderly.doomed other (.inl (toRemove ▸ List.mem_cons_of_mem id later))
        · exact orderly.doomed other (.inr removing)

/-- In an orderly registry a careful step removes nothing that is in use. -/
theorem removesUnused_of_orderly
    (event : ServiceEvent)
    (orderly : terminals.Orderly)
    (careful : terminals.Careful event) :
    terminals.RemovesUnused event := by
  cases event with
  | drop conn disconnects => exact careful
  | loop number order =>
      intro loop loop_eq removing
      exact orderly.doomed loop.serviceId (.inr ⟨number, loop, loop_eq, removing, rfl⟩)
  | removeNext =>
      intro id rest toRemove
      exact orderly.doomed id (.inl (by simp [toRemove]))
  | _ => trivial

theorem start_orderly : start.Orderly := by
  constructor
  · rintro id doomed ⟨conn, client, found, -⟩
    cases found
  · intro conn client found
    cases found

end TerminalServices

end Terminal
end OneDesk
