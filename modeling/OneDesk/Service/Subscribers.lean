import OneDesk.Service.Template

/-!
# Subscribers of the services of a server

A service keeps its subscribers in two sets, and `on_unsubscribe` looks into the second one only
where the first has nothing to remove.  So no connection may ever be in both.  When a connection is
removed from a server, its services are told one after another while their threads go on.
-/

namespace OneDesk
namespace Service

open OneDesk.Lib

variable {Message : Type}

section

variable (service : ServiceInner Message)

theorem isSubed_eq_false_iff (id : Int) :
    service.isSubed id = false ↔ id ∉ service.subscribed ∧ id ∉ service.waiting := by
  simp [ServiceInner.isSubed, ServiceInner.subscribed, ServiceInner.waiting, Table.mem_keys_iff]

/-- A connection that comes is put into one of the sets unless it is in the first. -/
theorem onSubscribe_cases (id : Int) :
    ((service.step (.onSubscribe id)).subscribed = service.subscribed ∧
      (service.step (.onSubscribe id)).waiting = service.waiting) ∨
    (id ∉ service.subscribed ∧ service.needSnapshot = true ∧
      (service.step (.onSubscribe id)).subscribed = service.subscribed ∧
      (service.step (.onSubscribe id)).waiting = insert id service.waiting) ∨
    (service.needSnapshot = false ∧
      (service.step (.onSubscribe id)).subscribed = insert id service.subscribed ∧
      (service.step (.onSubscribe id)).waiting = service.waiting) := by
  simp only [ServiceInner.subscribed, ServiceInner.waiting, ServiceInner.step,
    ServiceInner.perform, ServiceInner.onSubscribe, Table.mem_keys_iff]
  split
  case isTrue => exact .inl ⟨rfl, rfl⟩
  case isFalse absent =>
    split
    case isTrue needs => exact .inr (.inl ⟨absent, needs, rfl, Table.keys_insert ..⟩)
    case isFalse direct =>
      exact .inr (.inr ⟨Bool.eq_false_iff.mpr direct, Table.keys_insert .., rfl⟩)

theorem waiting_onUnsubscribe (id : Int) :
    (service.step (.onUnsubscribe id)).waiting =
      if id ∈ service.subscribed then service.waiting else service.waiting.erase id := by
  simp only [ServiceInner.subscribed, ServiceInner.waiting, ServiceInner.step,
    ServiceInner.perform, ServiceInner.onUnsubscribe, Table.mem_keys_iff]
  split
  · rfl
  · exact Table.keys_erase id service.newSubscribes

@[simp] theorem waiting_send
    (message : Message)
    (audience : Audience) :
    (service.step (.send message audience)).waiting = service.waiting := rfl

@[simp] theorem waiting_snapshot (swap : Nat) :
    (service.step (.snapshot swap)).waiting = service.waiting := by
  simp only [ServiceInner.waiting, ServiceInner.step, ServiceInner.perform,
    ServiceInner.enterSnapshot]
  split <;> rfl

@[simp] theorem waiting_sendNew
    (swap : Nat)
    (message : Message) :
    (service.step (.sendNew swap message)).waiting = service.waiting := by
  simp only [ServiceInner.waiting, ServiceInner.step, ServiceInner.perform,
    ServiceInner.sendNew]
  split
  · rfl
  · exact Table.keys_mapValues _ service.newSubscribes

/-- A guard that is dropped leaves nobody behind. -/
theorem waiting_drop (swap : Nat) :
    (service.step (.drop swap)).waiting =
      if (service.swaps.lookup swap).isSome then ∅ else service.waiting := by
  cases found : service.swaps.lookup swap with
  | none =>
      simp [ServiceInner.waiting, ServiceInner.step, ServiceInner.perform, ServiceInner.drop, found]
  | some sent =>
      simp [ServiceInner.waiting, ServiceInner.step, ServiceInner.perform, ServiceInner.drop, found]

end

/-- No connection is in both sets, and the second is for services with snapshots only. -/
structure Apart (service : ServiceInner Message) : Prop where
  disjoint : Disjoint service.subscribed service.waiting
  direct : service.needSnapshot = false → service.waiting = ∅

namespace Apart

variable {service : ServiceInner Message}

theorem new (needSnapshot : Bool) :
    Apart (ServiceInner.new needSnapshot : ServiceInner Message) where
  disjoint := Finset.disjoint_empty_right _
  direct _ := rfl

/-- What only takes connections out of the sets keeps these apart. -/
theorem of_subset
    (apart : Apart service)
    {after : ServiceInner Message}
    (needSnapshot : after.needSnapshot = service.needSnapshot)
    (subscribed : after.subscribed ⊆ service.subscribed)
    (waiting : after.waiting ⊆ service.waiting) :
    Apart after where
  disjoint := Finset.disjoint_of_subset_left subscribed
    (Finset.disjoint_of_subset_right waiting apart.disjoint)
  direct := by
    intro direct
    rw [apart.direct (needSnapshot ▸ direct)] at waiting
    exact Finset.subset_empty.mp waiting

theorem onSubscribe
    (apart : Apart service)
    (id : Int) :
    Apart (service.step (.onSubscribe id)) := by
  have same := needSnapshot_step service (.onSubscribe id)
  rcases onSubscribe_cases service id with
    ⟨subscribed, waiting⟩ | ⟨absent, needs, subscribed, waiting⟩ | ⟨direct, subscribed, waiting⟩
  · exact apart.of_subset same subscribed.subset waiting.subset
  · constructor
    · rw [subscribed, waiting, Finset.disjoint_insert_right]
      exact ⟨absent, apart.disjoint⟩
    · intro direct
      rw [same, needs] at direct
      cases direct
  · have nobody := waiting.trans (apart.direct direct)
    constructor
    · rw [nobody]
      exact Finset.disjoint_empty_right _
    · exact fun _ => nobody

/-- Every critical section keeps the sets apart. -/
theorem step
    (apart : Apart service)
    (event : Event Message) :
    Apart (service.step event) := by
  have needs := needSnapshot_step service event
  cases event with
  | onSubscribe id => exact apart.onSubscribe id
  | onUnsubscribe id =>
      refine apart.of_subset needs ?_ ?_
      · rw [subscribed_onUnsubscribe]
        exact Finset.erase_subset id _
      · rw [waiting_onUnsubscribe]
        split
        · exact Finset.Subset.refl _
        · exact Finset.erase_subset id _
  | send message audience =>
      exact apart.of_subset needs (subscribed_send service message audience).subset
        (waiting_send service message audience).subset
  | snapshot swap =>
      exact apart.of_subset needs (subscribed_snapshot service swap).subset
        (waiting_snapshot service swap).subset
  | sendNew swap message =>
      exact apart.of_subset needs (subscribed_sendNew service swap message).subset
        (waiting_sendNew service swap message).subset
  | drop swap =>
      by_cases holds : (service.swaps.lookup swap).isSome
      · have nobody : (service.step (.drop swap)).waiting = ∅ := by
          rw [waiting_drop, if_pos holds]
        constructor
        · rw [nobody]
          exact Finset.disjoint_empty_right _
        · exact fun _ => nobody
      · refine apart.of_subset needs ?_ ?_
        · rw [subscribed_drop, if_neg holds]
        · rw [waiting_drop, if_neg holds]

/-- Who unsubscribes is in neither set afterwards. -/
theorem isSubed_onUnsubscribe
    (apart : Apart service)
    (id : Int) :
    (service.step (.onUnsubscribe id)).isSubed id = false := by
  rw [isSubed_eq_false_iff, subscribed_onUnsubscribe, waiting_onUnsubscribe]
  constructor
  · exact Finset.notMem_erase id _
  · split
    case isTrue subscribed => exact Finset.disjoint_left.mp apart.disjoint subscribed
    case isFalse => exact Finset.notMem_erase id _

end Apart

/-- Only `on_subscribe` puts a connection into a set. -/
theorem isSubed_step
    {service : ServiceInner Message}
    {id : Int}
    (absent : service.isSubed id = false)
    {event : Event Message}
    (other : event ≠ .onSubscribe id) :
    (service.step event).isSubed id = false := by
  rw [isSubed_eq_false_iff] at absent ⊢
  obtain ⟨notSubscribed, notWaiting⟩ := absent
  cases event with
  | onSubscribe other_id =>
      have different : id ≠ other_id := fun same => other (same ▸ rfl)
      rcases onSubscribe_cases service other_id with
        ⟨subscribed, waiting⟩ | ⟨-, -, subscribed, waiting⟩ | ⟨-, subscribed, waiting⟩
      · rw [subscribed, waiting]
        exact ⟨notSubscribed, notWaiting⟩
      · rw [subscribed, waiting, Finset.mem_insert]
        exact ⟨notSubscribed, not_or.mpr ⟨different, notWaiting⟩⟩
      · rw [subscribed, waiting, Finset.mem_insert]
        exact ⟨not_or.mpr ⟨different, notSubscribed⟩, notWaiting⟩
  | onUnsubscribe other_id =>
      rw [subscribed_onUnsubscribe, waiting_onUnsubscribe]
      constructor
      · exact fun member => notSubscribed (Finset.mem_of_mem_erase member)
      · split
        · exact notWaiting
        · exact fun member => notWaiting (Finset.mem_of_mem_erase member)
  | send message audience =>
      rw [subscribed_send, waiting_send]
      exact ⟨notSubscribed, notWaiting⟩
  | snapshot swap =>
      rw [subscribed_snapshot, waiting_snapshot]
      exact ⟨notSubscribed, notWaiting⟩
  | sendNew swap message =>
      rw [subscribed_sendNew, waiting_sendNew]
      exact ⟨notSubscribed, notWaiting⟩
  | drop swap =>
      rw [subscribed_drop, waiting_drop]
      split
      · exact ⟨by simp [notSubscribed, notWaiting], Finset.notMem_empty id⟩
      · exact ⟨notSubscribed, notWaiting⟩

/-- Until it subscribes again, a connection stays away. -/
theorem isSubed_run
    {service : ServiceInner Message}
    {id : Int}
    (absent : service.isSubed id = false)
    {events : List (Event Message)}
    (none : .onSubscribe id ∉ events) :
    (run ServiceInner.step service events).isSubed id = false := by
  induction events generalizing service with
  | nil => exact absent
  | cons event events inductionHypothesis =>
      rw [List.mem_cons, not_or] at none
      exact inductionHypothesis (isSubed_step absent (Ne.symm none.1)) none.2

/-- `Server`, with the call of `remove_connection` that runs. -/
structure Server (Message : Type) where
  services : Table String (ServiceInner Message)
  connections : Finset Int
  /-- The connection that is removed and the services that are still to be told. -/
  removing : Option (Int × List String)

/-- One step of a thread.  The methods of a server wait for its lock. -/
inductive ServerEvent (Message : Type)
  /-- `add_service` -/
  | addService (name : String) (needSnapshot : Bool)
  /-- `add_connection` puts the connection in, after its services were told. -/
  | insertConnection (id : Int)
  /-- A critical section of a service.  `on_subscribe` and `on_unsubscribe` are called by methods
  of the server only. -/
  | service (name : String) (event : Event Message)
  /-- `remove_connection` is called.  The services come in the order of the hash map. -/
  | removeConnection (id : Int) (order : List String)
  /-- `remove_connection` goes on. -/
  | proceed

/-- Whether a critical section is that of a call by the server. -/
def Event.isCall : Event Message → Bool
  | .onSubscribe _ | .onUnsubscribe _ => true
  | _ => false

namespace Server

variable (server : Server Message)

/-- A server without services. -/
def new : Server Message :=
  { services := ∅, connections := ∅, removing := none }

/-- A critical section of a service. -/
def perform (name : String) (event : Event Message) : Server Message :=
  { server with services := server.services.modify name (·.step event) }

/-- The services of the server in some order. -/
def Lists (order : List String) : Prop :=
  (order : Multiset String) = server.services.keys.val

instance (order : List String) : Decidable (server.Lists order) :=
  inferInstanceAs (Decidable (_ = _))

/-- `remove_connection` tells the next service, or returns. -/
def proceed : Server Message :=
  match server.removing with
  | none => server
  | some (id, name :: rest) =>
      { server.perform name (.onUnsubscribe id) with removing := some (id, rest) }
  | some (id, []) =>
      { server with connections := server.connections.erase id, removing := none }

/-- One step. -/
def step : ServerEvent Message → Server Message
  | .addService name needSnapshot =>
      if server.removing.isSome then server
      else { server with services := server.services.insert name (.new needSnapshot) }
  | .insertConnection id =>
      if server.removing.isSome then server
      else { server with connections := insert id server.connections }
  | .service name event =>
      if server.removing.isSome && event.isCall then server else server.perform name event
  | .removeConnection id order =>
      if server.removing = none ∧ server.Lists order then
        { server with removing := some (id, order) }
      else server
  | .proceed => server.proceed

/-- `remove_connection` runs from its call until just before its return. -/
structure Removes (id : Int) (order : List String) (during : List (ServerEvent Message)) :
    Prop where
  free : server.removing = none
  lists : server.Lists order
  running : ∀ early, early <+: during →
    (run step (server.step (.removeConnection id order)) early).removing.isSome
  returns : (run step (server.step (.removeConnection id order))
    (during ++ [.proceed])).removing = none

/-- The services of a server keep their sets apart. -/
def AllApart : Prop :=
  ∀ name service, server.services.lookup name = some service → Apart service

/-- A connection subscribes to none of some services. -/
def Without (id : Int) (names : Set String) : Prop :=
  ∀ name service, name ∈ names → server.services.lookup name = some service →
    service.isSubed id = false

/-- The services that were told that a connection is removed are without it. -/
def Told : Prop :=
  ∀ id rest, server.removing = some (id, rest) → server.Without id {name | name ∉ rest}

variable {server}

theorem lookup_perform
    (server : Server Message)
    (name other : String)
    (event : Event Message) :
    (server.perform name event).services.lookup other =
      if other = name then (server.services.lookup other).map (·.step event)
      else server.services.lookup other :=
  Table.lookup_modify name other _ server.services

theorem AllApart.perform
    (apart : server.AllApart)
    (name : String)
    (event : Event Message) :
    (server.perform name event).AllApart := by
  intro other service found
  rw [lookup_perform] at found
  split at found
  · obtain ⟨before, before_eq, rfl⟩ := Option.map_eq_some_iff.mp found
    exact (apart other before before_eq).step event
  · exact apart other service found

theorem Without.perform
    {id : Int}
    {names : Set String}
    (without : server.Without id names)
    (name : String)
    {event : Event Message}
    (other : name ∈ names → event ≠ .onSubscribe id) :
    (server.perform name event).Without id names := by
  intro each service member found
  rw [lookup_perform] at found
  split at found
  case isTrue same =>
    obtain ⟨before, before_eq, rfl⟩ := Option.map_eq_some_iff.mp found
    exact isSubed_step (without each before member before_eq) (other (same ▸ member))
  case isFalse => exact without each service member found

theorem AllApart.proceed
    (apart : server.AllApart) :
    server.proceed.AllApart := by
  unfold Server.proceed
  split
  · exact apart
  · exact apart.perform _ _
  · exact apart

/-- Every step keeps the sets of all services apart. -/
theorem AllApart.step
    (apart : server.AllApart)
    (event : ServerEvent Message) :
    (server.step event).AllApart := by
  cases event with
  | addService name needSnapshot =>
      simp only [Server.step]
      split
      · exact apart
      · intro other service found
        rw [Table.lookup_insert_eq] at found
        split at found
        · obtain rfl := Option.some_inj.mp found
          exact .new needSnapshot
        · exact apart other service found
  | insertConnection id =>
      simp only [Server.step]
      split <;> exact apart
  | service name event =>
      simp only [Server.step]
      split
      · exact apart
      · exact apart.perform name event
  | removeConnection id order =>
      simp only [Server.step]
      split <;> exact apart
  | proceed => exact apart.proceed

theorem isSubed_new
    (needSnapshot : Bool)
    (id : Int) :
    (ServiceInner.new needSnapshot : ServiceInner Message).isSubed id = false := by
  simp [ServiceInner.isSubed, ServiceInner.new]

/-- A connection stays away from services to which it does not subscribe again. -/
theorem Without.step
    {id : Int}
    {names : Set String}
    (without : server.Without id names)
    {event : ServerEvent Message}
    (other : ∀ name ∈ names, event ≠ .service name (.onSubscribe id)) :
    (server.step event).Without id names := by
  cases event with
  | addService name needSnapshot =>
      simp only [Server.step]
      split
      · exact without
      · intro each service member found
        rw [Table.lookup_insert_eq] at found
        split at found
        · obtain rfl := Option.some_inj.mp found
          exact isSubed_new needSnapshot id
        · exact without each service member found
  | insertConnection id =>
      simp only [Server.step]
      split <;> exact without
  | service name event =>
      simp only [Server.step]
      split
      · exact without
      · exact without.perform name fun member same => other name member (same ▸ rfl)
  | removeConnection id order =>
      simp only [Server.step]
      split <;> exact without
  | proceed =>
      simp only [Server.step, Server.proceed]
      split
      · exact without
      · exact without.perform _ fun _ => by simp
      · exact without

/-- The service that is told is without the connection, like those before it. -/
theorem Told.proceed
    (apart : server.AllApart)
    (told : server.Told) :
    server.proceed.Told := by
  unfold Server.proceed
  split
  case h_1 => exact told
  case h_2 id name rest removing =>
    intro id' rest' same
    obtain ⟨rfl, rfl⟩ := Prod.mk.inj (Option.some_inj.mp same)
    intro each service untold found
    rw [lookup_perform] at found
    split at found
    case isTrue =>
      obtain ⟨before, before_eq, rfl⟩ := Option.map_eq_some_iff.mp found
      exact (apart each before before_eq).isSubed_onUnsubscribe id
    case isFalse different =>
      exact told id (name :: rest) removing each service
        (List.not_mem_cons_of_ne_of_not_mem different untold) found
  case h_3 => exact fun _ _ none => by cases none

/-- The services that were told stay without the connection while the call goes on. -/
theorem Told.step
    (apart : server.AllApart)
    (told : server.Told)
    (event : ServerEvent Message) :
    (server.step event).Told := by
  cases event with
  | addService name needSnapshot =>
      simp only [Server.step]
      split
      case isTrue => exact told
      case isFalse free =>
        intro id rest removing
        exact absurd (Option.isSome_of_mem removing) free
  | insertConnection id =>
      simp only [Server.step]
      split <;> exact told
  | service name event =>
      simp only [Server.step]
      split
      case isTrue => exact told
      case isFalse allowed =>
        intro id rest removing
        refine (told id rest removing).perform name fun _ => ?_
        rintro rfl
        exact allowed (by simp [show server.removing = _ from removing, Event.isCall])
  | removeConnection id order =>
      simp only [Server.step]
      split
      case isFalse => exact told
      case isTrue enters =>
        intro id' rest' same
        obtain ⟨rfl, rfl⟩ := Prod.mk.inj (Option.some_inj.mp same)
        intro name service unlisted found
        have listed : name ∈ (order : Multiset String) := by
          rw [show (order : Multiset String) = _ from enters.2]
          exact Table.mem_keys_iff.mpr (Option.isSome_of_mem found)
        exact absurd (Multiset.mem_coe.mp listed) unlisted
  | proceed => exact told.proceed apart

/-- A call that runs goes on for its connection until it returns. -/
theorem removing_step
    {id : Int}
    {rest : List String}
    (removing : server.removing = some (id, rest))
    {event : ServerEvent Message}
    (running : (server.step event).removing.isSome) :
    ∃ rest', (server.step event).removing = some (id, rest') := by
  cases event with
  | addService name needSnapshot =>
      exact ⟨rest, by simp [Server.step, removing]⟩
  | insertConnection id =>
      exact ⟨rest, by simp [Server.step, removing]⟩
  | service name event =>
      refine ⟨rest, ?_⟩
      simp only [Server.step]
      split <;> exact removing
  | removeConnection id order =>
      exact ⟨rest, by simp [Server.step, removing]⟩
  | proceed =>
      cases rest with
      | nil => simp [Server.step, Server.proceed, removing] at running
      | cons name rest => exact ⟨rest, by simp [Server.step, Server.proceed, removing]⟩

theorem removing_run
    {id : Int}
    {rest : List String}
    (removing : server.removing = some (id, rest))
    {during : List (ServerEvent Message)}
    (running : ∀ early, early <+: during → (run Server.step server early).removing.isSome) :
    ∃ rest', (run Server.step server during).removing = some (id, rest') := by
  induction during generalizing server rest with
  | nil => exact ⟨rest, removing⟩
  | cons event during inductionHypothesis =>
      have next : (server.step event).removing.isSome := running [event] ⟨during, rfl⟩
      obtain ⟨rest', removing'⟩ := removing_step removing next
      refine inductionHypothesis removing' ?_
      rintro early ⟨late, rfl⟩
      exact running (event :: early) ⟨late, rfl⟩

/-- When `remove_connection` returns, no service has the connection. -/
theorem Removes.without
    {id : Int}
    {order : List String}
    {during : List (ServerEvent Message)}
    (removes : server.Removes id order during)
    (apart : server.AllApart) :
    (run Server.step server (.removeConnection id order :: during ++ [.proceed])).Without id
      Set.univ := by
  have entered : (server.step (.removeConnection id order)).removing = some (id, order) := by
    simp [Server.step, removes.free, removes.lists]
  have told : (server.step (.removeConnection id order)).Told := by
    refine Told.step apart (fun _ _ removing => ?_) _
    rw [removes.free] at removing
    cases removing
  obtain ⟨invariantApart, invariantTold⟩ :=
    run_invariant_always (fun server : Server Message => server.AllApart ∧ server.Told)
      (fun _ event both => ⟨both.1.step event, both.2.step both.1 event⟩) during
      ⟨apart.step (.removeConnection id order), told⟩
  obtain ⟨rest, removing⟩ := removing_run entered removes.running
  have returns := removes.returns
  rw [run_concat] at returns
  rw [List.cons_append, run_cons, run_concat]
  generalize run Server.step (server.step (.removeConnection id order)) during = last at *
  cases rest with
  | cons name rest => simp [Server.step, Server.proceed, removing] at returns
  | nil =>
      intro name service _ found
      refine invariantTold id [] removing name service (by simp) ?_
      simpa [Server.step, Server.proceed, removing] using found

/-- A connection stays away from a service of a server until it subscribes to it again. -/
theorem Without.run
    {id : Int}
    {name : String}
    (without : server.Without id {name})
    {events : List (ServerEvent Message)}
    (none : .service name (.onSubscribe id) ∉ events) :
    (run Server.step server events).Without id {name} := by
  induction events generalizing server with
  | nil => exact without
  | cons event events inductionHypothesis =>
      rw [List.mem_cons, not_or] at none
      refine inductionHypothesis (without.step ?_) none.2
      rintro _ rfl same
      exact none.1 same.symm

end Server

/--
In every run of a service no connection is in both sets, and who unsubscribes is in neither until it
subscribes again.  The same holds of every service of a server from which a connection is removed.
-/
theorem subscribers_apart :
    (∀ needSnapshot (events : List (Event Message)),
      Disjoint (run ServiceInner.step (.new needSnapshot) events).subscribed
        (run ServiceInner.step (.new needSnapshot) events).waiting) ∧
    (∀ needSnapshot id (before after : List (Event Message)),
      .onSubscribe id ∉ after →
        (run ServiceInner.step (.new needSnapshot)
          (before ++ .onUnsubscribe id :: after)).isSubed id = false) ∧
    ∀ id order (before during after : List (ServerEvent Message)),
      (run Server.step .new before).Removes id order during →
        ∀ name service, .service name (.onSubscribe id) ∉ after →
          (run Server.step .new (before ++ (.removeConnection id order :: during ++ [.proceed]) ++
            after)).services.lookup name = some service →
          service.isSubed id = false := by
  have apart (needSnapshot : Bool) (events : List (Event Message)) :
      Apart (run ServiceInner.step (.new needSnapshot) events) :=
    run_invariant_always Apart (fun _ event apart => apart.step event) events (.new needSnapshot)
  refine ⟨fun needSnapshot events => (apart needSnapshot events).disjoint, ?_, ?_⟩
  · intro needSnapshot id before after none
    rw [run_append, run_cons]
    exact isSubed_run ((apart needSnapshot before).isSubed_onUnsubscribe id) none
  · intro id order before during after removes name service none found
    have allApart : (run Server.step .new before : Server Message).AllApart :=
      run_invariant_always Server.AllApart (fun _ event apart => apart.step event) before
        fun _ _ absent => by cases absent
    have without : (run Server.step (run Server.step .new before)
        (.removeConnection id order :: during ++ [.proceed])).Without id {name} :=
      fun each service _ found => removes.without allApart each service trivial found
    rw [run_append, run_append] at found
    exact without.run none name service rfl found

/-- A connection subscribes to a service, which makes a snapshot for it. -/
def oneWaits : List (ServerEvent String) :=
  [.addService "mouse_cursor" true, .service "mouse_cursor" (.onSubscribe 1),
    .insertConnection 1, .service "mouse_cursor" (.snapshot 0)]

/-- The guard of the snapshot is dropped while the connection is removed, and after. -/
theorem subscribers_apart_dropped :
    (run ServiceInner.step (.new true : ServiceInner String)
      [.onSubscribe 1, .snapshot 0, .onUnsubscribe 1, .drop 0]).isSubed 1 = false ∧
    ∀ service, (run Server.step .new (oneWaits ++
        (.removeConnection 1 ["mouse_cursor"] ::
          [.service "mouse_cursor" (.drop 0), .proceed] ++ [.proceed]) ++
        [.service "mouse_cursor" (.send "pointer" .all)])).services.lookup "mouse_cursor" =
          some service →
      service.isSubed 1 = false := by
  constructor
  · exact subscribers_apart.2.1 true 1 [.onSubscribe 1, .snapshot 0] [.drop 0] (by simp)
  · intro service found
    refine subscribers_apart.2.2 1 ["mouse_cursor"] oneWaits _ _ ?_ "mouse_cursor" service
      (by simp) found
    refine ⟨rfl, by decide, ?_, rfl⟩
    intro early isPrefix
    have each : early ∈ List.inits
        [.service "mouse_cursor" (.drop 0), (.proceed : ServerEvent String)] :=
      (List.mem_inits early _).mpr isPrefix
    clear isPrefix
    revert early
    decide

end Service
end OneDesk
