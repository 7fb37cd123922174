import OneDesk.Lib.Run
import OneDesk.Lib.Table

/-!
# Services with snapshots

A service sends its messages to the connections that subscribe to it.  A service
that needs snapshots keeps new subscribers apart until a snapshot call has sent
them what the others already know; the guard that the call hands to its callback
moves them over when it is dropped.  Threads interleave freely, one critical
section at a time, so the steps of this module are the critical sections.
-/

namespace OneDesk
namespace Service

open OneDesk.Lib

variable {Message : Type}

/-- A message as it was sent, told apart by the moment of the sending. -/
structure Sending (Message : Type) where
  time : Nat
  message : Message
  deriving DecidableEq

/-- A subscriber, with what it has been sent since it came. -/
structure Subscriber (Message : Type) where
  /-- When it was put in. -/
  since : Nat
  received : List (Sending Message)
  /-- What the snapshot call that moved it over had sent. -/
  snapshot : List (Sending Message)

/-- `Subscriber::send` -/
def Subscriber.send (sending : Sending Message) (sub : Subscriber Message) :
    Subscriber Message :=
  { sub with received := sub.received ++ [sending] }

/-- `ServiceInner`, with the snapshot calls that are running. -/
structure ServiceInner (Message : Type) where
  needSnapshot : Bool
  subscribes : Table Int (Subscriber Message)
  newSubscribes : Table Int (Subscriber Message)
  /-- The guards in use and what was sent through each. -/
  swaps : Table Nat (List (Sending Message))
  clock : Nat

/-- Which subscribers a message is for. -/
inductive Audience
  | all
  | only (id : Int)
  | others (id : Int)
  deriving DecidableEq

/-- Whether a subscriber belongs to an audience. -/
def Audience.includes : Audience → Int → Bool
  | .all, _ => true
  | .only id, other => other == id
  | .others id, other => other != id

/-- One critical section. -/
inductive Event (Message : Type)
  /-- `on_subscribe` -/
  | onSubscribe (id : Int)
  /-- `on_unsubscribe` -/
  | onUnsubscribe (id : Int)
  /-- `send`, `send_to`, `send_without` and the like. -/
  | send (message : Message) (audience : Audience)
  /-- `snapshot` looks for new subscribers and hands out a guard. -/
  | snapshot (swap : Nat)
  /-- `ServiceSwap::send` -/
  | sendNew (swap : Nat) (message : Message)
  /-- `ServiceSwap::drop`, whether or not the callback failed. -/
  | drop (swap : Nat)

namespace ServiceInner

variable (service : ServiceInner Message)

/-- `ServiceTmpl::new` -/
def new (needSnapshot : Bool) : ServiceInner Message :=
  { needSnapshot, subscribes := ∅, newSubscribes := ∅, swaps := ∅, clock := 0 }

/-- A subscriber that comes now. -/
def newcomer : Subscriber Message :=
  { since := service.clock, received := [], snapshot := [] }

/-- A message sent now. -/
def sending (message : Message) : Sending Message :=
  { time := service.clock, message }

/-- `on_subscribe` -/
def onSubscribe (id : Int) : ServiceInner Message :=
  if (service.subscribes.lookup id).isSome then service
  else if service.needSnapshot then
    { service with
      newSubscribes := service.newSubscribes.insert id service.newcomer }
  else
    { service with
      subscribes := service.subscribes.insert id service.newcomer }

/-- `on_unsubscribe` -/
def onUnsubscribe (id : Int) : ServiceInner Message :=
  if (service.subscribes.lookup id).isSome then
    { service with subscribes := service.subscribes.erase id }
  else { service with newSubscribes := service.newSubscribes.erase id }

/-- Send to the subscribers of an audience, which are not the new ones. -/
def send (message : Message) (audience : Audience) : ServiceInner Message :=
  { service with
    subscribes := service.subscribes.mapValues fun id sub =>
      if audience.includes id then sub.send (service.sending message) else sub }

/-- The head of `snapshot`: a guard is handed out if there are new subscribers. -/
def enterSnapshot (swap : Nat) : ServiceInner Message :=
  if service.newSubscribes.length > 0 ∧ swap ∉ service.swaps then
    { service with swaps := service.swaps.insert swap [] }
  else service

/-- `ServiceSwap::send`, by `send_new_subscribes`. -/
def sendNew (swap : Nat) (message : Message) : ServiceInner Message :=
  match service.swaps.lookup swap with
  | none => service
  | some sent =>
      { service with
        newSubscribes := service.newSubscribes.mapValues fun _ sub =>
          sub.send (service.sending message)
        swaps := service.swaps.insert swap (sent ++ [service.sending message]) }

/-- `ServiceSwap::drop`, by `swap_new_subscribes`. -/
def drop (swap : Nat) : ServiceInner Message :=
  match service.swaps.lookup swap with
  | none => service
  | some sent =>
      { service with
        subscribes := service.subscribes.extend
          (service.newSubscribes.mapValues fun _ sub =>
            { sub with snapshot := sent })
        newSubscribes := ∅
        swaps := service.swaps.erase swap }

/-- One critical section. -/
def perform : Event Message → ServiceInner Message
  | .onSubscribe id => service.onSubscribe id
  | .onUnsubscribe id => service.onUnsubscribe id
  | .send message audience => service.send message audience
  | .snapshot swap => service.enterSnapshot swap
  | .sendNew swap message => service.sendNew swap message
  | .drop swap => service.drop swap

/-- One critical section, and time passes. -/
def step (event : Event Message) : ServiceInner Message :=
  let after := service.perform event
  { after with clock := service.clock + 1 }

/-- The connections in `subscribes`. -/
def subscribed : Finset Int := service.subscribes.keys

/-- The connections in `new_subscribes`. -/
def waiting : Finset Int := service.newSubscribes.keys

/-- A guard is in use. -/
def HoldsGuard (swap : Nat) : Prop := (service.swaps.lookup swap).isSome

/-- Whether a connection subscribes, as `is_subed`. -/
def isSubed (id : Int) : Bool :=
  (service.subscribes.lookup id).isSome ||
    (service.newSubscribes.lookup id).isSome

end ServiceInner

/-! ## Who subscribes -/

section

variable (service : ServiceInner Message)

@[simp] theorem needSnapshot_step (event : Event Message) :
    (service.step event).needSnapshot = service.needSnapshot := by
  cases event with
  | onSubscribe id =>
      simp only [ServiceInner.step, ServiceInner.perform, ServiceInner.onSubscribe]
      split
      · rfl
      · split <;> rfl
  | onUnsubscribe id =>
      simp only [ServiceInner.step, ServiceInner.perform, ServiceInner.onUnsubscribe]
      split <;> rfl
  | send message audience => rfl
  | snapshot swap =>
      simp only [ServiceInner.step, ServiceInner.perform, ServiceInner.enterSnapshot]
      split <;> rfl
  | sendNew swap message =>
      simp only [ServiceInner.step, ServiceInner.perform, ServiceInner.sendNew]
      split <;> rfl
  | drop swap =>
      simp only [ServiceInner.step, ServiceInner.perform, ServiceInner.drop]
      split <;> rfl

/-- Where snapshots are needed, a subscriber that comes has to wait. -/
theorem subscribed_onSubscribe
    (needs : service.needSnapshot = true)
    (id : Int) :
    (service.step (.onSubscribe id)).subscribed = service.subscribed := by
  simp only [ServiceInner.subscribed, ServiceInner.step, ServiceInner.perform,
    ServiceInner.onSubscribe, needs, if_true]
  split <;> rfl

theorem subscribed_onUnsubscribe (id : Int) :
    (service.step (.onUnsubscribe id)).subscribed = service.subscribed.erase id := by
  simp only [ServiceInner.subscribed, ServiceInner.step, ServiceInner.perform,
    ServiceInner.onUnsubscribe]
  split
  case isTrue => exact Table.keys_erase id service.subscribes
  case isFalse absent =>
    refine (Finset.erase_eq_of_notMem fun member => ?_).symm
    exact absent (Table.mem_keys_iff.mp member)

@[simp] theorem subscribed_send
    (message : Message)
    (audience : Audience) :
    (service.step (.send message audience)).subscribed = service.subscribed :=
  Table.keys_mapValues _ service.subscribes

@[simp] theorem subscribed_snapshot (swap : Nat) :
    (service.step (.snapshot swap)).subscribed = service.subscribed := by
  simp only [ServiceInner.subscribed, ServiceInner.step, ServiceInner.perform,
    ServiceInner.enterSnapshot]
  split <;> rfl

@[simp] theorem subscribed_sendNew
    (swap : Nat)
    (message : Message) :
    (service.step (.sendNew swap message)).subscribed = service.subscribed := by
  simp only [ServiceInner.subscribed, ServiceInner.step, ServiceInner.perform,
    ServiceInner.sendNew]
  split <;> rfl

/-- A guard that is dropped moves over everyone who waits. -/
theorem subscribed_drop (swap : Nat) :
    (service.step (.drop swap)).subscribed =
      if (service.swaps.lookup swap).isSome then service.waiting ∪ service.subscribed
      else service.subscribed := by
  cases found : service.swaps.lookup swap with
  | none =>
      simp [ServiceInner.subscribed, ServiceInner.step, ServiceInner.perform, ServiceInner.drop,
        found]
  | some sent =>
      simp [ServiceInner.subscribed, ServiceInner.waiting, ServiceInner.step,
        ServiceInner.perform, ServiceInner.drop, found]

/-- Only a drop gives a guard back. -/
theorem ServiceInner.HoldsGuard.step
    {service : ServiceInner Message}
    {swap : Nat}
    (holds : service.HoldsGuard swap)
    {event : Event Message}
    (kept : event ≠ .drop swap) :
    (service.step event).HoldsGuard swap := by
  cases event with
  | onSubscribe id =>
      simp only [ServiceInner.HoldsGuard, ServiceInner.step, ServiceInner.perform,
        ServiceInner.onSubscribe]
      split
      · exact holds
      · split <;> exact holds
  | onUnsubscribe id =>
      simp only [ServiceInner.HoldsGuard, ServiceInner.step, ServiceInner.perform,
        ServiceInner.onUnsubscribe]
      split <;> exact holds
  | send message audience => exact holds
  | snapshot other =>
      simp only [ServiceInner.HoldsGuard, ServiceInner.step, ServiceInner.perform,
        ServiceInner.enterSnapshot]
      split
      case isTrue =>
        rw [Table.lookup_insert_eq]
        split
        case isTrue => rfl
        case isFalse => exact holds
      case isFalse => exact holds
  | sendNew other message =>
      simp only [ServiceInner.HoldsGuard, ServiceInner.step, ServiceInner.perform,
        ServiceInner.sendNew]
      split
      case h_1 => exact holds
      case h_2 =>
        rw [Table.lookup_insert_eq]
        split
        case isTrue => rfl
        case isFalse => exact holds
  | drop other =>
      have different : swap ≠ other := fun same => kept (same ▸ rfl)
      simp only [ServiceInner.HoldsGuard, ServiceInner.step, ServiceInner.perform,
        ServiceInner.drop]
      split
      case h_1 => exact holds
      case h_2 =>
        rw [Table.lookup_erase_eq, if_neg different]
        exact holds

/-- A snapshot call that finds new subscribers hands out a guard. -/
theorem holdsGuard_snapshot
    {service : ServiceInner Message}
    (found : service.newSubscribes.length > 0)
    (swap : Nat) :
    (service.step (.snapshot swap)).HoldsGuard swap := by
  simp only [ServiceInner.HoldsGuard, ServiceInner.step, ServiceInner.perform,
    ServiceInner.enterSnapshot]
  split
  case isTrue => rw [Table.lookup_insert_eq, if_pos rfl]; rfl
  case isFalse taken =>
    have inUse : swap ∈ service.swaps := by
      by_contra free
      exact taken ⟨found, free⟩
    exact Finmap.lookup_isSome.mpr inUse

end

/-! ## What the new subscribers have been sent -/

/--
The new subscribers have been sent what went through the guards in use since
they came, and nothing lies in the future.
-/
structure Sound (service : ServiceInner Message) : Prop where
  past : ∀ swap sent, service.swaps.lookup swap = some sent →
    ∀ sending ∈ sent, sending.time < service.clock
  came : ∀ id sub, service.newSubscribes.lookup id = some sub →
    sub.since ≤ service.clock
  received_iff : ∀ swap sent, service.swaps.lookup swap = some sent →
    ∀ id sub, service.newSubscribes.lookup id = some sub →
      ∀ sending ∈ sent, sending ∈ sub.received ↔ sub.since ≤ sending.time

/-- Every subscriber has been sent the snapshot it was moved over with. -/
def Complete (service : ServiceInner Message) : Prop :=
  ∀ id sub, service.subscribes.lookup id = some sub →
    ∀ sending ∈ sub.snapshot, sending ∈ sub.received

/-- A guard is dropped only with new subscribers who came before all it sent. -/
def Timely (service : ServiceInner Message) : Event Message → Prop
  | .drop swap => ∀ sent, service.swaps.lookup swap = some sent →
      ∀ id sub, service.newSubscribes.lookup id = some sub →
        ∀ sending ∈ sent, sub.since ≤ sending.time
  | _ => True

namespace Sound

variable {service : ServiceInner Message}

theorem new (needSnapshot : Bool) :
    Sound (ServiceInner.new needSnapshot : ServiceInner Message) where
  past _ _ none := by cases none
  came _ _ none := by cases none
  received_iff _ _ none := by cases none

/-- What leaves the guards alone and only takes new subscribers away. -/
theorem of_fewer
    (sound : Sound service)
    {after : ServiceInner Message}
    (clock_eq : after.clock = service.clock + 1)
    (swaps : ∀ swap sent, after.swaps.lookup swap = some sent →
      service.swaps.lookup swap = some sent ∨ sent = [])
    (fewer : ∀ id sub, after.newSubscribes.lookup id = some sub →
      service.newSubscribes.lookup id = some sub) :
    Sound after where
  past := by
    intro swap sent lookup_eq sending member
    cases swaps swap sent lookup_eq with
    | inl before =>
        have early := sound.past swap sent before sending member
        omega
    | inr empty => simp [empty] at member
  came := by
    intro id sub lookup_eq
    have early := sound.came id sub (fewer id sub lookup_eq)
    omega
  received_iff := by
    intro swap sent lookup_eq id sub sub_eq sending member
    cases swaps swap sent lookup_eq with
    | inl before =>
        exact sound.received_iff swap sent before id sub (fewer id sub sub_eq)
          sending member
    | inr empty => simp [empty] at member

/-- A new subscriber comes: nothing was sent through a guard since. -/
theorem insertNew
    (sound : Sound service)
    (id : Int) :
    Sound { service with
      newSubscribes := service.newSubscribes.insert id service.newcomer
      clock := service.clock + 1 } where
  past := by
    intro swap sent lookup_eq sending member
    have early := sound.past swap sent lookup_eq sending member
    exact Nat.lt_succ_of_lt early
  came := by
    intro other sub sub_eq
    rw [Table.lookup_insert_eq] at sub_eq
    split at sub_eq
    case isTrue =>
      obtain rfl := Option.some.inj sub_eq
      exact Nat.le_succ service.clock
    case isFalse => exact Nat.le_succ_of_le (sound.came other sub sub_eq)
  received_iff := by
    intro swap sent lookup_eq other sub sub_eq sending member
    rw [Table.lookup_insert_eq] at sub_eq
    split at sub_eq
    case isTrue =>
      obtain rfl := Option.some.inj sub_eq
      have early := sound.past swap sent lookup_eq sending member
      simp [ServiceInner.newcomer, early]
    case isFalse =>
      exact sound.received_iff swap sent lookup_eq other sub sub_eq sending
        member

/-- What goes through a guard reaches all new subscribers. -/
theorem sendNew
    (sound : Sound service)
    (swap : Nat)
    (message : Message) :
    Sound (service.step (.sendNew swap message)) := by
  cases found : service.swaps.lookup swap with
  | none =>
      apply sound.of_fewer rfl
      · intro other sent lookup_eq
        simp only [ServiceInner.step, ServiceInner.perform,
          ServiceInner.sendNew, found] at lookup_eq
        exact .inl lookup_eq
      · intro id sub sub_eq
        simpa only [ServiceInner.step, ServiceInner.perform,
          ServiceInner.sendNew, found] using sub_eq
  | some sent =>
      -- A message in a guard was there before, or is the one sent now.
      have swaps_after (other : Nat) (after : List (Sending Message))
          (lookup_eq : (service.step (.sendNew swap message)).swaps.lookup other
            = some after) (sending : Sending Message) (member : sending ∈ after) :
          (∃ before, service.swaps.lookup other = some before ∧
            sending ∈ before) ∨ sending = service.sending message := by
        simp only [ServiceInner.step, ServiceInner.perform,
          ServiceInner.sendNew, found, Table.lookup_insert_eq] at lookup_eq
        split at lookup_eq
        case isTrue same =>
          obtain rfl := Option.some.inj lookup_eq
          simp only [List.mem_append, List.mem_singleton] at member
          exact member.imp_left fun early => ⟨sent, same ▸ found, early⟩
        case isFalse => exact .inl ⟨after, lookup_eq, member⟩
      have news_after (id : Int) (sub : Subscriber Message)
          (sub_eq : (service.step
            (.sendNew swap message)).newSubscribes.lookup id = some sub) :
          ∃ before, service.newSubscribes.lookup id = some before ∧
            sub = before.send (service.sending message) := by
        simp only [ServiceInner.step, ServiceInner.perform,
          ServiceInner.sendNew, found, Table.lookup_mapValues] at sub_eq
        obtain ⟨before, before_eq, rfl⟩ := Option.map_eq_some_iff.mp sub_eq
        exact ⟨before, before_eq, rfl⟩
      have clock_eq : (service.step (.sendNew swap message)).clock =
          service.clock + 1 := by
        simp only [ServiceInner.step, ServiceInner.perform, ServiceInner.sendNew,
          found]
      exact {
        past := by
          intro other after lookup_eq sending member
          rw [clock_eq]
          cases swaps_after other after lookup_eq sending member with
          | inl early =>
              obtain ⟨before, before_eq, member⟩ := early
              exact Nat.lt_succ_of_lt
                (sound.past other before before_eq sending member)
          | inr now => exact now ▸ Nat.lt_succ_self service.clock
        came := by
          intro id sub sub_eq
          obtain ⟨before, before_eq, rfl⟩ := news_after id sub sub_eq
          rw [clock_eq]
          exact Nat.le_succ_of_le (sound.came id before before_eq)
        received_iff := by
          intro other after lookup_eq id sub sub_eq sending member
          obtain ⟨before, before_eq, rfl⟩ := news_after id sub sub_eq
          simp only [Subscriber.send, List.mem_append, List.mem_singleton]
          cases swaps_after other after lookup_eq sending member with
          | inl early =>
              obtain ⟨sentBefore, sent_eq, member⟩ := early
              have past := sound.past other sentBefore sent_eq sending member
              have notNow : sending ≠ service.sending message := by
                intro now
                rw [now] at past
                exact Nat.lt_irrefl _ past
              rw [sound.received_iff other sentBefore sent_eq id before
                before_eq sending member]
              simp [notNow]
          | inr now =>
              subst now
              simp [ServiceInner.sending, sound.came id before before_eq] }

theorem step
    (sound : Sound service)
    (event : Event Message) :
    Sound (service.step event) := by
  cases event with
  | onSubscribe id =>
      simp only [ServiceInner.step, ServiceInner.perform,
        ServiceInner.onSubscribe]
      split
      · exact sound.of_fewer rfl (fun _ _ same => .inl same) fun _ _ same => same
      · split
        · exact sound.insertNew id
        · exact sound.of_fewer rfl (fun _ _ same => .inl same)
            fun _ _ same => same
  | onUnsubscribe id =>
      simp only [ServiceInner.step, ServiceInner.perform,
        ServiceInner.onUnsubscribe]
      split
      · exact sound.of_fewer rfl (fun _ _ same => .inl same) fun _ _ same => same
      · refine sound.of_fewer rfl (fun _ _ same => .inl same) ?_
        intro other sub sub_eq
        simp only [Table.lookup_erase_eq] at sub_eq
        split at sub_eq
        case isTrue => cases sub_eq
        case isFalse => exact sub_eq
  | send message audience =>
      exact sound.of_fewer rfl (fun _ _ same => .inl same) fun _ _ same => same
  | snapshot swap =>
      simp only [ServiceInner.step, ServiceInner.perform,
        ServiceInner.enterSnapshot]
      split
      · refine sound.of_fewer rfl ?_ fun _ _ same => same
        intro other sent lookup_eq
        simp only [Table.lookup_insert_eq] at lookup_eq
        split at lookup_eq
        case isTrue => exact .inr (Option.some.inj lookup_eq).symm
        case isFalse => exact .inl lookup_eq
      · exact sound.of_fewer rfl (fun _ _ same => .inl same) fun _ _ same => same
  | sendNew swap message => exact sound.sendNew swap message
  | drop swap =>
      simp only [ServiceInner.step, ServiceInner.perform, ServiceInner.drop]
      split
      · exact sound.of_fewer rfl (fun _ _ same => .inl same) fun _ _ same => same
      · refine sound.of_fewer rfl ?_ fun _ _ none => by cases none
        intro other sent lookup_eq
        simp only [Table.lookup_erase_eq] at lookup_eq
        split at lookup_eq
        case isTrue => cases lookup_eq
        case isFalse => exact .inl lookup_eq

end Sound

/-! ## Promotions -/

variable {service : ServiceInner Message}

theorem Complete.new (needSnapshot : Bool) :
    Complete (ServiceInner.new needSnapshot : ServiceInner Message) :=
  fun _ _ none => by cases none

/-- Subscribers that were there before, with at least what they had. -/
theorem Complete.of_grown
    (complete : Complete service)
    {after : ServiceInner Message}
    (grown : ∀ id sub, after.subscribes.lookup id = some sub →
      sub.snapshot = [] ∨ ∃ before, service.subscribes.lookup id = some before ∧
        sub.snapshot = before.snapshot ∧ before.received ⊆ sub.received) :
    Complete after := by
  intro id sub sub_eq sending member
  cases grown id sub sub_eq with
  | inl none => simp [none] at member
  | inr known =>
      obtain ⟨before, before_eq, snapshot_eq, received⟩ := known
      rw [snapshot_eq] at member
      exact received (complete id before before_eq sending member)

/-- A subscriber that is not changed. -/
theorem grown_of_same
    {id : Int}
    {sub : Subscriber Message}
    (same : service.subscribes.lookup id = some sub) :
    sub.snapshot = [] ∨ ∃ before, service.subscribes.lookup id = some before ∧
      sub.snapshot = before.snapshot ∧ before.received ⊆ sub.received :=
  .inr ⟨sub, same, rfl, List.Subset.refl _⟩

/-- Subscribers after a guard was dropped: the new ones and the others. -/
theorem lookup_drop
    {swap : Nat}
    {sent : List (Sending Message)}
    (found : service.swaps.lookup swap = some sent)
    (id : Int) :
    (service.step (.drop swap)).subscribes.lookup id =
      ((service.newSubscribes.lookup id).map fun sub =>
        { sub with snapshot := sent }).or (service.subscribes.lookup id) := by
  simp only [ServiceInner.step, ServiceInner.perform, ServiceInner.drop, found,
    Table.lookup_extend, Table.lookup_mapValues]

/-- Dropping a guard keeps the subscribers complete if it is dropped in time. -/
theorem complete_drop_iff
    (sound : Sound service)
    (complete : Complete service)
    (swap : Nat) :
    Complete (service.step (.drop swap)) ↔ Timely service (.drop swap) := by
  cases found : service.swaps.lookup swap with
  | none =>
      have unchanged :
          (service.step (.drop swap)).subscribes = service.subscribes := by
        simp only [ServiceInner.step, ServiceInner.perform, ServiceInner.drop,
          found]
      constructor
      · intro _ sent sent_eq
        rw [found] at sent_eq
        cases sent_eq
      · intro _
        exact complete.of_grown fun id sub sub_eq =>
          grown_of_same (unchanged ▸ sub_eq)
  | some sent =>
      constructor
      · intro after otherSent sent_eq id sub sub_eq sending member
        obtain rfl := Option.some.inj (found.symm.trans sent_eq)
        have promoted := lookup_drop found id
        rw [sub_eq, Option.map_some, Option.some_or] at promoted
        exact (sound.received_iff swap sent found id sub sub_eq sending
          member).mp (after id _ promoted sending member)
      · intro timely id sub sub_eq sending member
        rw [lookup_drop found] at sub_eq
        cases new_eq : service.newSubscribes.lookup id with
        | none =>
            rw [new_eq, Option.map_none, Option.none_or] at sub_eq
            exact complete id sub sub_eq sending member
        | some new =>
            rw [new_eq, Option.map_some, Option.some_or] at sub_eq
            obtain rfl := Option.some.inj sub_eq
            exact (sound.received_iff swap sent found id new new_eq sending
              member).mpr (timely sent found id new new_eq sending member)

/-- One critical section keeps the subscribers complete if it is in time. -/
theorem complete_step_iff
    (sound : Sound service)
    (complete : Complete service)
    (event : Event Message) :
    Complete (service.step event) ↔ Timely service event := by
  cases event with
  | drop swap => exact complete_drop_iff sound complete swap
  | onSubscribe id =>
      refine iff_of_true (complete.of_grown fun other sub sub_eq => ?_) trivial
      simp only [ServiceInner.step, ServiceInner.perform,
        ServiceInner.onSubscribe] at sub_eq
      split at sub_eq
      · exact grown_of_same sub_eq
      · split at sub_eq
        · exact grown_of_same sub_eq
        · simp only [Table.lookup_insert_eq] at sub_eq
          split at sub_eq
          case isTrue =>
            obtain rfl := Option.some.inj sub_eq
            exact .inl rfl
          case isFalse => exact grown_of_same sub_eq
  | onUnsubscribe id =>
      refine iff_of_true (complete.of_grown fun other sub sub_eq => ?_) trivial
      simp only [ServiceInner.step, ServiceInner.perform,
        ServiceInner.onUnsubscribe] at sub_eq
      split at sub_eq
      · simp only [Table.lookup_erase_eq] at sub_eq
        split at sub_eq
        case isTrue => cases sub_eq
        case isFalse => exact grown_of_same sub_eq
      · exact grown_of_same sub_eq
  | send message audience =>
      refine iff_of_true (complete.of_grown fun other sub sub_eq => ?_) trivial
      simp only [ServiceInner.step, ServiceInner.perform, ServiceInner.send,
        Table.lookup_mapValues] at sub_eq
      obtain ⟨before, before_eq, rfl⟩ := Option.map_eq_some_iff.mp sub_eq
      refine .inr ⟨before, before_eq, ?_⟩
      split
      · exact ⟨rfl, List.subset_append_left _ _⟩
      · exact ⟨rfl, List.Subset.refl _⟩
  | snapshot swap =>
      refine iff_of_true (complete.of_grown fun other sub sub_eq => ?_) trivial
      simp only [ServiceInner.step, ServiceInner.perform,
        ServiceInner.enterSnapshot] at sub_eq
      split at sub_eq <;> exact grown_of_same sub_eq
  | sendNew swap message =>
      refine iff_of_true (complete.of_grown fun other sub sub_eq => ?_) trivial
      simp only [ServiceInner.step, ServiceInner.perform,
        ServiceInner.sendNew] at sub_eq
      split at sub_eq <;> exact grown_of_same sub_eq

/--
In every run of a service with snapshots, every subscriber has at every moment
been sent what the call that moved it over had sent, exactly if every guard is
dropped with new subscribers only who came before all it sent.
-/
theorem complete_iff_timely (events : List (Event Message)) :
    (∀ before, before <+: events →
        Complete (run ServiceInner.step (ServiceInner.new true) before)) ↔
      Along ServiceInner.step Timely
        (ServiceInner.new true : ServiceInner Message) events :=
  always_iff Sound (fun _ event sound => sound.step event)
    (fun _ event sound complete => complete_step_iff sound complete event)
    (.new true) (.new true)

/-- The second connection comes between the last message and the drop. -/
theorem latecomer_misses_snapshot :
    ¬ Complete (run ServiceInner.step (ServiceInner.new true)
      [.onSubscribe 1, .snapshot 0, .sendNew 0 "cursor", .onSubscribe 2,
        .drop 0]) := by
  intro complete
  have missed := complete 2 ⟨3, [], [⟨2, "cursor"⟩]⟩ rfl ⟨2, "cursor"⟩ (by simp)
  simp at missed

end Service
end OneDesk
