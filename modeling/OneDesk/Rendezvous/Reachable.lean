import OneDesk.Rendezvous.Registrations

/-!
# Which servers are known to be reachable

While the timers of the mediators tick once in a period, what the table tells of a server is
not old: the server has answered lately, or its failures have been noticed.  The configured
server is the fastest of such a table, although others go on between the search and the storing.
-/

namespace OneDesk
namespace Rendezvous

namespace Udp

/-- The server counts as reachable. -/
def hears (udp : Udp) : Prop := udp.fails < MAX_FAILS1 ∧ udp.lastRegisterResp.isSome

theorem hears_tick
    {now : ℕ}
    {udp : Udp}
    (hears : udp.hears)
    {usingPublicServer : Bool}
    (silent : (udp.tick now usingPublicServer).2 = none) :
    (udp.tick now usingPublicServer).1.hears := by
  obtain ⟨-, oldLatency, next, failed⟩ | ⟨-, -, next⟩ | ⟨-, -, next⟩ :=
    udp.tick_cases now usingPublicServer
  · rw [next]
    refine ⟨?_, hears.2⟩
    rw [silent, Udp.failure] at failed
    split_ifs at failed with most some_failed
    exact not_le.mp some_failed
  · rw [next]
    exact hears
  · rw [next]
    exact hears

theorem hears_updateLatency (now : ℕ) (udp : Udp) : (udp.updateLatency now).1.hears := by
  obtain ⟨oldLatency, emaLatency, heard⟩ := udp.updateLatency_eq now
  rw [heard]
  exact ⟨(by decide : 0 < 2), rfl⟩

end Udp

namespace Connection

/-- The server counts as reachable. -/
def hears : Connection → Prop
  | .udp state => state.hears
  | _ => True

/-- When the server has been heard of. -/
def heard : Connection → Option ℕ
  | .udp state => state.lastRegisterResp
  | .tcp state => some state.lastRecvMsg
  | .test _ => none

/-- For how long it may be heard of nothing before it is taken to be unreachable, apart from
the time between ticks. -/
def tolerance : Connection → ℕ
  | .tcp state => millis (state.patience + 1)
  | _ => millis 24000

end Connection

namespace Task

/-- The table may tell that a server is reachable: its mediator has ended or counts it as
reachable, or a test is under way. -/
def Backs (host : Text) (task : Task) : Prop :=
  if task.isTest then task.stage ≠ .ended
  else task.host = host ∧ (task.stage = .ended ∨ task.running ∧ task.connection.hears)

variable {now : ℕ} {online : Lib.Table Text ℤ} {task next : Task} {host : Text}

theorem after_running (latency : Option ℤ) :
    after latency ≠ .starting ∧ after latency ≠ .ended := by
  cases latency <;> simp [after]

theorem backs_mediator (mediates : task.isTest = false) :
    task.Backs host ↔
      task.host = host ∧ (task.stage = .ended ∨ task.running ∧ task.connection.hears) := by
  simp [Backs, mediates]

theorem tell_eq
    {latency : Option ℤ}
    {value : ℤ} :
    task.tell latency = .latency host value ↔ latency = some value ∧ task.host = host := by
  cases latency <;> simp [tell, and_comm]

theorem tell_ne_server (latency : Option ℤ) : task.tell latency ≠ .server host := by
  cases latency <;> simp [tell]

/-- A mediator tells of no other server than its own, and backs no other. -/
theorem host_of_backs
    (mediates : task.isTest = false)
    {told : Option ℤ}
    {silent : Prop}
    (backs : (∃ latency, task.tell told = .latency host latency ∧ 0 < latency) ∨
      task.Backs host ∧ silent) :
    task.host = host := by
  rcases backs with ⟨_, told_eq, -⟩ | ⟨backs, -⟩
  · exact (tell_eq.mp told_eq).2
  · exact ((backs_mediator mediates).mp backs).1

/-- What a task tells it backs, and what it backs it backs on, unless it tells something else of
it. -/
theorem Step.backs
    {told : Told}
    (step : Step now online task next told)
    (backs : (∃ latency, told = .latency host latency ∧ 0 < latency) ∨
      task.Backs host ∧ told ≠ .reset ∧ ∀ latency, told ≠ .latency host latency) :
    next.Backs host := by
  cases step with
  | opened tcp starting mediates =>
      rcases backs with ⟨_, told_eq, -⟩ | ⟨backs, -⟩
      · cases told_eq
      · obtain ⟨-, ended | ⟨going, -⟩⟩ := (backs_mediator mediates).mp backs
        · simp [starting] at ended
        · exact absurd starting going.1
  | udpTick udp usingPublicServer connection waiting =>
      have mediates : task.isTest = false := by simp [isTest, connection]
      rcases backs with ⟨latency, told_eq, positive⟩ | ⟨backs, -, silent⟩
      · obtain ⟨latency_eq, -⟩ := tell_eq.mp told_eq
        obtain ⟨-, -, -, failed⟩ | ⟨-, -, same⟩ | ⟨-, -, same⟩ :=
          udp.tick_cases now usingPublicServer
        · obtain ⟨count, values, -⟩ := Udp.failure_eq_some (failed.symm.trans latency_eq)
          omega
        · simp [same] at latency_eq
        · simp [same] at latency_eq
      · obtain ⟨rfl, ended | ⟨-, hears⟩⟩ := (backs_mediator mediates).mp backs
        · simp [waiting] at ended
        · have quiet : (udp.tick now usingPublicServer).2 = none := by
            cases latency_eq : (udp.tick now usingPublicServer).2 with
            | none => rfl
            | some value => exact absurd (tell_eq.mpr ⟨latency_eq, rfl⟩) (silent value)
          rw [connection] at hears
          exact (backs_mediator rfl).mpr
            ⟨rfl, .inr ⟨after_running _, Udp.hears_tick hears quiet⟩⟩
  | tcpTick tcp unconfirmed connection waiting =>
      have mediates : task.isTest = false := by simp [isTest, connection]
      rcases backs with ⟨_, told_eq, -⟩ | ⟨backs, -⟩
      · cases told_eq
      · obtain ⟨same, -⟩ := (backs_mediator mediates).mp backs
        exact (backs_mediator rfl).mpr ⟨same, .inr ⟨by simp [running, ticks], trivial⟩⟩
  | udpAnswer udp connection =>
      have same := host_of_backs (by simp [isTest, connection]) backs
      exact (backs_mediator rfl).mpr
        ⟨same, .inr ⟨after_running _, Udp.hears_updateLatency now udp⟩⟩
  | tcpMessage tcp incoming connection =>
      have same := host_of_backs (by simp [isTest, connection]) backs
      exact (backs_mediator rfl).mpr ⟨same, .inr ⟨after_running _, trivial⟩⟩
  | tested => simp [Backs, isTest]
  | testJoined =>
      rcases backs with ⟨_, told_eq, -⟩ | ⟨-, kept, -⟩
      · cases told_eq
      · exact absurd rfl kept
  | goOn stage told going goes =>
      have stage_running : stage ≠ .starting ∧ stage ≠ .ended := by
        rcases goes with ⟨rfl, -⟩ | ⟨_, -, -, -, rfl, -⟩ <;> simp
      have before : task.Backs host := by
        rcases backs with ⟨_, rfl, -⟩ | ⟨backs, -⟩
        · simp at goes
        · exact backs
      cases mediates : task.isTest with
      | true => exact (if_pos mediates).mpr stage_running.2
      | false =>
          obtain ⟨same, ended | ⟨-, hears⟩⟩ := (backs_mediator mediates).mp before
          · exact absurd ended going.2
          · have after : ({ task with stage } : Task).isTest = false := mediates
            exact (backs_mediator after).mpr ⟨same, .inr ⟨stage_running, hears⟩⟩
  | ended mediates =>
      rcases backs with ⟨_, told_eq, -⟩ | ⟨backs, -⟩
      · cases told_eq
      · obtain ⟨same, -⟩ := (backs_mediator mediates).mp backs
        have after : ({ task with stage := .ended } : Task).isTest = false := mediates
        exact (backs_mediator after).mpr ⟨same, .inl rfl⟩

/-- What is about to be stored has been found. -/
theorem Step.storing
    {told : Told}
    (step : Step now online task next told)
    (stores : next.stage = .storing host) :
    ∃ order : Order, ↑order = online.entries ∧ fastest order = host ∧ host ≠ [] := by
  have after_ne (latency : Option ℤ) : after latency ≠ .storing host := by
    cases latency <;> simp [after]
  cases step with
  | opened | tested | testJoined | ended | tcpTick => cases stores
  | udpTick | udpAnswer | tcpMessage => exact absurd stores (after_ne _)
  | goOn stage told going goes =>
      rcases goes with ⟨rfl, -⟩ | ⟨order, -, entries, found, rfl, -⟩
      · cases stores
      · obtain rfl : fastest order = host := Stage.storing.inj stores
        exact ⟨order, entries, rfl, found⟩

/-- What is stored was about to be. -/
theorem Step.server (step : Step now online task next (.server host)) :
    task.stage = .storing host := by
  generalize told_eq : Told.server host = told at step
  cases step with
  | opened | tcpTick | tested | testJoined | ended => cases told_eq
  | udpTick | udpAnswer | tcpMessage => exact absurd told_eq.symm (tell_ne_server _)
  | goOn stage told going goes =>
      rcases goes with ⟨-, rfl | ⟨other, storing, rfl⟩⟩ | ⟨_, -, -, -, -, rfl⟩
      · cases told_eq
      · rwa [Told.server.inj told_eq]
      · cases told_eq

/-- A test is under way, or it is the mediator of a server and has ended or heard of the server
not long ago. -/
def HeardOf (period now : ℕ) (host : Text) (task : Task) : Prop :=
  (task.isTest = true ∧ task.stage ≠ .ended) ∨
    task.host = host ∧ (task.stage = .ended ∨ ∃ heard, task.connection.heard = some heard ∧
      now < heard + task.connection.tolerance + 3 * period)

/-- A server that is backed has been heard of not long ago. -/
theorem Prompt.heardOf
    {period : ℕ}
    (prompt : task.Prompt period now)
    (backs : task.Backs host) :
    task.HeardOf period now host := by
  cases mediates : task.isTest with
  | true => exact .inl ⟨mediates, (if_pos mediates).mp backs⟩
  | false =>
      obtain ⟨same, ended | ⟨going, hears⟩⟩ := (backs_mediator mediates).mp backs
      · exact .inr ⟨same, .inl ended⟩
      · have ticks := prompt.ticks going mediates
        refine .inr ⟨same, .inr ?_⟩
        cases connection : task.connection with
        | test => simp [isTest, connection] at mediates
        | udp udp =>
            rw [connection] at hears
            obtain ⟨resp, resp_eq⟩ := Option.isSome_iff_exists.mp hears.2
            exact ⟨resp, resp_eq, (prompt.udp udp connection).heard_lt ticks hears.1 resp_eq⟩
        | tcp tcp =>
            refine ⟨tcp.lastRecvMsg, rfl, ?_⟩
            have patient := lt_of_elapsedMillis_lt
              (Nat.lt_succ_of_le (prompt.tcp tcp connection).patient)
            simp only [Connection.tolerance, Nat.succ_eq_add_one] at patient ⊢
            omega

end Task

namespace Latencies

variable {state : Latencies} {period : ℕ} {server host : Text} {events : List LatencyEvent}

/-- Every server the table tells to be reachable is backed. -/
def Backed (state : Latencies) : Prop :=
  ∀ host latency, state.online.lookup host = some latency → 0 < latency →
    ∃ task ∈ state.tasks, task.Backs host

/-- What a task has told of a server, or the table before. -/
theorem lookup_hear
    {told : Told}
    {latency : ℤ}
    (found : (state.hear told).online.lookup host = some latency) :
    told = .latency host latency ∨
      state.online.lookup host = some latency ∧ told ≠ .reset ∧
        ∀ other, told ≠ .latency host other := by
  cases told with
  | nothing | server => exact .inr ⟨found, by simp, by simp⟩
  | reset => simp [hear] at found
  | latency other value =>
      by_cases same : host = other
      · subst same
        simp only [hear, Finmap.lookup_insert, Option.some.injEq] at found
        exact .inl (by rw [found])
      · simp only [hear, Finmap.lookup_insert_of_ne _ same] at found
        exact .inr ⟨found, by simp, by simp [Ne.symm same]⟩

theorem Backed.step
    (backed : state.Backed)
    (event : LatencyEvent) :
    (state.step event).Backed := by
  intro host latency found positive
  have stays {tasks : List Task} (found : state.online.lookup host = some latency)
      (kept : ∀ task ∈ state.tasks, task ∈ tasks) : ∃ task ∈ tasks, task.Backs host := by
    obtain ⟨task, member, backs⟩ := backed host latency found positive
    exact ⟨task, kept task member, backs⟩
  cases event with
  | pass | restart => exact stays found fun _ member => member
  | startAll | test =>
      rw [Latencies.step] at found ⊢
      split_ifs at found ⊢
      · exact stays found fun _ member => by simp [member]
      · exact stays found fun _ member => by simp [member]
  | joined =>
      rw [Latencies.step] at found ⊢
      split_ifs at found ⊢
      · simp at found
      · exact stays found fun _ member => member
  | act index action =>
      rcases state.step_act_cases index action with same | ⟨task, next, told, task_eq, takes, same⟩
      · rw [same] at found ⊢
        exact stays found fun _ member => member
      · rw [same] at found ⊢
        obtain ⟨inside, -⟩ := List.getElem?_eq_some_iff.mp task_eq
        have next_mem : next ∈ state.tasks.set index next := List.mem_set inside next
        rcases lookup_hear found with tells | ⟨before, silent⟩
        · exact ⟨next, next_mem, takes.backs (.inl ⟨latency, tells, positive⟩)⟩
        · obtain ⟨backer, member, backs⟩ := backed host latency before positive
          obtain ⟨place, place_eq⟩ := List.mem_iff_getElem?.mp member
          by_cases same : place = index
          · subst same
            obtain rfl : task = backer := Option.some_inj.mp (task_eq.symm.trans place_eq)
            exact ⟨next, next_mem, takes.backs (.inr ⟨backs, silent⟩)⟩
          · refine ⟨backer, ?_, backs⟩
            apply List.mem_of_getElem?
            exact (List.getElem?_set_ne (Ne.symm same)).trans place_eq

theorem backed_run (server : Text) (events : List LatencyEvent) :
    (Lib.run step (new server) events).Backed :=
  Lib.run_invariant_always Backed (fun _ event backed => backed.step event) events
    (by simp [Backed, new])

/-- Something has been heard of a server not long ago, unless its mediator has ended or a test
is under way. -/
def HeardOf (period : ℕ) (state : Latencies) (host : Text) : Prop :=
  ∃ task ∈ state.tasks, task.HeardOf period state.now host

/-- A server that the table tells to be reachable has been heard of not long ago. -/
theorem heardOf_run
    (punctual : Lib.Along step (Punctual period) (new server) events)
    {latency : ℤ}
    (found : (Lib.run step (new server) events).online.lookup host = some latency)
    (positive : 0 < latency) :
    (Lib.run step (new server) events).HeardOf period host := by
  obtain ⟨task, member, backs⟩ := backed_run server events host latency found positive
  exact ⟨task, member, (prompt_run punctual task member).heardOf backs⟩

/-- Where the timers of the mediators tick once in a period and the user is shown that a server
is reachable, one has been heard of not long ago, unless a mediator has ended or a test is under
way. -/
theorem shown_heardOf
    (punctual : Lib.Along step (Punctual period) (new server) events)
    (shown : 0 < getOnlineState (Lib.run step (new server) events).online) :
    ∃ host, (Lib.run step (new server) events).HeardOf period host := by
  obtain ⟨host, latency, found, positive⟩ := getOnlineState_pos shown
  exact ⟨host, heardOf_run punctual found positive⟩

/-- A server answers the first registration. -/
def answering : List LatencyEvent :=
  [.startAll [['a'], ['b']], .act 0 (.opened false), .act 1 (.opened true),
    .act 0 (.tick true true), .pass 5000000, .act 0 (.message .registerPeerResponse),
    .act 0 (.scan [⟨['a'], 5000⟩]), .act 0 .store]

theorem shown_heardOf_answering :
    ∃ host, (Lib.run step (new []) answering).HeardOf 1000000000 host :=
  shown_heardOf (by decide +kernel) (by decide +kernel)

/-! ## The configured server -/

/-- A server is the fastest of those that the table tells to be reachable. -/
def Fastest (state : Latencies) (host : Text) : Prop :=
  ∃ latency, state.online.lookup host = some latency ∧ 0 < latency ∧
    ∀ other slower, state.online.lookup other = some slower → 0 < slower → latency ≤ slower

/-- A search finds the fastest server. -/
theorem fastest_found
    {order : Order}
    (entries : ↑order = state.online.entries)
    (nonempty : fastest order ≠ []) :
    state.Fastest (fastest order) := by
  obtain ⟨latency, member, positive, least⟩ := fastest_spec nonempty
  refine ⟨latency, ?_, positive, ?_⟩
  · apply Finmap.lookup_eq_some_iff.mpr
    rw [← entries]
    exact member
  · intro other slower other_eq
    have other_mem := Finmap.lookup_eq_some_iff.mp other_eq
    rw [← entries] at other_mem
    exact least ⟨other, slower⟩ other_mem

/-- The configured server and those that are about to be stored have a property. -/
structure Stores (property : Text → Prop) (state : Latencies) : Prop where
  server : property state.server
  storing : ∀ task ∈ state.tasks, ∀ host, task.stage = .storing host → property host

theorem Stores.step
    {property : Text → Prop}
    (stores : state.Stores property)
    (event : LatencyEvent)
    (finds : ∀ host, state.Fastest host → property host) :
    (state.step event).Stores property := by
  refine ⟨?_, ?_⟩
  · cases event with
    | pass | restart => exact stores.server
    | startAll | joined | test =>
        rw [Latencies.step]
        split_ifs <;> exact stores.server
    | act index action =>
        rcases state.step_act_cases index action with
          same | ⟨task, next, told, task_eq, takes, same⟩
        · rw [same]
          exact stores.server
        · rw [same]
          cases told with
          | nothing | latency | reset => exact stores.server
          | server host =>
              have member := List.mem_of_getElem? task_eq
              exact stores.storing task member host takes.server
  · apply forall_tasks_step (fun task => ∀ host, task.stage = .storing host → property host) event
    · intro _ host stage
      cases stage
    · intro _ host stage
      cases stage
    · intro task _ next told _ takes host stage
      obtain ⟨order, entries, rfl, nonempty⟩ := takes.storing stage
      exact finds _ (fastest_found entries nonempty)
    · exact stores.storing

/-- A server that is configured in a run in which the timers of the mediators tick once in a
period was the fastest of the table in the run, and one of which something had been heard not
long before, unless its mediator had ended or a test was under way. -/
theorem configured_fastest
    (punctual : Lib.Along step (Punctual period) (new server) events) :
    (Lib.run step (new server) events).server = server ∨
      ∃ before, before <+: events ∧
        (Lib.run step (new server) before).Fastest (Lib.run step (new server) events).server ∧
        (Lib.run step (new server) before).HeardOf period
          (Lib.run step (new server) events).server := by
  have stores : (Lib.run step (new server) events).Stores fun host =>
      host = server ∨
        ∃ before, before <+: events ∧ (Lib.run step (new server) before).Fastest host := by
    apply Lib.run_invariant (Stores _) (fun _ event stores finds => stores.step event finds)
    · exact ⟨.inl rfl, fun _ member => absurd member List.not_mem_nil⟩
    · rw [Lib.along_iff_forall_split]
      rintro before event after rfl host finds
      exact .inr ⟨before, List.prefix_append _ _, finds⟩
  apply stores.server.imp_right
  rintro ⟨before, isPrefix, isFastest⟩
  obtain ⟨latency, found, positive, -⟩ := id isFastest
  exact ⟨before, isPrefix, isFastest, heardOf_run (punctual.restrict isPrefix) found positive⟩

theorem configured_fastest_answering :
    (Lib.run step (new []) answering).server = [] ∨
      ∃ before, before <+: answering ∧
        (Lib.run step (new []) before).Fastest (Lib.run step (new []) answering).server ∧
        (Lib.run step (new []) before).HeardOf 1000000000
          (Lib.run step (new []) answering).server :=
  configured_fastest (by decide +kernel)

end Latencies

end Rendezvous
end OneDesk
