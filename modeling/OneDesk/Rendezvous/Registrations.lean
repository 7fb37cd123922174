import OneDesk.Rendezvous.Latency

/-!
# When mediators register

A mediator repeats a registration that is not answered in time, later and later, and after an
answer waits before the next.  So registrations are spaced, and a server is only told to be
unreachable after several of them have been given their time.  While the timers tick once in a
period, a server that no longer answers is told to be unreachable before long.
-/

namespace OneDesk
namespace Rendezvous

theorem lt_of_elapsedMillis_lt
    {now instant count : ℕ}
    (short : elapsedMillis now instant < count) :
    now < instant + millis count := by
  unfold elapsedMillis at short
  unfold millis
  omega

theorem le_of_le_elapsedMillis
    {now instant count : ℕ}
    (positive : 0 < count)
    (long : count ≤ elapsedMillis now instant) :
    instant + millis count ≤ now := by
  unfold elapsedMillis at long
  unfold millis
  omega

/-- One registration is at least three seconds after another. -/
def Spaced (registered : List ℕ) : Prop :=
  registered.IsChain fun later earlier => earlier + millis MIN_REG_TIMEOUT ≤ later

theorem Spaced.cons
    {now : ℕ}
    {registered : List ℕ}
    (spaced : Spaced registered)
    (waited : ∀ latest ∈ registered.head?, latest + millis MIN_REG_TIMEOUT ≤ now) :
    Spaced (now :: registered) :=
  List.isChain_cons.mpr ⟨waited, spaced⟩

/-- The registrations before a moment have had the more time to be answered the earlier they
are. -/
theorem Spaced.waited
    {now : ℕ}
    {registered : List ℕ}
    (spaced : Spaced registered)
    (waited : ∀ latest ∈ registered.head?, latest + millis MIN_REG_TIMEOUT ≤ now)
    {place : ℕ}
    {sent : ℕ}
    (found : registered[place]? = some sent) :
    sent + (place + 1) * millis MIN_REG_TIMEOUT ≤ now := by
  induction registered generalizing now place with
  | nil => simp at found
  | cons latest earlier inductionHypothesis =>
      have latest_waited := waited latest rfl
      cases place with
      | zero =>
          rw [List.getElem?_cons_zero, Option.some_inj] at found
          omega
      | succ place =>
          obtain ⟨next, spaced⟩ := List.isChain_cons.mp spaced
          have before := inductionHypothesis spaced next found
          rw [Nat.add_mul _ 1, Nat.one_mul]
          omega

namespace Udp

/-- What a mediator that uses UDP knows of its registrations, where its timer ticks once in a
period. -/
structure Sound (period now ticked : ℕ) (registered : List ℕ) (udp : Udp) : Prop where
  regTimeout_ge : MIN_REG_TIMEOUT ≤ udp.regTimeout
  regTimeout_fails : udp.regTimeout ≤ MIN_REG_TIMEOUT * (udp.fails + 1)
  resp_le : ∀ resp ∈ udp.lastRegisterResp, resp ≤ now
  /-- The last registration is not timed out, and no registration since the last answer is
  answered. -/
  awaiting : ∀ sent ∈ udp.lastRegisterSent,
    ticked < sent + millis udp.regTimeout ∧ registered.head? = some sent ∧
      udp.fails < registered.length ∧
      ∀ resp ∈ udp.lastRegisterResp, ∀ earlier ∈ registered.take (udp.fails + 1),
        resp ≤ earlier
  /-- The last registration is answered. -/
  answered : udp.lastRegisterSent = none →
    udp.fails = 0 ∧ (udp.lastRegisterResp = none → registered = []) ∧
      ∀ resp ∈ udp.lastRegisterResp, ticked < resp + millis REG_INTERVAL ∧
        ∀ sent ∈ registered.head?, sent ≤ resp
  /-- The first registrations after an answer come soon. -/
  timely : ∀ resp ∈ udp.lastRegisterResp, ∀ sent ∈ udp.lastRegisterSent,
    (udp.fails = 0 → sent < resp + millis REG_INTERVAL + period) ∧
      (udp.fails = 1 → sent < resp + millis (REG_INTERVAL + MIN_REG_TIMEOUT) + 2 * period)

variable {period now ticked : ℕ} {registered : List ℕ} {udp : Udp}

theorem sound_new : Sound period now ticked [] Udp.new := by
  constructor <;> simp [Udp.new, MIN_REG_TIMEOUT]

theorem Sound.later
    (sound : udp.Sound period now ticked registered)
    {later : ℕ}
    (le : now ≤ later) :
    udp.Sound period later ticked registered :=
  { sound with resp_le := fun resp member => (sound.resp_le resp member).trans le }

theorem sound_updateLatency
    (latest : ∀ sent ∈ registered.head?, sent ≤ now)
    (ticked_le : ticked ≤ now) :
    (udp.updateLatency now).1.Sound period now ticked registered := by
  obtain ⟨oldLatency, emaLatency, heard⟩ := udp.updateLatency_eq now
  rw [heard]
  constructor <;> simp [MIN_REG_TIMEOUT]
  refine ⟨?_, latest⟩
  simp only [millis, REG_INTERVAL]
  omega

theorem Sound.nextRegTimeout
    (sound : udp.Sound period now ticked registered)
    (usingPublicServer : Bool) :
    MIN_REG_TIMEOUT ≤ udp.nextRegTimeout now usingPublicServer ∧
      udp.nextRegTimeout now usingPublicServer ≤ MIN_REG_TIMEOUT * (udp.fails + 2) := by
  obtain ⟨least, growth, -⟩ := sound
  unfold Udp.nextRegTimeout
  simp only [MIN_REG_TIMEOUT] at *
  split_ifs <;> omega

/-- The last registration has been given its time where a new one is due. -/
theorem Sound.waited
    (sound : udp.Sound period now ticked registered)
    (due : udp.registers now = true) :
    ∀ latest ∈ registered.head?, latest + millis MIN_REG_TIMEOUT ≤ now := by
  intro latest member
  cases sent_eq : udp.lastRegisterSent with
  | some sent =>
      obtain ⟨-, head, -⟩ := sound.awaiting sent sent_eq
      obtain rfl : sent = latest := Option.some_inj.mp (head.symm.trans member)
      rw [registers, sent_eq, Option.isNone_some, Bool.false_and, Bool.or_false, timeout,
        sent_eq, decide_eq_true_eq] at due
      apply le_of_le_elapsedMillis (by decide)
      exact sound.regTimeout_ge.trans due
  | none =>
      obtain ⟨-, fresh, expires⟩ := sound.answered sent_eq
      cases resp_eq : udp.lastRegisterResp with
      | none => simp [fresh resp_eq] at member
      | some resp =>
          have before := (expires resp resp_eq).2 latest member
          have expired : REG_INTERVAL ≤ elapsedMillis now resp := by
            simpa [registers, timeout, Udp.expired, sent_eq, resp_eq] using due
          have long := le_of_le_elapsedMillis (by decide) expired
          simp only [millis, REG_INTERVAL, MIN_REG_TIMEOUT] at long ⊢
          omega

theorem Sound.tick
    (sound : udp.Sound period now ticked registered)
    (ticks : now ≤ ticked + period)
    (usingPublicServer : Bool) :
    (udp.tick now usingPublicServer).1.Sound period now now
      (if udp.registers now then now :: registered else registered) := by
  obtain ⟨timed, oldLatency, next, -⟩ | ⟨due, unsent, next⟩ | ⟨timed, early, next⟩ :=
    udp.tick_cases now usingPublicServer
  · obtain ⟨least, growth⟩ := sound.nextRegTimeout usingPublicServer
    obtain ⟨before, before_eq⟩ := udp.sent_of_timeout now timed
    obtain ⟨untimed, -, count, unanswered⟩ := sound.awaiting before before_eq
    rw [next, if_pos (registers_of_timeout now timed)]
    refine ⟨least, growth, sound.resp_le, ?_, by simp, ?_⟩
    · intro sent member
      obtain rfl : now = sent := Option.some_inj.mp member
      refine ⟨?_, rfl, by simpa using count, ?_⟩
      · simp only [millis, MIN_REG_TIMEOUT] at least ⊢
        omega
      · intro resp resp_mem earlier earlier_mem
        rw [List.take_succ_cons] at earlier_mem
        rcases List.mem_cons.mp earlier_mem with rfl | earlier_mem
        · exact sound.resp_le resp resp_mem
        · exact unanswered resp resp_mem earlier earlier_mem
    · intro resp resp_mem sent sent_mem
      obtain rfl : now = sent := Option.some_inj.mp sent_mem
      refine ⟨by simp, ?_⟩
      intro failed
      have first : udp.fails = 0 := Nat.succ_injective failed
      have before_lt := (sound.timely resp resp_mem before before_eq).1 first
      have growth := sound.regTimeout_fails
      simp only [first, millis, MIN_REG_TIMEOUT, REG_INTERVAL] at *
      omega
  · obtain ⟨none_failed, -, expires⟩ := sound.answered unsent
    have least := sound.regTimeout_ge
    rw [next, if_pos due]
    refine { sound with awaiting := ?_, answered := by simp, timely := ?_ }
    · intro sent member
      obtain rfl : now = sent := Option.some_inj.mp member
      refine ⟨?_, rfl, by simp [none_failed], ?_⟩
      · simp only [millis, MIN_REG_TIMEOUT] at least ⊢
        omega
      · simpa [none_failed] using sound.resp_le
    · intro resp resp_mem sent sent_mem
      obtain rfl : now = sent := Option.some_inj.mp sent_mem
      have unexpired := (expires resp resp_mem).1
      refine ⟨by omega, ?_⟩
      intro failed
      exact absurd (none_failed.symm.trans failed) (by decide)
  · rw [next, early, if_neg Bool.false_ne_true]
    refine { sound with awaiting := ?_, answered := ?_ }
    · intro sent member
      refine ⟨?_, (sound.awaiting sent member).2⟩
      rw [Option.mem_def] at member
      rw [timeout, member, decide_eq_false_iff_not, not_le] at timed
      exact lt_of_elapsedMillis_lt timed
    · intro unsent
      obtain ⟨none_failed, fresh, expires⟩ := sound.answered unsent
      refine ⟨none_failed, fresh, ?_⟩
      intro resp member
      refine ⟨?_, (expires resp member).2⟩
      rw [Option.mem_def] at member
      rw [registers, timed, unsent, expired, member, Option.isNone_none, Bool.false_or,
        Bool.true_and, decide_eq_false_iff_not, not_le] at early
      exact lt_of_elapsedMillis_lt early

/-- A server that has not failed twice has answered not long ago. -/
theorem Sound.heard_lt
    (sound : udp.Sound period now ticked registered)
    (ticks : now ≤ ticked + period)
    (hardly_failed : udp.fails < MAX_FAILS1)
    {resp : ℕ}
    (heard : udp.lastRegisterResp = some resp) :
    now < resp + millis 24000 + 3 * period := by
  cases sent_eq : udp.lastRegisterSent with
  | none =>
      have unexpired := ((sound.answered sent_eq).2.2 resp heard).1
      simp only [millis, REG_INTERVAL] at unexpired ⊢
      omega
  | some sent =>
      have untimed := (sound.awaiting sent sent_eq).1
      have growth := sound.regTimeout_fails
      obtain ⟨first, second⟩ := sound.timely resp heard sent sent_eq
      simp only [millis, REG_INTERVAL, MIN_REG_TIMEOUT, MAX_FAILS1] at *
      obtain none_failed | failed : udp.fails = 0 ∨ udp.fails = 1 := by omega
      · have sent_lt := first none_failed
        rw [none_failed] at growth
        omega
      · have sent_lt := second failed
        rw [failed] at growth
        omega

end Udp

namespace Tcp

/-- What a mediator that uses TCP knows of its registrations. -/
structure Sound (ticked : ℕ) (registered : List ℕ) (tcp : Tcp) : Prop where
  head : registered.head? = tcp.lastRegisterSent
  patient : elapsedMillis ticked tcp.lastRecvMsg ≤ tcp.patience

variable {now ticked : ℕ} {registered : List ℕ} {tcp : Tcp}

theorem Sound.waited
    (sound : tcp.Sound ticked registered)
    (unconfirmed : Bool)
    (due : tcp.registers now unconfirmed = true) :
    ∀ latest ∈ registered.head?, latest + millis MIN_REG_TIMEOUT ≤ now := by
  intro latest member
  have sent : tcp.lastRegisterSent = some latest := sound.head.symm.trans member
  have waited : REG_INTERVAL ≤ elapsedMillis now latest := by
    rw [registers, sent, Bool.and_eq_true, decide_eq_true_eq] at due
    exact due.2
  have long := le_of_le_elapsedMillis (by decide) waited
  simp only [millis, REG_INTERVAL, MIN_REG_TIMEOUT] at long ⊢
  omega

theorem Sound.tick
    (sound : tcp.Sound ticked registered)
    (unconfirmed : Bool)
    (patient : tcp.givesUp now = false) :
    (tcp.tick now unconfirmed).Sound now
      (if tcp.registers now unconfirmed then now :: registered else registered) := by
  rw [givesUp, decide_eq_false_iff_not, not_lt] at patient
  unfold Tcp.tick
  split_ifs
  · exact ⟨rfl, patient⟩
  · exact ⟨sound.head, patient⟩

theorem Sound.receive
    (sound : tcp.Sound ticked registered)
    (ticked_le : ticked ≤ now)
    (incoming : Incoming) :
    (tcp.receive now incoming).1.Sound ticked registered := by
  have fresh (patience : ℕ) : elapsedMillis ticked now ≤ patience := by
    unfold elapsedMillis
    omega
  unfold Tcp.receive
  split
  · exact ⟨sound.head, fresh _⟩
  · dsimp only
    split_ifs <;> exact ⟨sound.head, fresh _⟩
  · exact ⟨sound.head, fresh _⟩

end Tcp

namespace Task

/-- The registrations of a task whose timer ticks once in a period, and what it knows of
them. -/
structure Prompt (period now : ℕ) (task : Task) : Prop where
  ticked_le : task.ticked ≤ now
  ticks : task.running → task.isTest = false → now ≤ task.ticked + period
  spaced : Spaced task.registered
  latest : ∀ sent ∈ task.registered.head?, sent ≤ task.ticked
  udp : ∀ udp, task.connection = .udp udp → udp.Sound period now task.ticked task.registered
  tcp : ∀ tcp, task.connection = .tcp tcp → tcp.Sound task.ticked task.registered

variable {period now : ℕ} {task : Task}

theorem prompt_begin (host : Text) : (begin now host).Prompt period now where
  ticked_le := le_rfl
  ticks := by simp [begin, running]
  spaced := List.isChain_nil
  latest := by simp [begin]
  udp := by
    rintro udp ⟨⟩
    exact Udp.sound_new
  tcp := by simp [begin]

theorem prompt_opened (tcp : Bool) : (task.opened now tcp).Prompt period now where
  ticked_le := le_rfl
  ticks _ _ := Nat.le_add_right _ _
  spaced := List.isChain_nil
  latest := by simp [opened]
  udp := by
    cases tcp <;> rintro udp ⟨⟩
    exact Udp.sound_new
  tcp := by
    cases tcp <;> rintro tcp ⟨⟩
    exact ⟨rfl, by simp [opened, Tcp.new, elapsedMillis]⟩

/-- A tick of the timer. -/
theorem Prompt.ticking
    (prompt : task.Prompt period now)
    (connection : Connection)
    (stage : Stage)
    {due : Bool}
    (waited : due = true →
      ∀ latest ∈ task.registered.head?, latest + millis MIN_REG_TIMEOUT ≤ now)
    (udp : ∀ udp, connection = .udp udp →
      udp.Sound period now now (if due then now :: task.registered else task.registered))
    (tcp : ∀ tcp, connection = .tcp tcp →
      tcp.Sound now (if due then now :: task.registered else task.registered)) :
    (task.ticks now connection stage due).Prompt period now where
  ticked_le := le_rfl
  ticks _ _ := Nat.le_add_right _ _
  spaced := by
    cases due with
    | true => exact prompt.spaced.cons (waited rfl)
    | false => exact prompt.spaced
  latest := by
    cases due with
    | true => exact fun sent member => (Option.some_inj.mp member).ge
    | false => exact fun sent member => (prompt.latest sent member).trans prompt.ticked_le
  udp := udp
  tcp := tcp

theorem Prompt.step
    {online : Lib.Table Text ℤ}
    {next : Task}
    {told : Told}
    (prompt : task.Prompt period now)
    (step : Step now online task next told) :
    next.Prompt period now := by
  obtain ⟨ticked_le, ticks, spaced, latest, knownUdp, knownTcp⟩ := id prompt
  cases step with
  | opened tcp => exact prompt_opened tcp
  | udpTick udp usingPublicServer connection waiting =>
      have going := ticks (by simp [running, waiting]) (by simp [isTest, connection])
      have known := knownUdp udp connection
      apply prompt.ticking _ _ known.waited
      · rintro next ⟨⟩
        exact known.tick going usingPublicServer
      · rintro tcp ⟨⟩
  | tcpTick tcp unconfirmed connection waiting patient =>
      have known := knownTcp tcp connection
      apply prompt.ticking _ _ (known.waited unconfirmed)
      · rintro udp ⟨⟩
      · rintro next ⟨⟩
        exact known.tick unconfirmed patient
  | udpAnswer udp connection waiting =>
      have going := ticks (by simp [running, waiting]) (by simp [isTest, connection])
      refine ⟨ticked_le, fun _ _ => going, spaced, latest, ?_, ?_⟩
      · rintro next ⟨⟩
        exact Udp.sound_updateLatency
          (fun sent member => (latest sent member).trans ticked_le) ticked_le
      · rintro tcp ⟨⟩
  | tcpMessage tcp incoming connection waiting =>
      have going := ticks (by simp [running, waiting]) (by simp [isTest, connection])
      refine ⟨ticked_le, fun _ _ => going, spaced, latest, ?_, ?_⟩
      · rintro udp ⟨⟩
      · rintro next ⟨⟩
        exact (knownTcp tcp connection).receive ticked_le incoming
  | tested => exact ⟨ticked_le, by simp [isTest], spaced, latest, by simp, by simp⟩
  | goOn stage told going =>
      exact ⟨ticked_le, fun _ => ticks going, spaced, latest, knownUdp, knownTcp⟩
  | testJoined | ended =>
      exact ⟨ticked_le, by simp [running], spaced, latest, knownUdp, knownTcp⟩

theorem Prompt.later
    (prompt : task.Prompt period now)
    {later : ℕ}
    (le : now ≤ later)
    (ticks : task.running → task.isTest = false → later ≤ task.ticked + period) :
    task.Prompt period later :=
  { prompt with
    ticked_le := prompt.ticked_le.trans le
    ticks := ticks
    udp := fun udp connection => (prompt.udp udp connection).later le }

end Task

namespace Latencies

variable {state : Latencies}

/-- A task takes a step, or nothing happens. -/
theorem step_act_cases (state : Latencies) (index : ℕ) (action : Action) :
    state.step (.act index action) = state ∨ ∃ task next told,
      state.tasks[index]? = some task ∧ task.Step state.now state.online next told ∧
        state.step (.act index action) = state.setTask index next told := by
  rw [step]
  split
  case h_2 => exact .inl rfl
  case h_1 task found =>
    split
    case h_2 => exact .inl rfl
    case h_1 next told acts => exact .inr ⟨task, next, told, found, Task.step_of_act acts, rfl⟩

/-- What the steps of the tasks keep, and what holds of new ones, holds of all. -/
theorem forall_tasks_step
    (property : Task → Prop)
    (event : LatencyEvent)
    (begun : ∀ host, property (Task.begin state.now host))
    (tests : ∀ hosts, property ⟨[], .test hosts, .waiting, state.now, []⟩)
    (steps : ∀ task ∈ state.tasks, ∀ next told, property task →
      task.Step state.now state.online next told → property next)
    (holds : ∀ task ∈ state.tasks, property task) :
    ∀ task ∈ (state.step event).tasks, property task := by
  intro task member
  cases event with
  | pass | restart => exact holds task member
  | startAll hosts =>
      rw [step] at member
      split_ifs at member
      · rcases List.mem_append.mp member with old | new
        · exact holds task old
        · obtain ⟨host, -, rfl⟩ := List.mem_map.mp new
          exact begun host
      · exact holds task member
  | joined =>
      rw [step] at member
      split_ifs at member
      · exact holds task (List.mem_filter.mp member).1
      · exact holds task member
  | test hosts =>
      rw [step] at member
      split_ifs at member
      · exact holds task member
      · rcases List.mem_append.mp member with old | new
        · exact holds task old
        · rw [List.mem_singleton.mp new]
          exact tests hosts
  | act index action =>
      rcases state.step_act_cases index action with same | ⟨before, next, told, found, takes, same⟩
      · rw [same] at member
        exact holds task member
      · rw [same] at member
        have before_mem := List.mem_of_getElem? found
        rcases List.mem_or_eq_of_mem_set member with old | rfl
        · exact holds task old
        · exact steps before before_mem task told (holds before before_mem) takes

theorem now_le_step (event : LatencyEvent) : state.now ≤ (state.step event).now := by
  cases event with
  | pass duration => exact Nat.le_add_right _ _
  | restart => exact le_rfl
  | startAll | joined | test =>
      rw [step]
      split_ifs <;> exact le_rfl
  | act index action =>
      rcases state.step_act_cases index action with same | ⟨_, _, told, -, -, same⟩
      · rw [same]
      · rw [same]
        cases told <;> exact le_rfl

/-- After a step the timer of every mediator has ticked within the last period. -/
def Punctual (period : ℕ) (state : Latencies) (event : LatencyEvent) : Prop :=
  ∀ task ∈ (state.step event).tasks, task.running → task.isTest = false →
    (state.step event).now ≤ task.ticked + period

instance (period : ℕ) (state : Latencies) (event : LatencyEvent) :
    Decidable (state.Punctual period event) :=
  inferInstanceAs (Decidable (∀ task ∈ (state.step event).tasks,
    task.running → task.isTest = false → (state.step event).now ≤ task.ticked + period))

/-- What all tasks know. -/
def Prompt (period : ℕ) (state : Latencies) : Prop :=
  ∀ task ∈ state.tasks, task.Prompt period state.now

theorem Prompt.step
    {period : ℕ}
    (prompt : state.Prompt period)
    {event : LatencyEvent}
    (punctual : state.Punctual period event) :
    (state.step event).Prompt period := by
  have kept : ∀ task ∈ (state.step event).tasks, task.Prompt period state.now :=
    forall_tasks_step (Task.Prompt period state.now) event Task.prompt_begin
      (fun _ => ⟨le_rfl, by simp [Task.isTest], List.isChain_nil, by simp, by simp, by simp⟩)
      (fun _ _ _ _ known step => known.step step) prompt
  exact fun task member => (kept task member).later (now_le_step event) (punctual task member)

theorem prompt_run
    {period : ℕ}
    {server : Text}
    {events : List LatencyEvent}
    (punctual : Lib.Along step (Punctual period) (new server) events) :
    (Lib.run step (new server) events).Prompt period :=
  Lib.run_invariant (Prompt period) (fun _ _ prompt punctual => prompt.step punctual)
    (fun _ member => absurd member List.not_mem_nil) punctual

/-- Every run is punctual with a period that is long enough. -/
theorem exists_punctual (state : Latencies) (events : List LatencyEvent) :
    ∃ least, ∀ period, least ≤ period → Lib.Along step (Punctual period) state events := by
  induction events generalizing state with
  | nil => exact ⟨0, fun _ _ => trivial⟩
  | cons event events inductionHypothesis =>
      obtain ⟨least, enough⟩ := inductionHypothesis (state.step event)
      refine ⟨max least (state.step event).now, fun period le => ⟨?_, ?_⟩⟩
      · exact fun task _ _ _ => ((le_max_right _ _).trans le).trans (Nat.le_add_left _ _)
      · exact enough period ((le_max_left _ _).trans le)

theorem exists_prompt_run (server : Text) (events : List LatencyEvent) :
    ∃ period, (Lib.run step (new server) events).Prompt period := by
  obtain ⟨period, enough⟩ := exists_punctual (new server) events
  exact ⟨period, prompt_run (enough period le_rfl)⟩

/-- A server does not answer. -/
def silence : List LatencyEvent :=
  [.startAll [['a']], .act 0 (.opened false), .act 0 (.tick true true), .pass 3000000000,
    .act 0 (.tick true true), .pass 6000000000]

/-- Its mediator, which has registered twice. -/
def ignored : Task where
  host := ['a']
  connection := .udp ⟨6000, 1, none, some 3000000000, 0, 0⟩
  stage := .waiting
  ticked := 3000000000
  registered := [3000000000, 0]

end Latencies

end Rendezvous
end OneDesk
