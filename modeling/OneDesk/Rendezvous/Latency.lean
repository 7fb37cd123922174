import Mathlib.Algebra.Order.Group.Int
import OneDesk.Lib.Table
import OneDesk.Rendezvous.Mediator

/-!
# Which rendezvous servers are reachable

Every mediator measures how fast its server answers, and tells it to a table that all share.
What the table says is shown to the user, and the fastest server is configured.  A change of
the table, the search for the fastest server and its storing each take a lock of their own,
so those of several mediators interleave.  Instants are in nanoseconds.
-/

namespace OneDesk
namespace Rendezvous

/-- A number of milliseconds. -/
def millis (count : ℕ) : ℕ := count * 1000000

/-- `elapsed().as_millis()`. -/
def elapsedMillis (now instant : ℕ) : ℕ := (now - instant) / 1000000

/-- `elapsed().as_micros()`. -/
def elapsedMicros (now instant : ℕ) : ℕ := (now - instant) / 1000

/-! ## A mediator -/

def MIN_REG_TIMEOUT : ℕ := 3000
def MAX_REG_TIMEOUT : ℕ := 30000
def MAX_FAILS1 : ℕ := 2
def MAX_FAILS2 : ℕ := 4
def REG_INTERVAL : ℕ := 15000
def DEFAULT_KEEP_ALIVE : ℤ := 60000

/-- What `start_udp` keeps. -/
structure Udp where
  regTimeout : ℕ
  fails : ℕ
  lastRegisterResp : Option ℕ
  lastRegisterSent : Option ℕ
  oldLatency : ℤ
  emaLatency : ℤ
  deriving DecidableEq

/-- What `start_tcp` keeps. -/
structure Tcp where
  lastRegisterSent : Option ℕ
  lastRecvMsg : ℕ
  keepAlive : ℤ
  deriving DecidableEq

/-- A message of a server. -/
inductive Incoming
  | registerPeerResponse
  | registerPkResponse (keepAlive : ℤ)
  /-- Any other message, or a heartbeat. -/
  | other
  deriving DecidableEq

/-- It goes to `update_latency`. -/
def Incoming.answers : Incoming → Bool
  | .other => false
  | _ => true

namespace Udp

/-- When the socket is there. -/
def new : Udp := ⟨MIN_REG_TIMEOUT, 0, none, none, 0, 0⟩

variable (now : ℕ) (udp : Udp)

/-- The latency `update_latency` measures. -/
def latency : ℤ :=
  match udp.lastRegisterSent with
  | some sent => elapsedMicros now sent
  | none => 0

/-- `update_latency`, with what it tells to the table. -/
def updateLatency : Udp × Option ℤ :=
  let heard : Udp :=
    { udp with
      lastRegisterResp := some now
      fails := 0
      regTimeout := MIN_REG_TIMEOUT
      lastRegisterSent := none }
  if udp.latency now < 0 ∨ 1000000 < udp.latency now then (heard, none)
  else
    let latency :=
      if udp.emaLatency = 0 then udp.latency now
      else (udp.latency now).tdiv 30 + (udp.emaLatency * 29).tdiv 30
    let n := max (latency.tdiv 5) 3000
    if n < |latency - udp.oldLatency| ∨ udp.oldLatency ≤ 0 then
      ({ heard with emaLatency := latency, oldLatency := latency }, some latency)
    else ({ heard with emaLatency := latency }, none)

/-- The server has not answered for long. -/
def expired : Bool :=
  match udp.lastRegisterResp with
  | some resp => REG_INTERVAL ≤ elapsedMillis now resp
  | none => true

/-- The last registration has not been answered in time. -/
def timeout : Bool :=
  match udp.lastRegisterSent with
  | some sent => udp.regTimeout ≤ elapsedMillis now sent
  | none => false

/-- The timeout after a tick of the timer. -/
def nextRegTimeout (usingPublicServer : Bool) : ℕ :=
  if usingPublicServer ∧ udp.timeout now ∧ udp.regTimeout < MAX_REG_TIMEOUT then
    udp.regTimeout + MIN_REG_TIMEOUT
  else udp.regTimeout

/-- What is told to the table after a number of failures. -/
def failure (fails : ℕ) : Option ℤ :=
  if MAX_FAILS2 ≤ fails then some (-1)
  else if MAX_FAILS1 ≤ fails then some 0
  else none

/-- A tick of the timer registers. -/
def registers : Bool :=
  udp.timeout now || udp.lastRegisterSent.isNone && udp.expired now

/-- A tick of the timer, with what it tells to the table. -/
def tick (usingPublicServer : Bool) : Udp × Option ℤ :=
  let next := { udp with regTimeout := udp.nextRegTimeout now usingPublicServer }
  if udp.timeout now then
    let told := failure (udp.fails + 1)
    ({ next with
        fails := udp.fails + 1
        oldLatency := if told.isSome then 0 else udp.oldLatency
        lastRegisterSent := some now }, told)
  else if udp.registers now then ({ next with lastRegisterSent := some now }, none)
  else (next, none)

end Udp

namespace Tcp

/-- When the connection is there. -/
def new (now : ℕ) : Tcp := ⟨none, now, DEFAULT_KEEP_ALIVE⟩

variable (now : ℕ) (tcp : Tcp)

/-- The milliseconds without a message after which the connection is given up. -/
def patience : ℕ := ((tcp.keepAlive % 2 ^ 64 * 3 % 2 ^ 64) / 2).toNat

/-- The latency `update_latency` measures. -/
def latency : ℤ :=
  match tcp.lastRegisterSent with
  | some sent => elapsedMicros now sent
  | none => 0

/-- A message, with what it tells to the table. -/
def receive (incoming : Incoming) : Tcp × Option ℤ :=
  let heard := { tcp with lastRecvMsg := now }
  match incoming with
  | .registerPeerResponse => (heard, some (tcp.latency now))
  | .registerPkResponse keepAlive =>
      (if 0 < keepAlive then { heard with keepAlive := (keepAlive * 1000).bmod (2 ^ 32) }
        else heard, some (tcp.latency now))
  | .other => (heard, none)

/-- The connection is given up at a tick of the timer. -/
def givesUp : Bool := tcp.patience < elapsedMillis now tcp.lastRecvMsg

/-- A tick of the timer registers, if the key is not confirmed. -/
def registers (unconfirmed : Bool) : Bool :=
  unconfirmed &&
    match tcp.lastRegisterSent with
    | some sent => REG_INTERVAL ≤ elapsedMillis now sent
    | none => true

/-- A tick of the timer that does not give up. -/
def tick (unconfirmed : Bool) : Tcp :=
  if tcp.registers now unconfirmed then { tcp with lastRegisterSent := some now } else tcp

end Tcp

/-! ## All mediators, and what they share -/

/-- What a task connects to. -/
inductive Connection
  | udp (state : Udp)
  | tcp (state : Tcp)
  /-- `test_rendezvous_server_`, with the servers whose connections are awaited. -/
  | test (left : List Text)
  deriving DecidableEq

/-- Where a task is. -/
inductive Stage
  /-- Its socket is not there yet. -/
  | starting
  /-- It waits for its timer, a message or a connection. -/
  | waiting
  /-- It has changed the table, and is about to look for the fastest server. -/
  | scanning
  /-- It is about to store the server it has found. -/
  | storing (host : Text)
  | ended
  deriving DecidableEq

/-- A mediator, or a test of all servers. -/
structure Task where
  host : Text
  connection : Connection
  stage : Stage
  /-- When its timer has last ticked. -/
  ticked : ℕ
  /-- When its timer has registered, the last time first. -/
  registered : List ℕ
  deriving DecidableEq

/-- What a task does to what all share. -/
inductive Told
  | nothing
  | latency (host : Text) (value : ℤ)
  | server (host : Text)
  /-- `reset_online` -/
  | reset
  deriving DecidableEq

/-- The entries of the table in some order. -/
abbrev Order := List (Σ _ : Text, ℤ)

/-- What a task may do next. -/
inductive Action
  /-- Its socket is there. -/
  | opened (tcp : Bool)
  | tick (usingPublicServer unconfirmed : Bool)
  | message (incoming : Incoming)
  /-- It ends with an error. -/
  | fail
  /-- A connection of a test is there, after some microseconds, or has failed. -/
  | tested (place : ℕ) (micros : Option ℕ)
  /-- A test has awaited all connections. -/
  | testJoined
  /-- `update_latency` looks at the entries. -/
  | scan (order : Order)
  /-- `update_latency` stores the fastest server. -/
  | store

/-- One entry of the loop of `update_latency`. -/
def faster (fastest : Text × ℤ) (entry : Σ _ : Text, ℤ) : Text × ℤ :=
  if 0 < entry.2 ∧ entry.2 < fastest.2 then (entry.1, entry.2) else fastest

/-- The fastest server, as the loop of `update_latency` finds it. -/
def fastest (order : Order) : Text := (order.foldl faster ([], 2 ^ 63 - 1)).1

/-- `get_online_state` -/
def getOnlineState (online : Lib.Table Text ℤ) : ℤ :=
  ((online.entries.map fun entry => (entry.2 : WithBot ℤ)).sup).unbotD 0

namespace Task

variable (now : ℕ) (task : Task)

/-- A latency goes to the table under the host of the mediator. -/
def tell (latency : Option ℤ) : Told := latency.elim .nothing (.latency task.host)

/-- Where a mediator goes on after it has told a latency or not. -/
def after (latency : Option ℤ) : Stage := if latency.isSome then .scanning else .waiting

/-- A mediator that begins. -/
def begin (host : Text) : Task := ⟨host, .udp Udp.new, .starting, now, []⟩

/-- `start`, when the socket is there. -/
def opened (tcp : Bool) : Task :=
  { task with
    connection := if tcp then .tcp (Tcp.new now) else .udp Udp.new
    stage := .waiting
    ticked := now
    registered := [] }

/-- A tick of the timer, which may register. -/
def ticks (connection : Connection) (stage : Stage) (registers : Bool) : Task :=
  { task with
    connection
    stage
    ticked := now
    registered := if registers then now :: task.registered else task.registered }

/-- A tick of the timer, when the mediator is not to end. -/
def tick (usingPublicServer unconfirmed : Bool) : Option (Task × Told) :=
  match task.connection with
  | .udp udp =>
      let (next, latency) := udp.tick now usingPublicServer
      some (task.ticks now (.udp next) (after latency) (udp.registers now), task.tell latency)
  | .tcp tcp =>
      if tcp.givesUp now then some ({ task with stage := .ended }, .nothing)
      else
        some (task.ticks now (.tcp (tcp.tick now unconfirmed)) .waiting
          (tcp.registers now unconfirmed), .nothing)
  | .test _ => none

/-- A message. -/
def message (incoming : Incoming) : Option (Task × Told) :=
  match task.connection with
  | .udp udp =>
      if incoming.answers then
        let (next, latency) := udp.updateLatency now
        some ({ task with connection := .udp next, stage := after latency }, task.tell latency)
      else none
  | .tcp tcp =>
      let (next, latency) := tcp.receive now incoming
      some ({ task with connection := .tcp next, stage := after latency }, task.tell latency)
  | .test _ => none

/-- It is a test. -/
def isTest : Bool :=
  match task.connection with
  | .test _ => true
  | _ => false

/-- A connection of a test. -/
def tested (place : ℕ) (micros : Option ℕ) : Option (Task × Told) :=
  match task.connection with
  | .test left =>
      left[place]?.map fun host =>
        ({ task with connection := .test (left.eraseIdx place), stage := .scanning },
          .latency host (micros.elim (-1) (↑)))
  | _ => none

/-- What a task does, if it may. -/
def act (shouldExit : Bool) (online : Lib.Table Text ℤ) : Action → Option (Task × Told)
  | .opened tcp =>
      if task.stage = .starting ∧ task.isTest = false then some (task.opened now tcp, .nothing)
      else none
  | .tick usingPublicServer unconfirmed =>
      if task.stage = .waiting then
        if shouldExit && !task.isTest then some ({ task with stage := .ended }, .nothing)
        else task.tick now usingPublicServer unconfirmed
      else none
  | .message incoming => if task.stage = .waiting then task.message now incoming else none
  | .fail =>
      if (task.stage = .starting ∨ task.stage = .waiting) ∧ task.isTest = false then
        some ({ task with stage := .ended }, .nothing)
      else none
  | .tested place micros => if task.stage = .waiting then task.tested place micros else none
  | .testJoined =>
      if task.stage = .waiting ∧ task.connection = .test [] then
        some ({ task with stage := .ended }, .reset)
      else none
  | .scan order =>
      if task.stage = .scanning ∧ (order : Multiset (Σ _ : Text, ℤ)) = online.entries then
        some ({ task with
          stage := if fastest order = [] then .waiting else .storing (fastest order) }, .nothing)
      else none
  | .store =>
      match task.stage with
      | .storing host => some ({ task with stage := .waiting }, .server host)
      | _ => none

end Task

/-- The mediators of a process and its tests, the table and the configuration. -/
structure Latencies where
  now : ℕ
  /-- `ONLINE` -/
  online : Lib.Table Text ℤ
  /-- `rendezvous_server` of the configuration. -/
  server : Text
  /-- `SHOULD_EXIT` -/
  shouldExit : Bool
  tasks : List Task

inductive LatencyEvent
  | pass (duration : ℕ)
  /-- `start_all` begins a mediator for every server. -/
  | startAll (hosts : List Text)
  /-- `start_all` has awaited all mediators. -/
  | joined
  /-- `RendezvousMediator::restart` -/
  | restart
  /-- `test_rendezvous_server` -/
  | test (hosts : List Text)
  | act (index : ℕ) (action : Action)

namespace Latencies

/-- Before any mediator. -/
def new (server : Text) : Latencies := ⟨0, ∅, server, false, []⟩

variable (state : Latencies)

/-- What a task has told is noted. -/
def hear : Told → Latencies
  | .nothing => state
  | .latency host value => { state with online := state.online.insert host value }
  | .server host => { state with server := host }
  | .reset => { state with online := ∅ }

/-- A task takes a step; where a mediator ends, so shall the others. -/
def setTask (index : ℕ) (next : Task) (told : Told) : Latencies :=
  { state.hear told with
    shouldExit := state.shouldExit || next.stage == .ended && !next.isTest
    tasks := state.tasks.set index next }

/-- One step. -/
def step : LatencyEvent → Latencies
  | .pass duration => { state with now := state.now + duration }
  | .startAll hosts =>
      if state.tasks.all Task.isTest then
        { state with
          shouldExit := false
          tasks := state.tasks ++ hosts.map (Task.begin state.now) }
      else state
  | .joined =>
      if state.tasks.all fun task => task.isTest || task.stage == .ended then
        { state with online := ∅, tasks := state.tasks.filter Task.isTest }
      else state
  | .restart => { state with shouldExit := true }
  | .test hosts =>
      if hosts.length ≤ 1 then state
      else { state with tasks := state.tasks ++ [⟨[], .test hosts, .waiting, state.now, []⟩] }
  | .act index action =>
      match state.tasks[index]? with
      | some task =>
          match task.act state.now state.shouldExit state.online action with
          | some (next, told) => state.setTask index next told
          | none => state
      | none => state

end Latencies

/-! ## The fastest server -/

theorem foldl_faster
    (order : Order)
    (before : Text × ℤ) :
    (order.foldl faster before = before ∨
        ⟨(order.foldl faster before).1, (order.foldl faster before).2⟩ ∈ order ∧
          0 < (order.foldl faster before).2) ∧
      (order.foldl faster before).2 ≤ before.2 ∧
      ∀ entry ∈ order, 0 < entry.2 → (order.foldl faster before).2 ≤ entry.2 := by
  induction order generalizing before with
  | nil => simp
  | cons entry order inductionHypothesis =>
      obtain ⟨found, least, leastOf⟩ := inductionHypothesis (faster before entry)
      rw [List.foldl_cons]
      have better : (faster before entry).2 ≤ before.2 ∧
          (0 < entry.2 → (faster before entry).2 ≤ entry.2) ∧
          (faster before entry = before ∨
            faster before entry = (entry.1, entry.2) ∧ 0 < entry.2) := by
        unfold faster
        split_ifs with isBetter
        · exact ⟨isBetter.2.le, fun _ => le_rfl, .inr ⟨rfl, isBetter.1⟩⟩
        · exact ⟨le_rfl, fun positive => by omega, .inl rfl⟩
      refine ⟨?_, least.trans better.1, ?_⟩
      · rcases found with same | ⟨member, positive⟩
        · rw [same]
          exact better.2.2.imp_right fun taken => by
            rw [taken.1]
            exact ⟨List.mem_cons_self, taken.2⟩
        · exact .inr ⟨List.mem_cons_of_mem _ member, positive⟩
      · intro other member positive
        rcases List.mem_cons.mp member with rfl | member
        · exact least.trans (better.2.1 positive)
        · exact leastOf other member positive

/-- A server that is found has the least of the positive latencies. -/
theorem fastest_spec
    {order : Order}
    (found : fastest order ≠ []) :
    ∃ latency, ⟨fastest order, latency⟩ ∈ order ∧ 0 < latency ∧
      ∀ entry ∈ order, 0 < entry.2 → latency ≤ entry.2 := by
  obtain ⟨same | ⟨member, positive⟩, -, leastOf⟩ := foldl_faster order ([], 2 ^ 63 - 1)
  · rw [fastest, same] at found
    exact absurd rfl found
  · exact ⟨_, member, positive, leastOf⟩

theorem getOnlineState_pos
    {online : Lib.Table Text ℤ}
    (positive : 0 < getOnlineState online) :
    ∃ host latency, online.lookup host = some latency ∧ 0 < latency := by
  by_contra none_positive
  push Not at none_positive
  have bounded : (online.entries.map fun entry => (entry.2 : WithBot ℤ)).sup ≤ (0 : ℤ) := by
    apply Multiset.sup_le.mpr
    intro latency member
    obtain ⟨entry, entry_mem, rfl⟩ := Multiset.mem_map.mp member
    apply WithBot.coe_le_coe.mpr
    exact none_positive entry.1 entry.2 (Finmap.lookup_eq_some_iff.mpr entry_mem)
  have state_le : getOnlineState online ≤ 0 := by
    unfold getOnlineState
    cases sup_eq : (online.entries.map fun entry => (entry.2 : WithBot ℤ)).sup with
    | bot => rfl
    | coe latency =>
        rw [sup_eq] at bounded
        exact WithBot.coe_le_coe.mp bounded
  omega

/-! ## What a step does -/

namespace Udp

variable (now : ℕ) (udp : Udp)

theorem updateLatency_eq :
    ∃ oldLatency emaLatency, (udp.updateLatency now).1 =
      ⟨MIN_REG_TIMEOUT, 0, some now, none, oldLatency, emaLatency⟩ := by
  unfold updateLatency
  extract_lets heard latency n
  split_ifs <;> exact ⟨_, _, rfl⟩

/-- A tick counts a failure, or only registers, or does nothing. -/
theorem tick_cases (usingPublicServer : Bool) :
    (udp.timeout now = true ∧ ∃ oldLatency,
        (udp.tick now usingPublicServer).1 =
          ⟨udp.nextRegTimeout now usingPublicServer, udp.fails + 1, udp.lastRegisterResp,
            some now, oldLatency, udp.emaLatency⟩ ∧
          (udp.tick now usingPublicServer).2 = failure (udp.fails + 1)) ∨
      (udp.registers now = true ∧ udp.lastRegisterSent = none ∧
        udp.tick now usingPublicServer = ({ udp with lastRegisterSent := some now }, none)) ∨
      (udp.timeout now = false ∧ udp.registers now = false ∧
        udp.tick now usingPublicServer = (udp, none)) := by
  cases timed : udp.timeout now with
  | true =>
      left
      refine ⟨rfl, if (failure (udp.fails + 1)).isSome then 0 else udp.oldLatency, ?_, ?_⟩
      · rw [tick, if_pos timed]
      · rw [tick, if_pos timed]
  | false =>
      right
      have same : udp.nextRegTimeout now usingPublicServer = udp.regTimeout := by
        simp [nextRegTimeout, timed]
      cases registers : udp.registers now with
      | true =>
          left
          refine ⟨rfl, ?_, by simp [tick, timed, registers, same]⟩
          rw [Udp.registers, timed, Bool.false_or, Bool.and_eq_true] at registers
          exact Option.isNone_iff_eq_none.mp registers.1
      | false => exact .inr ⟨rfl, rfl, by simp [tick, timed, registers, same]⟩

variable {udp}

theorem registers_of_timeout (timed : udp.timeout now = true) : udp.registers now = true := by
  simp [registers, timed]

theorem sent_of_timeout (timed : udp.timeout now = true) :
    ∃ sent, udp.lastRegisterSent = some sent := by
  cases sent_eq : udp.lastRegisterSent with
  | none => simp [timeout, sent_eq] at timed
  | some sent => exact ⟨sent, rfl⟩

theorem failure_eq_some
    {fails : ℕ}
    {told : ℤ}
    (tells : failure fails = some told) :
    ∃ count, (told = 0 ∧ count = 2 ∨ told = -1 ∧ count = 4) ∧ count ≤ fails := by
  unfold failure at tells
  split_ifs at tells with most some_failed
  · exact ⟨4, .inr ⟨(Option.some_inj.mp tells).symm, rfl⟩, most⟩
  · exact ⟨2, .inl ⟨(Option.some_inj.mp tells).symm, rfl⟩, some_failed⟩

end Udp

namespace Task

/-- It is at work. -/
def running (task : Task) : Prop := task.stage ≠ .starting ∧ task.stage ≠ .ended

instance (task : Task) : Decidable task.running :=
  inferInstanceAs (Decidable (task.stage ≠ .starting ∧ task.stage ≠ .ended))

/-- The steps of a task by what it connects to, with what it tells. -/
inductive Step (now : ℕ) (online : Lib.Table Text ℤ) (task : Task) : Task → Told → Prop
  | opened (tcp : Bool) :
      task.stage = .starting → task.isTest = false →
      Step now online task (task.opened now tcp) .nothing
  | udpTick (udp : Udp) (usingPublicServer : Bool) :
      task.connection = .udp udp → task.stage = .waiting →
      Step now online task
        (task.ticks now (.udp (udp.tick now usingPublicServer).1)
          (after (udp.tick now usingPublicServer).2) (udp.registers now))
        (task.tell (udp.tick now usingPublicServer).2)
  | tcpTick (tcp : Tcp) (unconfirmed : Bool) :
      task.connection = .tcp tcp → task.stage = .waiting → tcp.givesUp now = false →
      Step now online task
        (task.ticks now (.tcp (tcp.tick now unconfirmed)) .waiting
          (tcp.registers now unconfirmed)) .nothing
  | udpAnswer (udp : Udp) :
      task.connection = .udp udp → task.stage = .waiting →
      Step now online task
        { task with
          connection := .udp (udp.updateLatency now).1
          stage := after (udp.updateLatency now).2 }
        (task.tell (udp.updateLatency now).2)
  | tcpMessage (tcp : Tcp) (incoming : Incoming) :
      task.connection = .tcp tcp → task.stage = .waiting →
      Step now online task
        { task with
          connection := .tcp (tcp.receive now incoming).1
          stage := after (tcp.receive now incoming).2 }
        (task.tell (tcp.receive now incoming).2)
  | tested (left others : List Text) (host : Text) (value : ℤ) :
      task.connection = .test left → task.stage = .waiting →
      Step now online task { task with connection := .test others, stage := .scanning }
        (.latency host value)
  | testJoined :
      task.connection = .test [] →
      Step now online task { task with stage := .ended } .reset
  /-- A change of the table goes on. -/
  | goOn (stage : Stage) (told : Told) :
      task.running →
      (stage = .waiting ∧ (told = .nothing ∨ ∃ host, task.stage = .storing host ∧
          told = .server host) ∨
        ∃ order : Order, task.stage = .scanning ∧ ↑order = online.entries ∧
          fastest order ≠ [] ∧ stage = .storing (fastest order) ∧ told = .nothing) →
      Step now online task { task with stage } told
  | ended : task.isTest = false → Step now online task { task with stage := .ended } .nothing

theorem step_of_act
    {now : ℕ}
    {task next : Task}
    {shouldExit : Bool}
    {online : Lib.Table Text ℤ}
    {action : Action}
    {told : Told}
    (acts : task.act now shouldExit online action = some (next, told)) :
    Step now online task next told := by
  cases action with
  | opened tcp =>
      rw [act] at acts
      split_ifs at acts with starting
      obtain ⟨rfl, rfl⟩ := acts
      exact .opened tcp starting.1 starting.2
  | tick usingPublicServer unconfirmed =>
      rw [act] at acts
      split_ifs at acts with waiting exits
      · obtain ⟨rfl, rfl⟩ := acts
        rw [Bool.and_eq_true, Bool.not_eq_true'] at exits
        exact .ended exits.2
      · unfold tick at acts
        split at acts
        case h_1 udp connection =>
          obtain ⟨rfl, rfl⟩ := acts
          exact .udpTick udp usingPublicServer connection waiting
        case h_2 tcp connection =>
          split_ifs at acts with gone
          · obtain ⟨rfl, rfl⟩ := acts
            exact .ended (by simp [isTest, connection])
          · obtain ⟨rfl, rfl⟩ := acts
            exact .tcpTick tcp unconfirmed connection waiting (Bool.eq_false_iff.mpr gone)
        case h_3 => cases acts
  | message incoming =>
      rw [act] at acts
      split_ifs at acts with waiting
      unfold message at acts
      split at acts
      case h_1 udp connection =>
        split_ifs at acts
        obtain ⟨rfl, rfl⟩ := acts
        exact .udpAnswer udp connection waiting
      case h_2 tcp connection =>
        obtain ⟨rfl, rfl⟩ := acts
        exact .tcpMessage tcp incoming connection waiting
      case h_3 => cases acts
  | fail =>
      rw [act] at acts
      split_ifs at acts with fails
      obtain ⟨rfl, rfl⟩ := acts
      exact .ended fails.2
  | tested place micros =>
      rw [act] at acts
      split_ifs at acts with waiting
      unfold tested at acts
      split at acts
      case h_1 left connection =>
        obtain ⟨host, -, same⟩ := Option.map_eq_some_iff.mp acts
        obtain ⟨rfl, rfl⟩ := same
        exact .tested left _ host _ connection waiting
      case h_2 => cases acts
  | testJoined =>
      rw [act] at acts
      split_ifs at acts with joined
      obtain ⟨rfl, rfl⟩ := acts
      exact .testJoined joined.2
  | scan order =>
      rw [act] at acts
      split_ifs at acts with scans nothing
      · obtain ⟨rfl, rfl⟩ := acts
        exact .goOn .waiting .nothing (by simp [running, scans.1]) (.inl ⟨rfl, .inl rfl⟩)
      · obtain ⟨rfl, rfl⟩ := acts
        exact .goOn _ .nothing (by simp [running, scans.1])
          (.inr ⟨order, scans.1, scans.2, nothing, rfl, rfl⟩)
  | store =>
      rw [act] at acts
      split at acts
      case h_1 host storing =>
        obtain ⟨rfl, rfl⟩ := acts
        exact .goOn .waiting _ (by simp [running, storing]) (.inl ⟨rfl, .inr ⟨host, storing, rfl⟩⟩)
      case h_2 => cases acts

end Task

end Rendezvous
end OneDesk
