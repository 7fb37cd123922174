import OneDesk.Video.FrameControl

/-!
# Waiting for a frame to be fetched

The wait for a frame ends by counting the connections that have reported.  Whether they are the
ones that the frame was sent to is not looked at, nor which frame they report.  The count is right
in runs where no report waits when a frame is sent, and only connections that were sent it report
until the wait is over.
-/

namespace OneDesk
namespace Video
namespace FrameControl

open OneDesk.Lib

variable {Conn : Type} [DecidableEq Conn]

/-! ## What is counted -/

/-- The connections that the wait is for. -/
def Phase.called (sendConnIds : Finset Conn) : Phase Conn → Finset Conn
  | .sent connIds => if connIds = ∅ then sendConnIds else connIds
  | .waiting _ | .receiving _ | .draining _ => sendConnIds
  | .capture | .ended => ∅

/-- The connections that the wait has counted. -/
def Phase.fetched : Phase Conn → Finset Conn
  | .waiting fetched | .receiving fetched | .draining fetched => fetched
  | _ => ∅

/-- The wait for a frame as a roll call. -/
def VideoService.roll (service : VideoService Conn) : RollCall Conn where
  called := service.phase.called service.sendConnIds
  answered := service.reported
  counted := service.phase.fetched

/-- No service that waits for a frame has counted a report that is not for it, or is going to. -/
def Fresh (host : Host Conn) : Prop :=
  ∀ id, (host.services id).roll.Exact (host.queue id.idx)

/-- Every service of a display that waits for a frame waits for a connection. -/
def Awaited (host : Host Conn) (idx : Nat) (conn : Conn) : Prop :=
  ∀ id : ServiceId, id.idx = idx → (host.services id).roll.called.Nonempty →
    conn ∈ (host.services id).roll.called

/-- A frame is sent when no report waits, and only connections that are waited for report. -/
def Timely (host : Host Conn) : Event Conn → Prop
  | .send id => (host.services id).subscribes.Nonempty → host.queue id.idx = []
  | .notifyVideoFrameFetched idx conn => Awaited host idx conn
  | .notifyVideoFrameFetchedByConnId conn =>
      ∀ idx, host.knows conn idx = true → Awaited host idx conn
  | _ => True

def Phase.isEnded : Phase Conn → Bool
  | .ended => true
  | _ => false

/-- A step ends the wait of a service, and not because the three seconds are over. -/
def EndsByCount (host : Host Conn) (event : Event Conn) (id : ServiceId) : Prop :=
  event ≠ .limit id ∧ (host.services id).phase.isEnded = false ∧
    ((step host event).services id).phase.isEnded = true

/-! ## Parts of a host -/

section Parts

variable (host : Host Conn) (id other : ServiceId) (service : VideoService Conn)
variable (queue : List Conn) (idx otherIdx : Nat) (conn : Conn) (reaches : Nat → Bool)

omit [DecidableEq Conn] in
theorem services_setService :
    (host.setService id service).services other =
      if other = id then service else host.services other :=
  Function.update_apply host.services id service other

omit [DecidableEq Conn] in
theorem queue_setQueue :
    (host.setQueue idx queue).queue otherIdx =
      if otherIdx = idx then queue else host.queue otherIdx := by
  unfold Host.queue Host.setQueue
  by_cases same : otherIdx = idx
  · simp [same]
  · simp [same]

theorem services_report :
    (host.report conn reaches).services other =
      if reaches other.idx then
        { host.services other with reported := insert conn (host.services other).reported }
      else host.services other := rfl

theorem queue_report_subset :
    (host.report conn reaches).queue idx ⊆
      if reaches idx then host.queue idx ++ [conn] else host.queue idx := by
  unfold Host.queue Host.report
  dsimp only
  split
  · cases host.notifiers idx with
    | none => exact List.nil_subset _
    | some queue => exact List.Subset.refl _
  · exact List.Subset.refl _

end Parts

/-! ## Steps -/

/-- What a step of a service makes of the service, and of the reports that wait for its display. -/
inductive Turn (host : Host Conn) (id : ServiceId) :
    Event Conn → VideoService Conn → List Conn → Prop
  /-- the wait goes on as it is -/
  | goesOn
      {event : Event Conn}
      {service : VideoService Conn}
      (same : service.roll = (host.services id).roll)
      (before : service.phase.isEnded = true → (host.services id).phase.isEnded = true) :
      Turn host id event service (host.queue id.idx)
  /-- there is nobody to wait for any more -/
  | rests
      {event : Event Conn}
      {service : VideoService Conn}
      (nobody : service.roll.called = ∅)
      (isLimit : service.phase.isEnded = true → event = .limit id) :
      Turn host id event service (host.queue id.idx)
  /-- a frame is sent to all viewers -/
  | sends :
      Turn host id (.send id)
        { host.services id with
          sendConnIds := ∅
          phase := .sent (host.services id).subscribes
          reported := ∅ }
        (host.queue id.idx)
  /-- the report that has waited longest is counted -/
  | counts
      {event : Event Conn}
      {service : VideoService Conn}
      {conn : Conn}
      {queue : List Conn}
      (waits : host.queue id.idx = conn :: queue)
      (counted : service.roll = (host.services id).roll.count conn)
      (notEnded : service.phase.isEnded = false) :
      Turn host id event service queue
  /-- the wait ends if enough connections are counted -/
  | tests
      {event : Event Conn}
      {fetched : Finset Conn}
      (isPhase : (host.services id).phase = .waiting fetched ∨
        (host.services id).phase = .draining fetched) :
      Turn host id event ((host.services id).test fetched) (host.queue id.idx)

/-- A host after a step of one of its services. -/
def Turned (host : Host Conn) (event : Event Conn) (after : Host Conn) : Prop :=
  ∃ id service queue, Turn host id event service queue ∧
    (∀ other, after.services other = if other = id then service else host.services other) ∧
      ∀ idx, after.queue idx = if idx = id.idx then queue else host.queue idx

section Steps

variable {host : Host Conn} {id : ServiceId} {service : VideoService Conn}
variable {event : Event Conn} {queue : List Conn}

theorem Turn.turned
    (turn : Turn host id event service (host.queue id.idx)) :
    Turned host event (host.setService id service) := by
  refine ⟨id, service, _, turn, fun other => services_setService host id other service, ?_⟩
  intro idx
  split
  next same => rw [same]; rfl
  next => rfl

theorem Turn.turned_setQueue
    (turn : Turn host id event service queue) :
    Turned host event ((host.setService id service).setQueue id.idx queue) :=
  ⟨id, service, queue, turn, fun other => services_setService host id other service,
    fun idx => queue_setQueue (host.setService id service) queue id.idx idx⟩

theorem turned_self (host : Host Conn) (event : Event Conn) : Turned host event host := by
  refine ⟨⟨.monitor, 0⟩, _, _, .goesOn rfl id, fun other => ?_, fun idx => ?_⟩
  · split
    next same => rw [same]
    next => rfl
  · split
    next same => rw [same]
    next => rfl

theorem roll_of_phase
    {phase : Phase Conn}
    (isPhase : service.phase = phase) :
    service.roll =
      ⟨phase.called service.sendConnIds, service.reported, phase.fetched⟩ := by
  rw [VideoService.roll, isPhase]

theorem roll_setSend
    {connIds : Finset Conn}
    (isSent : service.phase = .sent connIds) :
    { service.setSend connIds with phase := .waiting ∅ }.roll = service.roll := by
  unfold VideoService.setSend VideoService.roll
  rw [isSent]
  dsimp only [Phase.called]
  split <;> rfl

end Steps

/-- Each step is a report of a connection or a step of one service. -/
theorem step_cases (host : Host Conn) (event : Event Conn) :
    (∃ conn reaches, step host event = host.report conn reaches ∧
      (Timely host event → ∀ idx, reaches idx = true → Awaited host idx conn)) ∨
    Turned host event (step host event) := by
  cases event with
  | notifyVideoFrameFetched idx conn =>
      refine .inl ⟨conn, fun other => decide (other = idx), rfl, fun timely other reached => ?_⟩
      rw [of_decide_eq_true reached]
      exact timely
  | notifyVideoFrameFetchedByConnId conn => exact .inl ⟨conn, host.knows conn, rfl, id⟩
  | new idx =>
      right
      obtain ⟨other, service, queue, turn, services, queues⟩ := turned_self host (.new idx)
      refine ⟨other, service, queue, turn, services, fun at_ => ?_⟩
      rw [← queues at_]
      refine (queue_setQueue host _ idx at_).trans ?_
      split
      next same => rw [same]
      next => rfl
  | subscribe id conn =>
      right
      simp only [step]
      exact Turn.turned (.goesOn rfl fun ended => ended)
  | unsubscribe id conn =>
      right
      simp only [step]
      exact Turn.turned (.goesOn rfl fun ended => ended)
  | send id =>
      right
      simp only [step]
      split
      · exact Turn.turned .sends
      · exact turned_self host _
  | idle id =>
      right
      simp only [step]
      split
      · exact Turn.turned (.rests rfl fun ended => absurd ended Bool.false_ne_true)
      · exact turned_self host _
  | setSend id =>
      right
      simp only [step]
      split
      next connIds isSent =>
        have sent : Turned host (.setSend id) (host.setService id
            { (host.services id).setSend connIds with phase := .waiting ∅ }) :=
          Turn.turned (.goesOn (roll_setSend isSent) fun ended => absurd ended Bool.false_ne_true)
        split
        · exact sent
        · exact sent
      · exact turned_self host _
  | tryWaitNext id =>
      right
      simp only [step]
      split
      next fetched isWaiting =>
        split
        · exact Turn.turned (.tests (.inl isWaiting))
        · split
          · exact Turn.turned (.goesOn (roll_of_phase isWaiting).symm fun ended =>
              absurd ended Bool.false_ne_true)
          · exact turned_self host _
      · exact turned_self host _
  | receive id =>
      right
      simp only [step]
      split
      next fetched conn queue isReceiving isQueue =>
        have waits : host.queue id.idx = conn :: queue := by
          rw [Host.queue, isQueue, Option.getD_some]
        refine Turn.turned_setQueue (.counts waits ?_ rfl)
        rw [roll_of_phase isReceiving]
        rfl
      · exact turned_self host _
  | expire id =>
      right
      simp only [step]
      split
      next fetched isReceiving =>
        exact Turn.turned (.goesOn (roll_of_phase isReceiving).symm fun ended =>
          absurd ended Bool.false_ne_true)
      · exact turned_self host _
  | drain id =>
      right
      simp only [step]
      split
      next fetched isDraining =>
        split
        next conn queue waits =>
          refine Turn.turned_setQueue (.counts waits ?_ rfl)
          rw [roll_of_phase isDraining]
          rfl
        next => exact Turn.turned (.tests (.inr isDraining))
      · exact turned_self host _
  | limit id =>
      right
      simp only [step]
      split
      · exact Turn.turned (.rests rfl fun _ => rfl)
      · exact turned_self host _
  | next id =>
      right
      simp only [step]
      split
      · exact Turn.turned (.rests rfl fun ended => absurd ended Bool.false_ne_true)
      · exact turned_self host _
  | bail id =>
      right
      simp only [step]
      split
      · exact Turn.turned (.rests rfl fun ended => absurd ended Bool.false_ne_true)
      · exact Turn.turned (.rests rfl fun ended => absurd ended Bool.false_ne_true)
      · exact turned_self host _

/-! ## What steps keep -/

variable {host : Host Conn} {id : ServiceId} {service : VideoService Conn}
variable {event : Event Conn} {queue : List Conn}

theorem Fresh.at_phase
    {phase : Phase Conn}
    (fresh : Fresh host)
    (isPhase : (host.services id).phase = phase) :
    RollCall.Exact
      ⟨phase.called (host.services id).sendConnIds, (host.services id).reported, phase.fetched⟩
      (host.queue id.idx) := by
  rw [← roll_of_phase isPhase]
  exact fresh id

theorem exact_of_called
    (nobody : service.roll.called = ∅)
    (queue : List Conn) :
    service.roll.Exact queue :=
  RollCall.exact_of_not_nonempty (Finset.not_nonempty_iff_eq_empty.mpr nobody) queue

/-- The test of a wait leaves it exact, or ends it. -/
theorem exact_test
    {fetched : Finset Conn}
    (exact_ : RollCall.Exact ⟨service.sendConnIds, service.reported, fetched⟩ queue) :
    (service.test fetched).roll.Exact queue := by
  unfold VideoService.test
  split
  · exact exact_of_called rfl queue
  · exact exact_

/-- Connections that are waited for report. -/
theorem Fresh.report
    (fresh : Fresh host)
    {conn : Conn}
    {reaches : Nat → Bool}
    (awaited : ∀ idx, reaches idx = true → Awaited host idx conn) :
    Fresh (host.report conn reaches) := by
  intro other
  rw [services_report]
  have subset := queue_report_subset host other.idx conn reaches
  split
  next reached =>
    rw [if_pos reached] at subset
    exact ((fresh other).answer (awaited other.idx reached other rfl)).mono subset
  next missed =>
    rw [if_neg missed] at subset
    exact (fresh other).mono subset

theorem Turn.queue_subset
    (turn : Turn host id event service queue) :
    queue ⊆ host.queue id.idx := by
  cases turn with
  | counts waits =>
      rw [waits]
      exact List.subset_cons_self _ _
  | _ => exact List.Subset.refl _

theorem Turn.exact
    (turn : Turn host id event service queue)
    (fresh : Fresh host)
    (timely : Timely host event) :
    service.roll.Exact queue := by
  cases turn with
  | goesOn same =>
      rw [same]
      exact fresh id
  | rests nobody => exact exact_of_called nobody _
  | sends =>
      have called : (if (host.services id).subscribes = ∅ then ∅
          else (host.services id).subscribes) = (host.services id).subscribes := by
        split
        next nobody => exact nobody.symm
        next => rfl
      change RollCall.Exact ⟨if _ = ∅ then ∅ else _, ∅, ∅⟩ _
      rw [called]
      exact RollCall.exact_call _ timely
  | counts waits counted =>
      have now := fresh id
      rw [waits] at now
      rw [counted]
      exact now.count
  | tests isPhase =>
      rcases isPhase with isWaiting | isDraining
      · exact exact_test (fresh.at_phase isWaiting)
      · exact exact_test (fresh.at_phase isDraining)

theorem Fresh.step
    (event : Event Conn)
    (fresh : Fresh host)
    (timely : Timely host event) :
    Fresh (FrameControl.step host event) := by
  rcases step_cases host event with
    ⟨conn, reaches, is, awaited⟩ | ⟨id, service, queue, turn, services, queues⟩
  · rw [is]
    exact fresh.report (awaited timely)
  · intro other
    rw [services, queues]
    by_cases same : other = id
    · rw [if_pos same, if_pos (congrArg ServiceId.idx same)]
      exact turn.exact fresh timely
    · rw [if_neg same]
      split
      next sameIdx => exact (fresh other).mono (sameIdx ▸ turn.queue_subset)
      next => exact fresh other

/-! ## How a wait ends -/

omit [DecidableEq Conn] in
theorem card_of_isEnded_test
    {fetched : Finset Conn}
    (ended : (service.test fetched).phase.isEnded = true) :
    service.sendConnIds.card ≤ fetched.card := by
  unfold VideoService.test at ended
  split at ended
  next enough => exact enough
  next => cases ended

/-- A wait that ends by the count has counted enough, in `try_wait_next` or on its return. -/
theorem EndsByCount.enough
    (ends : EndsByCount host event id) :
    ∃ fetched : Finset Conn,
      ((host.services id).phase = .waiting fetched ∨
        (host.services id).phase = .draining fetched) ∧
      (host.services id).sendConnIds.card ≤ fetched.card := by
  obtain ⟨notLimit, notEnded, ended⟩ := ends
  rcases step_cases host event with
    ⟨conn, reaches, is, -⟩ | ⟨other, service, queue, turn, services, -⟩
  · rw [is, services_report] at ended
    split at ended
    · exact absurd ended (by simp [notEnded])
    · exact absurd ended (by simp [notEnded])
  · rw [services] at ended
    split at ended
    next same =>
      subst same
      cases turn with
      | goesOn _ before => exact absurd (before ended) (by simp [notEnded])
      | rests _ isLimit => exact absurd (isLimit ended) notLimit
      | sends => cases ended
      | counts _ _ goesOn => exact absurd ended (by simp [goesOn])
      | tests isPhase => exact ⟨_, isPhase, card_of_isEnded_test ended⟩
    next => exact absurd ended (by simp [notEnded])

/-- In a run where frames are sent when no report waits, and only connections that are waited for
report, each connection that a frame was sent to has reported since when the wait for the frame
ends by the count. -/
theorem endsByCount_reported
    {events before after : List (Event Conn)}
    {event : Event Conn}
    {id : ServiceId}
    (timely : Along step Timely {} events)
    (split : events = before ++ event :: after)
    (ends : EndsByCount (run step {} before) event id) :
    ∀ conn ∈ ((run step {} before).services id).sendConnIds,
      conn ∈ ((run step {} before).services id).reported := by
  have initially : Fresh ({} : Host Conn) := fun _ => exact_of_called rfl _
  have fresh : Fresh (run step {} before) := by
    refine run_invariant Fresh (fun _ event => Fresh.step event) initially ?_
    exact timely.restrict ⟨event :: after, split.symm⟩
  obtain ⟨fetched, isWaiting | isDraining, enough⟩ := ends.enough
  · exact (fresh.at_phase isWaiting).complete enough
  · exact (fresh.at_phase isDraining).complete enough

/-- The first display of the host. -/
def firstDisplay : ServiceId := ⟨.monitor, 0⟩

/-- A viewer is sent a frame and reports it. -/
def promptReport : List (Event Nat) :=
  [.new 0, .subscribe firstDisplay 7, .send firstDisplay, .setSend firstDisplay,
    .notifyVideoFrameFetched 0 7, .tryWaitNext firstDisplay, .receive firstDisplay]

theorem awaited_promptReport :
    Awaited (run step {} (promptReport.take 4)) 0 7 := by
  rintro ⟨source, idx⟩ rfl nonempty
  cases source with
  | monitor => decide
  | camera => exact absurd nonempty (by decide)

/-- The report ends the wait for the frame. -/
theorem endsByCount_reported_promptReport :
    Along step Timely {} (promptReport ++ [.drain firstDisplay]) ∧
      EndsByCount (run step {} promptReport) (.drain firstDisplay) firstDisplay ∧
      ∀ conn ∈ ((run step {} promptReport).services firstDisplay).sendConnIds,
        conn ∈ ((run step {} promptReport).services firstDisplay).reported := by
  have timely : Along step Timely {} (promptReport ++ [.drain firstDisplay]) :=
    ⟨trivial, trivial, fun _ => rfl, trivial, awaited_promptReport, trivial, trivial, trivial,
      trivial⟩
  have ends : EndsByCount (run step {} promptReport) (.drain firstDisplay) firstDisplay := by
    unfold EndsByCount
    decide
  exact ⟨timely, ends, endsByCount_reported timely rfl ends⟩

/-- A viewer is sent a frame and does not fetch it in time.  It reports that frame when it is
about to be sent the next. -/
def lateReport : List (Event Nat) :=
  [.new 0, .subscribe firstDisplay 7, .send firstDisplay, .setSend firstDisplay,
    .limit firstDisplay, .next firstDisplay, .notifyVideoFrameFetched 0 7, .send firstDisplay,
    .setSend firstDisplay, .tryWaitNext firstDisplay, .receive firstDisplay]

/-- The late report ends the wait for the next frame, which the viewer has not fetched. -/
theorem late_report_counts :
    EndsByCount (run step {} lateReport) (.drain firstDisplay) firstDisplay ∧
      7 ∈ ((run step {} lateReport).services firstDisplay).sendConnIds ∧
      7 ∉ ((run step {} lateReport).services firstDisplay).reported := by
  unfold EndsByCount
  decide

end FrameControl
end Video
end OneDesk
