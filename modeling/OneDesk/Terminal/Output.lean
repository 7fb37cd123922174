import OneDesk.Lib.Run
import OneDesk.Terminal.Session

/-!
# Terminal output

The connections of one persistent terminal service, each with the loop that
`terminal_service::run` starts for it.  A loop checks that its service is active
and has subscribers, reads the outputs of all sessions and sends the responses
one by one to the subscribers of its own service, which is the one connection.
-/

namespace OneDesk
namespace Terminal

open OneDesk.Lib

/-- A connection to the terminal service with its loop. -/
structure TerminalConnection where
  /-- Whether the connection subscribes to the service of its loop. -/
  subscribed : Bool
  /-- Whether the service of the loop is active. -/
  active : Bool
  /-- Whether the loop has found the service active and subscribed. -/
  ready : Bool
  /-- What the loop has read and not yet sent. -/
  pending : List TerminalResponse
  /-- What the loop has sent to the connection. -/
  sent : List TerminalResponse
  /-- The terminals that the connection has open. -/
  holds : List ℤ
  /-- The chunks that the connection is due, with their terminals. -/
  owed : List (ℤ × Bytes)

/-- One persistent service with its connections. -/
structure Terminals where
  service : PersistentTerminalService
  connections : Table ℤ TerminalConnection
  /-- The chunks read while no connection had their terminal open. -/
  unclaimed : List (ℤ × Bytes)

/-- One step of a thread. -/
inductive OutputEvent
  /-- `terminal_service::new` for a new connection. -/
  | create (conn : ℤ)
  | onSubscribe (conn : ℤ)
  | onUnsubscribe (conn : ℤ)
  /-- `join` when the connection is dropped. -/
  | join (conn : ℤ)
  | open (conn : ℤ) (terminalId : ℤ) (rows cols : ℕ) (spawn : Except String ℕ)
  /-- The reader thread of a terminal reads a chunk. -/
  | output (terminalId : ℤ) (chunk : Bytes)
  /-- The reader thread of a terminal ends. -/
  | finish (terminalId : ℤ) (exitCode : ℤ)
  /-- A loop finds its service `ok`, or not. -/
  | check (conn : ℤ)
  /-- A loop calls `read_outputs`, which locks some sessions in the order of the map. -/
  | readOutputs (conn : ℤ) (order : List ℤ)
  /-- A loop sends its next response. -/
  | send (conn : ℤ)

namespace TerminalConnection

variable (connection : TerminalConnection)

/-- A connection that has not yet subscribed. -/
def new : TerminalConnection :=
  { subscribed := false
    active := true
    ready := false
    pending := []
    sent := []
    holds := []
    owed := [] }

/-- Whether the loop may call `read_outputs`. -/
def mayRead : Bool :=
  connection.ready && connection.pending.isEmpty

/-- `sp.send` of the next response. -/
def send : TerminalConnection :=
  match connection.pending with
  | [] => connection
  | response :: rest =>
      { connection with
        pending := rest
        sent := if connection.subscribed then connection.sent ++ [response]
          else connection.sent }

/-- What is still under way to the connection. -/
def inFlight : List TerminalResponse :=
  if connection.subscribed then connection.pending else []

end TerminalConnection

namespace Terminals

variable (compress : Compress) (terminals : Terminals)

/-- The chunks that a call of `read_outputs` takes, with their terminals. -/
def taken (order : List ℤ) : List (ℤ × Bytes) :=
  (terminals.service.locked order).flatMap fun (id, session) =>
    session.receivedData.map fun chunk => (id, chunk)

/-- Whether some connection has a terminal open. -/
def held (terminalId : ℤ) : Bool :=
  decide (0 < (terminals.connections.retain fun _ connection =>
    decide (terminalId ∈ connection.holds)).length)

/-- A connection drops: it has no terminal open any more. -/
def dropConnection (conn : ℤ) (change : TerminalConnection → TerminalConnection) : Terminals :=
  { terminals with
    connections := terminals.connections.modify conn fun connection =>
      { change connection with holds := [] } }

/-- `handle_open` of a connection, which is then due what nobody could claim. -/
def openTerminal (conn terminalId : ℤ) (rows cols : ℕ) (spawn : Except String ℕ) :
    Terminals :=
  match terminals.connections.lookup conn with
  | none => terminals
  | some connection =>
      if !connection.active then terminals
      else
        match terminals.service.handleOpen terminalId rows cols spawn with
        | (_, .error _) => terminals
        | (service, .ok _) =>
            let due := terminals.unclaimed.filter fun chunk => chunk.1 = terminalId
            { service
              connections := terminals.connections.insert conn
                { connection with
                  holds := terminalId :: connection.holds
                  owed := connection.owed ++ due }
              unclaimed := terminals.unclaimed.filter fun chunk => chunk.1 ≠ terminalId }

/-- `read_outputs` of a loop. -/
def readOutputs (conn : ℤ) (order : List ℤ) : Terminals :=
  match terminals.connections.lookup conn with
  | none => terminals
  | some connection =>
      if !connection.mayRead then terminals
      else
        let taken := terminals.taken order
        let responses := terminals.service.responses compress order
        { service := terminals.service.afterRead terminals.service.isPersistent order
          connections := Table.mapValues
            (fun _ other =>
              { other with
                owed := other.owed ++ taken.filter fun chunk => chunk.1 ∈ other.holds })
            (terminals.connections.insert conn
              { connection with ready := false, pending := responses })
          unclaimed := terminals.unclaimed ++
            taken.filter fun chunk => !terminals.held chunk.1 }

/-- One step. -/
def step (event : OutputEvent) : Terminals :=
  match event with
  | .create conn =>
      if (terminals.connections.lookup conn).isSome then terminals
      else
        { terminals with
          service := terminals.service.resetStatus true
          connections := terminals.connections.insert conn .new }
  | .onSubscribe conn =>
      { terminals with
        connections := terminals.connections.modify conn fun connection =>
          { connection with subscribed := true } }
  | .onUnsubscribe conn =>
      terminals.dropConnection conn fun connection => { connection with subscribed := false }
  | .join conn =>
      terminals.dropConnection conn fun connection => { connection with active := false }
  | .open conn terminalId rows cols spawn =>
      terminals.openTerminal conn terminalId rows cols spawn
  | .output terminalId chunk =>
      { terminals with
        service := { terminals.service with
          sessions := terminals.service.sessions.modify terminalId (·.putOutput chunk) } }
  | .finish terminalId exitCode =>
      { terminals with
        service := { terminals.service with
          sessions := terminals.service.sessions.modify terminalId (·.finishReader exitCode) } }
  | .check conn =>
      { terminals with
        connections := terminals.connections.modify conn fun connection =>
          { connection with
            ready := connection.active && connection.subscribed && connection.pending.isEmpty } }
  | .readOutputs conn order => terminals.readOutputs compress conn order
  | .send conn =>
      { terminals with connections := terminals.connections.modify conn (·.send) }

/-- A persistent service that has just been created. -/
def start (serviceId : String) (isSpecifiedUser : Bool) (now : ℕ) : Terminals :=
  { service := .new serviceId true isSpecifiedUser now
    connections := ∅
    unclaimed := [] }

end Terminals

/-- The terminal whose data a response carries. -/
def TerminalResponse.dataOf : TerminalResponse → Option ℤ
  | .data terminalId _ _ => some terminalId
  | _ => none

/-- The terminal whose end a response reports. -/
def TerminalResponse.closedOf : TerminalResponse → Option ℤ
  | .closed terminalId _ => some terminalId
  | _ => none

/-- Some of the responses carry data of a terminal. -/
def HasData (terminalId : ℤ) (responses : List TerminalResponse) : Prop :=
  ∃ response ∈ responses, response.dataOf = some terminalId

/-- One of the responses reports the end of a terminal. -/
def HasClosed (terminalId : ℤ) (responses : List TerminalResponse) : Prop :=
  ∃ response ∈ responses, response.closedOf = some terminalId

namespace Terminals

variable (compress : Compress) (terminals : Terminals)

/-- Every connection has been sent, or is about to be sent, exactly the chunks that it
is due, in order; and every end is reported after the last chunk. -/
structure Delivered : Prop where
  chunks : ∀ conn connection, terminals.connections.lookup conn = some connection →
    (connection.sent ++ connection.inFlight).filter (fun response => response.dataOf.isSome) =
      connection.owed.map fun chunk => dataResponse compress chunk.1 chunk.2
  /-- No chunk of a terminal is left once its end has been reported. -/
  closedLast : ∀ conn connection terminalId,
    terminals.connections.lookup conn = some connection →
    HasClosed terminalId connection.sent →
    (∀ session, terminals.service.sessions.lookup terminalId = some session →
      session.output = []) ∧
    ∀ other otherConnection, terminals.connections.lookup other = some otherConnection →
      ¬HasData terminalId otherConnection.pending
  /-- An end that was noticed is reported. -/
  closedKept : ∀ terminalId session,
    terminals.service.sessions.lookup terminalId = some session →
    session.closedMessageSent = true →
    ∃ conn connection, terminals.connections.lookup conn = some connection ∧
      HasClosed terminalId (connection.sent ++ connection.inFlight)

/-- A loop reads only for its own connection: that one subscribes, and it is the only
one that has open the terminals whose chunks are taken; and an end is noticed when no
chunk is left in the channel or with another loop. -/
structure ReadsAlone (conn : ℤ) (connection : TerminalConnection) (order : List ℤ) :
    Prop where
  subscribed : terminals.service.responses compress order ≠ [] →
    connection.subscribed = true
  holds : ∀ chunk ∈ terminals.taken order, chunk.1 ∈ connection.holds
  alone : ∀ chunk ∈ terminals.taken order, ∀ other otherConnection,
    terminals.connections.lookup other = some otherConnection →
    chunk.1 ∈ otherConnection.holds → other = conn
  drained : ∀ id session, (id, session) ∈ terminals.service.locked order →
    session.shouldSendClosed = true →
    (session.isOpened = true ∨ session.output = []) ∧
    ∀ other otherConnection, terminals.connections.lookup other = some otherConnection →
      ¬HasData id otherConnection.pending

/-- The steps of connections that do not get into each other's way. -/
def Careful (event : OutputEvent) : Prop :=
  match event with
  | .readOutputs conn order => ∀ connection,
      terminals.connections.lookup conn = some connection → connection.mayRead = true →
      terminals.ReadsAlone compress conn connection order
  | .onUnsubscribe conn => ∀ connection,
      terminals.connections.lookup conn = some connection → connection.pending = []
  | _ => True

/-- The end of a terminal has been noticed. -/
def Noticed (terminalId : ℤ) : Prop :=
  ∃ session, terminals.service.sessions.lookup terminalId = some session ∧
    session.closedMessageSent = true

/-- What careful steps keep. -/
structure Sound : Prop where
  isPersistent : terminals.service.isPersistent = true
  unclaimed : terminals.unclaimed = []
  chunks : ∀ conn connection, terminals.connections.lookup conn = some connection →
    (connection.sent ++ connection.pending).filter (fun response => response.dataOf.isSome) =
      connection.owed.map fun chunk => dataResponse compress chunk.1 chunk.2
  subscribed : ∀ conn connection, terminals.connections.lookup conn = some connection →
    connection.pending ≠ [] → connection.subscribed = true
  drained : ∀ terminalId session,
    terminals.service.sessions.lookup terminalId = some session →
    session.closedMessageSent = true → session.readerFinished = true ∧ session.output = []
  closedSent : ∀ conn connection terminalId,
    terminals.connections.lookup conn = some connection →
    HasClosed terminalId connection.sent →
    terminals.Noticed terminalId ∧
    ∀ other otherConnection, terminals.connections.lookup other = some otherConnection →
      ¬HasData terminalId otherConnection.pending
  closedPending : ∀ conn connection terminalId,
    terminals.connections.lookup conn = some connection →
    ∀ before response after, connection.pending = before ++ response :: after →
    response.closedOf = some terminalId →
    terminals.Noticed terminalId ∧ ¬HasData terminalId after ∧
    ∀ other otherConnection, terminals.connections.lookup other = some otherConnection →
      other ≠ conn → ¬HasData terminalId otherConnection.pending
  closedKept : ∀ terminalId, terminals.Noticed terminalId →
    ∃ conn connection, terminals.connections.lookup conn = some connection ∧
      HasClosed terminalId (connection.sent ++ connection.pending)

variable {compress terminals}

theorem Sound.delivered
    (sound : terminals.Sound compress) :
    terminals.Delivered compress := by
  have inFlight : ∀ conn connection, terminals.connections.lookup conn = some connection →
      connection.inFlight = connection.pending := by
    intro conn connection found
    unfold TerminalConnection.inFlight
    split_ifs with subscribed
    · rfl
    · by_contra waiting
      exact subscribed (sound.subscribed conn connection found fun none => waiting none.symm)
  refine ⟨?_, ?_, ?_⟩
  · intro conn connection found
    rw [inFlight conn connection found]
    exact sound.chunks conn connection found
  · intro conn connection terminalId found closed
    obtain ⟨⟨session, session_eq, noticed⟩, noData⟩ :=
      sound.closedSent conn connection terminalId found closed
    refine ⟨?_, noData⟩
    intro other other_eq
    obtain rfl : session = other := Option.some_inj.mp (session_eq.symm.trans other_eq)
    exact (sound.drained terminalId session session_eq noticed).2
  · intro terminalId session session_eq noticed
    obtain ⟨conn, connection, found, closed⟩ :=
      sound.closedKept terminalId ⟨session, session_eq, noticed⟩
    refine ⟨conn, connection, found, ?_⟩
    rwa [inFlight conn connection found]

/-- What a step leaves alone that neither reads nor sends. -/
structure Quiet (before after : Terminals) : Prop where
  isPersistent : after.service.isPersistent = before.service.isPersistent ∨
    after.service.isPersistent = true
  unclaimed : before.unclaimed = [] → after.unclaimed = []
  connections : ∀ conn connection, after.connections.lookup conn = some connection →
    (∃ earlier, before.connections.lookup conn = some earlier ∧
      connection.pending = earlier.pending ∧ connection.sent = earlier.sent ∧
      (before.unclaimed = [] → connection.owed = earlier.owed) ∧
      (earlier.subscribed = true → earlier.pending ≠ [] → connection.subscribed = true)) ∨
    connection.pending = [] ∧ connection.sent = [] ∧ connection.owed = []
  stays : ∀ conn connection, before.connections.lookup conn = some connection →
    ∃ later, after.connections.lookup conn = some later ∧
      later.pending = connection.pending ∧ later.sent = connection.sent
  sessions : ∀ terminalId session,
    after.service.sessions.lookup terminalId = some session →
    session.closedMessageSent = true →
    ∃ earlier, before.service.sessions.lookup terminalId = some earlier ∧
      earlier.closedMessageSent = true ∧
      (earlier.readerFinished = true → earlier.output = [] →
        session.readerFinished = true ∧ session.output = [])
  noticed : ∀ terminalId, before.Noticed terminalId → after.Noticed terminalId

/-- A connection that a step leaves as it is. -/
theorem connection_stays
    {before : Terminals}
    {conn : ℤ}
    {connection : TerminalConnection}
    (found : before.connections.lookup conn = some connection) :
    (∃ earlier, before.connections.lookup conn = some earlier ∧
      connection.pending = earlier.pending ∧ connection.sent = earlier.sent ∧
      (before.unclaimed = [] → connection.owed = earlier.owed) ∧
      (earlier.subscribed = true → earlier.pending ≠ [] → connection.subscribed = true)) ∨
    connection.pending = [] ∧ connection.sent = [] ∧ connection.owed = [] :=
  .inl ⟨connection, found, rfl, rfl, fun _ => rfl, fun subscribed _ => subscribed⟩

/-- A session that a step leaves as it is, or whose other fields it changes. -/
theorem session_stays
    {before : Terminals}
    {terminalId : ℤ}
    {earlier session : TerminalSession}
    (found : before.service.sessions.lookup terminalId = some earlier)
    (noticed : earlier.closedMessageSent = true)
    (finished : session.readerFinished = earlier.readerFinished)
    (output : session.output = earlier.output) :
    ∃ earlier, before.service.sessions.lookup terminalId = some earlier ∧
      earlier.closedMessageSent = true ∧
      (earlier.readerFinished = true → earlier.output = [] →
        session.readerFinished = true ∧ session.output = []) :=
  ⟨earlier, found, noticed, fun ended empty => ⟨finished.trans ended, output.trans empty⟩⟩

/-- A quiet step gives no loop data to send. -/
theorem Quiet.noData
    {before after : Terminals}
    (quiet : Quiet before after)
    {terminalId : ℤ}
    {other : ℤ}
    (noData : ∀ connection, before.connections.lookup other = some connection →
      ¬HasData terminalId connection.pending)
    {connection : TerminalConnection}
    (found : after.connections.lookup other = some connection) :
    ¬HasData terminalId connection.pending := by
  rcases quiet.connections other connection found with
    ⟨earlier, earlier_eq, pending, -⟩ | ⟨pending, -⟩
  · rw [pending]
    exact noData earlier earlier_eq
  · rintro ⟨response, member, -⟩
    simp [pending] at member

theorem Quiet.sound
    {before after : Terminals}
    (quiet : Quiet before after)
    (sound : before.Sound compress) :
    after.Sound compress where
  isPersistent := quiet.isPersistent.elim (fun same => same.trans sound.isPersistent) id
  unclaimed := quiet.unclaimed sound.unclaimed
  chunks := by
    intro conn connection found
    rcases quiet.connections conn connection found with
      ⟨earlier, earlier_eq, pending, sent, owed, -⟩ | ⟨pending, sent, owed⟩
    · rw [pending, sent, owed sound.unclaimed]
      exact sound.chunks conn earlier earlier_eq
    · rw [pending, sent, owed]
      rfl
  subscribed := by
    intro conn connection found waiting
    rcases quiet.connections conn connection found with
      ⟨earlier, earlier_eq, pending, -, -, subscribed⟩ | ⟨pending, -⟩
    · rw [pending] at waiting
      exact subscribed (sound.subscribed conn earlier earlier_eq waiting) waiting
    · exact absurd pending waiting
  drained := by
    intro terminalId session found noticed
    obtain ⟨earlier, earlier_eq, earlierNoticed, kept⟩ :=
      quiet.sessions terminalId session found noticed
    obtain ⟨finished, empty⟩ := sound.drained terminalId earlier earlier_eq earlierNoticed
    exact kept finished empty
  closedSent := by
    intro conn connection terminalId found closed
    rcases quiet.connections conn connection found with
      ⟨earlier, earlier_eq, -, sent, -⟩ | ⟨-, sent, -⟩
    · rw [sent] at closed
      obtain ⟨noticed, noData⟩ := sound.closedSent conn earlier terminalId earlier_eq closed
      exact ⟨quiet.noticed terminalId noticed,
        fun other _ other_eq => quiet.noData (noData other) other_eq⟩
    · obtain ⟨response, member, -⟩ := closed
      simp [sent] at member
  closedPending := by
    intro conn connection terminalId found first response rest split closed
    rcases quiet.connections conn connection found with
      ⟨earlier, earlier_eq, pending, -⟩ | ⟨pending, -⟩
    · rw [pending] at split
      obtain ⟨noticed, noDataAfter, noData⟩ := sound.closedPending conn earlier terminalId
        earlier_eq first response rest split closed
      refine ⟨quiet.noticed terminalId noticed, noDataAfter, ?_⟩
      intro other _ other_eq different
      exact quiet.noData (fun earlier found => noData other earlier found different) other_eq
    · simp [pending] at split
  closedKept := by
    rintro terminalId ⟨session, found, noticed⟩
    obtain ⟨earlier, earlier_eq, earlierNoticed, -⟩ :=
      quiet.sessions terminalId session found noticed
    obtain ⟨conn, connection, connection_eq, closed⟩ :=
      sound.closedKept terminalId ⟨earlier, earlier_eq, earlierNoticed⟩
    obtain ⟨later, later_eq, pending, sent⟩ := quiet.stays conn connection connection_eq
    refine ⟨conn, later, later_eq, ?_⟩
    rwa [pending, sent]

/-- A step that changes one connection, and nothing that is due or under way. -/
theorem Quiet.modify
    (terminals : Terminals)
    (conn : ℤ)
    (change : TerminalConnection → TerminalConnection)
    (pending : ∀ connection, (change connection).pending = connection.pending)
    (sent : ∀ connection, (change connection).sent = connection.sent)
    (owed : ∀ connection, (change connection).owed = connection.owed)
    (subscribed : ∀ connection, terminals.connections.lookup conn = some connection →
      connection.subscribed = true → connection.pending ≠ [] →
      (change connection).subscribed = true) :
    Quiet terminals
      { terminals with connections := terminals.connections.modify conn change } where
  isPersistent := .inl rfl
  unclaimed none := none
  connections := by
    intro other connection found
    rw [Table.lookup_modify] at found
    split at found
    case isTrue same =>
      obtain ⟨earlier, earlier_eq, rfl⟩ := Option.map_eq_some_iff.mp found
      exact .inl ⟨earlier, earlier_eq, pending earlier, sent earlier, fun _ => owed earlier,
        subscribed earlier (same ▸ earlier_eq)⟩
    case isFalse =>
      exact connection_stays found
  stays := by
    intro other connection found
    by_cases same : other = conn
    · refine ⟨change connection, ?_, pending connection, sent connection⟩
      rw [Table.lookup_modify, if_pos same, found, Option.map_some]
    · refine ⟨connection, ?_, rfl, rfl⟩
      rw [Table.lookup_modify, if_neg same, found]
  sessions _ _ found noticed := session_stays found noticed rfl rfl
  noticed _ noticed := noticed

/-- A step that changes one session. -/
theorem Quiet.modifySession
    (terminals : Terminals)
    (terminalId : ℤ)
    (change : TerminalSession → TerminalSession)
    (closed : ∀ session, (change session).closedMessageSent = session.closedMessageSent)
    (kept : ∀ session, session.readerFinished = true → session.output = [] →
      (change session).readerFinished = true ∧ (change session).output = []) :
    Quiet terminals
      { terminals with
        service := { terminals.service with
          sessions := terminals.service.sessions.modify terminalId change } } where
  isPersistent := .inl rfl
  unclaimed none := none
  connections _ _ found := connection_stays found
  stays _ connection found := ⟨connection, found, rfl, rfl⟩
  sessions := by
    intro other session found noticed
    rw [Table.lookup_modify] at found
    split at found
    case isTrue =>
      obtain ⟨earlier, earlier_eq, rfl⟩ := Option.map_eq_some_iff.mp found
      exact ⟨earlier, earlier_eq, (closed earlier).symm.trans noticed, kept earlier⟩
    case isFalse =>
      exact session_stays found noticed rfl rfl
  noticed := by
    rintro other ⟨session, found, noticed⟩
    by_cases same : other = terminalId
    · refine ⟨change session, ?_, (closed session).trans noticed⟩
      rw [Table.lookup_modify, if_pos same, found, Option.map_some]
    · refine ⟨session, ?_, noticed⟩
      rw [Table.lookup_modify, if_neg same, found]

theorem Quiet.refl
    (terminals : Terminals) :
    Quiet terminals terminals where
  isPersistent := .inl rfl
  unclaimed none := none
  connections _ _ found := connection_stays found
  stays _ connection found := ⟨connection, found, rfl, rfl⟩
  sessions _ _ found noticed := session_stays found noticed rfl rfl
  noticed _ noticed := noticed

theorem quiet_create
    {conn : ℤ}
    (fresh : terminals.connections.lookup conn = none) :
    Quiet terminals
      { terminals with
        service := terminals.service.resetStatus true
        connections := terminals.connections.insert conn .new } where
  isPersistent := .inr rfl
  unclaimed none := none
  connections := by
    intro other connection found
    rw [Table.lookup_insert_eq] at found
    split at found
    case isTrue =>
      obtain rfl := Option.some_inj.mp found
      exact .inr ⟨rfl, rfl, rfl⟩
    case isFalse =>
      exact connection_stays found
  stays := by
    intro other connection found
    have different : other ≠ conn := by
      rintro rfl
      rw [fresh] at found
      cases found
    refine ⟨connection, ?_, rfl, rfl⟩
    rw [Table.lookup_insert_eq, if_neg different, found]
  sessions := by
    intro terminalId session found noticed
    rw [PersistentTerminalService.resetStatus, Table.lookup_mapValues] at found
    obtain ⟨earlier, earlier_eq, rfl⟩ := Option.map_eq_some_iff.mp found
    exact session_stays earlier_eq noticed rfl rfl
  noticed := by
    rintro terminalId ⟨session, found, noticed⟩
    refine ⟨{ session with isOpened := false }, ?_, noticed⟩
    rw [PersistentTerminalService.resetStatus, Table.lookup_mapValues, found, Option.map_some]

/-- Opening a terminal changes a session only in that it is open. -/
theorem handleOpen_sessions
    {service after : PersistentTerminalService}
    {terminalId : ℤ}
    {rows cols : ℕ}
    {spawn : Except String ℕ}
    {response : Option TerminalResponse}
    (opened : service.handleOpen terminalId rows cols spawn = (after, .ok response)) :
    after.isPersistent = service.isPersistent ∧
    ∃ session, after.sessions = service.sessions.insert terminalId session ∧
      ((∃ earlier, service.sessions.lookup terminalId = some earlier ∧
          session = { earlier with isOpened := true }) ∨
        service.sessions.lookup terminalId = none ∧ session.closedMessageSent = false) := by
  unfold PersistentTerminalService.handleOpen at opened
  split at opened
  · rename_i earlier found
    obtain ⟨rfl, -⟩ := Prod.mk.inj opened
    exact ⟨rfl, _, rfl, .inl ⟨earlier, found, rfl⟩⟩
  · rename_i absent
    split at opened
    · cases (Prod.mk.inj opened).2
    · obtain ⟨rfl, -⟩ := Prod.mk.inj opened
      exact ⟨rfl, _, rfl, .inr ⟨absent, rfl⟩⟩

theorem quiet_open
    (terminals : Terminals)
    (conn terminalId : ℤ)
    (rows cols : ℕ)
    (spawn : Except String ℕ) :
    Quiet terminals (terminals.openTerminal conn terminalId rows cols spawn) := by
  unfold openTerminal
  split
  · exact .refl terminals
  · rename_i connection connection_eq
    split_ifs
    · exact .refl terminals
    · split
      · exact .refl terminals
      · rename_i service response opened
        obtain ⟨persistent, session, sessions, origin⟩ := handleOpen_sessions opened
        exact {
          isPersistent := .inl persistent
          unclaimed := by
            intro none
            simp [none]
          connections := by
            intro other later found
            rw [Table.lookup_insert_eq] at found
            split at found
            case isTrue same =>
              obtain rfl := Option.some_inj.mp found
              refine .inl ⟨connection, same ▸ connection_eq, rfl, rfl, ?_,
                fun subscribed _ => subscribed⟩
              intro none
              simp [none]
            case isFalse =>
              exact connection_stays found
          stays := by
            intro other earlier found
            by_cases same : other = conn
            · obtain rfl : connection = earlier :=
                Option.some_inj.mp (connection_eq.symm.trans (same ▸ found))
              exact ⟨_, (Table.lookup_insert_eq conn other _ _).trans (if_pos same), rfl, rfl⟩
            · refine ⟨earlier, ?_, rfl, rfl⟩
              rw [Table.lookup_insert_eq, if_neg same, found]
          sessions := by
            intro other later found noticed
            rw [sessions, Table.lookup_insert_eq] at found
            split at found
            case isTrue same =>
              obtain rfl := Option.some_inj.mp found
              rcases origin with ⟨earlier, earlier_eq, rfl⟩ | ⟨-, open_eq⟩
              · have here : terminals.service.sessions.lookup other = some earlier :=
                  same ▸ earlier_eq
                exact session_stays here noticed rfl rfl
              · rw [open_eq] at noticed
                cases noticed
            case isFalse =>
              exact session_stays found noticed rfl rfl
          noticed := by
            rintro other ⟨earlier, found, noticed⟩
            by_cases same : other = terminalId
            · refine ⟨session, ?_, ?_⟩
              · rw [sessions, Table.lookup_insert_eq, if_pos same]
              · rcases origin with ⟨before, before_eq, rfl⟩ | ⟨absent, -⟩
                · obtain rfl : before = earlier :=
                    Option.some_inj.mp (before_eq.symm.trans (same ▸ found))
                  exact noticed
                · rw [same, absent] at found
                  cases found
            · refine ⟨earlier, ?_, noticed⟩
              rw [sessions, Table.lookup_insert_eq, if_neg same, found] }

theorem HasData.of_cons
    {terminalId : ℤ}
    {response : TerminalResponse}
    {rest : List TerminalResponse}
    (data : HasData terminalId rest) :
    HasData terminalId (response :: rest) :=
  let ⟨other, member, isData⟩ := data
  ⟨other, List.mem_cons_of_mem response member, isData⟩

/-- A loop with nothing to send leaves its connection as it is. -/
theorem modify_send_of_nil
    {conn : ℤ}
    (nothing : ∀ connection, terminals.connections.lookup conn = some connection →
      connection.pending = []) :
    terminals.connections.modify conn (·.send) = terminals.connections := by
  apply Finmap.ext_lookup
  intro other
  rw [Table.lookup_modify]
  split
  case isTrue same =>
    cases found : terminals.connections.lookup other with
    | none => rfl
    | some connection =>
        have pending := nothing connection (same ▸ found)
        simp [TerminalConnection.send, pending]
  case isFalse => rfl

section Send

variable {conn : ℤ} {connection : TerminalConnection} {response : TerminalResponse}
variable {rest : List TerminalResponse}

/-- After a connection has sent, it is found as sent, and the others as they were. -/
theorem lookup_send
    (connection_eq : terminals.connections.lookup conn = some connection)
    {other : ℤ}
    {later : TerminalConnection}
    (found : (terminals.connections.modify conn (·.send)).lookup other = some later) :
    other = conn ∧ later = connection.send ∨
      other ≠ conn ∧ terminals.connections.lookup other = some later := by
  rw [Table.lookup_modify] at found
  split at found
  case isTrue same =>
    rw [same, connection_eq, Option.map_some] at found
    exact .inl ⟨same, (Option.some_inj.mp found).symm⟩
  case isFalse different => exact .inr ⟨different, found⟩

theorem Sound.send_eq
    (sound : terminals.Sound compress)
    (connection_eq : terminals.connections.lookup conn = some connection)
    (pending : connection.pending = response :: rest) :
    connection.send =
      { connection with pending := rest, sent := connection.sent ++ [response] } := by
  have subscribed := sound.subscribed conn connection connection_eq (by simp [pending])
  simp [TerminalConnection.send, pending, subscribed]

/-- Where no data of a terminal waited, none waits after a response is sent. -/
theorem Sound.noData_send
    (sound : terminals.Sound compress)
    (connection_eq : terminals.connections.lookup conn = some connection)
    (pending : connection.pending = response :: rest)
    {terminalId other : ℤ}
    (none : ∀ earlier, terminals.connections.lookup other = some earlier →
      ¬HasData terminalId earlier.pending)
    {later : TerminalConnection}
    (found : (terminals.connections.modify conn (·.send)).lookup other = some later) :
    ¬HasData terminalId later.pending := by
  rcases lookup_send connection_eq found with ⟨rfl, rfl⟩ | ⟨-, earlier⟩
  · rw [sound.send_eq connection_eq pending]
    intro data
    apply none connection connection_eq
    rw [pending]
    exact HasData.of_cons data
  · exact none later earlier

/-- Where an end was sent, no data of its terminal waits after a response is sent. -/
theorem Sound.closedSent_send
    (sound : terminals.Sound compress)
    (connection_eq : terminals.connections.lookup conn = some connection)
    (pending : connection.pending = response :: rest)
    {other : ℤ}
    {later : TerminalConnection}
    {terminalId : ℤ}
    (found : (terminals.connections.modify conn (·.send)).lookup other = some later)
    (closed : HasClosed terminalId later.sent) :
    terminals.Noticed terminalId ∧
      ∀ each eachLater,
        (terminals.connections.modify conn (·.send)).lookup each = some eachLater →
        ¬HasData terminalId eachLater.pending := by
  have already : ∀ earlier, terminals.connections.lookup other = some earlier →
      HasClosed terminalId earlier.sent →
      terminals.Noticed terminalId ∧ ∀ each eachLater,
        (terminals.connections.modify conn (·.send)).lookup each = some eachLater →
        ¬HasData terminalId eachLater.pending := by
    intro earlier earlier_eq closed
    obtain ⟨noticed, none⟩ := sound.closedSent other earlier terminalId earlier_eq closed
    exact ⟨noticed, fun each _ each_eq =>
      sound.noData_send connection_eq pending (none each) each_eq⟩
  rcases lookup_send connection_eq found with ⟨rfl, rfl⟩ | ⟨-, earlier⟩
  · rw [sound.send_eq connection_eq pending] at closed
    obtain ⟨reported, member, closes⟩ := closed
    rcases List.mem_append.mp member with before | now
    · exact already connection connection_eq ⟨reported, before, closes⟩
    · obtain rfl := List.mem_singleton.mp now
      obtain ⟨noticed, noneAfter, noneElse⟩ := sound.closedPending other connection terminalId
        connection_eq [] reported rest pending closes
      refine ⟨noticed, fun each eachLater each_eq => ?_⟩
      rcases lookup_send connection_eq each_eq with ⟨rfl, rfl⟩ | ⟨different, each_eq⟩
      · rw [sound.send_eq connection_eq pending]
        exact noneAfter
      · exact noneElse each eachLater each_eq different
  · exact already later earlier closed

/-- Where an end waits, no data of its terminal waits behind it or anywhere else, also after a
response is sent. -/
theorem Sound.closedPending_send
    (sound : terminals.Sound compress)
    (connection_eq : terminals.connections.lookup conn = some connection)
    (pending : connection.pending = response :: rest)
    {other : ℤ}
    {later : TerminalConnection}
    {terminalId : ℤ}
    (found : (terminals.connections.modify conn (·.send)).lookup other = some later)
    {first last : List TerminalResponse}
    {reported : TerminalResponse}
    (split : later.pending = first ++ reported :: last)
    (closes : reported.closedOf = some terminalId) :
    terminals.Noticed terminalId ∧ ¬HasData terminalId last ∧
      ∀ each eachLater,
        (terminals.connections.modify conn (·.send)).lookup each = some eachLater →
        each ≠ other → ¬HasData terminalId eachLater.pending := by
  rcases lookup_send connection_eq found with ⟨rfl, rfl⟩ | ⟨-, earlier⟩
  · have whole : connection.pending = (response :: first) ++ reported :: last := by
      have rest_eq : rest = first ++ reported :: last := by
        rwa [sound.send_eq connection_eq pending] at split
      rw [pending, List.cons_append, rest_eq]
    obtain ⟨noticed, noneAfter, noneElse⟩ := sound.closedPending other connection terminalId
      connection_eq (response :: first) reported last whole closes
    exact ⟨noticed, noneAfter, fun each _ each_eq different =>
      sound.noData_send connection_eq pending (fun _ eq => noneElse each _ eq different)
        each_eq⟩
  · obtain ⟨noticed, noneAfter, noneElse⟩ := sound.closedPending other later terminalId
      earlier first reported last split closes
    exact ⟨noticed, noneAfter, fun each _ each_eq different =>
      sound.noData_send connection_eq pending (fun _ eq => noneElse each _ eq different)
        each_eq⟩

/-- Sending a response moves it from what is under way to what was sent. -/
theorem sound_send
    (sound : terminals.Sound compress)
    (connection_eq : terminals.connections.lookup conn = some connection)
    (pending : connection.pending = response :: rest) :
    Sound compress
      { terminals with connections := terminals.connections.modify conn (·.send) } where
  isPersistent := sound.isPersistent
  unclaimed := sound.unclaimed
  chunks := by
    intro other later found
    rcases lookup_send connection_eq found with ⟨rfl, rfl⟩ | ⟨-, earlier⟩
    · have chunks := sound.chunks other connection connection_eq
      rw [pending] at chunks
      rw [sound.send_eq connection_eq pending, List.append_assoc, List.singleton_append]
      exact chunks
    · exact sound.chunks other later earlier
  subscribed := by
    intro other later found waiting
    rcases lookup_send connection_eq found with ⟨rfl, rfl⟩ | ⟨-, earlier⟩
    · rw [sound.send_eq connection_eq pending]
      exact sound.subscribed other connection connection_eq (by simp [pending])
    · exact sound.subscribed other later earlier waiting
  drained := sound.drained
  closedSent _ _ _ found closed := sound.closedSent_send connection_eq pending found closed
  closedPending _ _ _ found _ _ _ split closes :=
    sound.closedPending_send connection_eq pending found split closes
  closedKept := by
    intro terminalId noticed
    obtain ⟨other, earlier, earlier_eq, closed⟩ := sound.closedKept terminalId noticed
    by_cases same : other = conn
    · obtain rfl : connection = earlier :=
        Option.some_inj.mp (connection_eq.symm.trans (same ▸ earlier_eq))
      refine ⟨other, connection.send, ?_, ?_⟩
      · rw [Table.lookup_modify, if_pos same, same, connection_eq, Option.map_some]
      · rw [pending] at closed
        rw [sound.send_eq connection_eq pending, List.append_assoc, List.singleton_append]
        exact closed
    · refine ⟨other, earlier, ?_, closed⟩
      rw [Table.lookup_modify, if_neg same, earlier_eq]

end Send

theorem dataOf_dataResponse
    (compress : Compress)
    (terminalId : ℤ)
    (chunk : Bytes) :
    (dataResponse compress terminalId chunk).dataOf = some terminalId := by
  unfold dataResponse
  split_ifs <;> rfl

theorem closedOf_dataResponse
    (compress : Compress)
    (terminalId : ℤ)
    (chunk : Bytes) :
    (dataResponse compress terminalId chunk).closedOf = none := by
  unfold dataResponse
  split_ifs <;> rfl

/-- The ends that `read_outputs` reports. -/
def ends (terminals : Terminals) (order : List ℤ) : List TerminalResponse :=
  ((terminals.service.locked order).filter fun (_, session) => session.shouldSendClosed).map
    fun (id, session) => .closed id (session.child.join.getD 0)

/-- The responses are the chunks that are taken, then the ends. -/
theorem responses_eq
    (terminals : Terminals)
    (order : List ℤ) :
    terminals.service.responses compress order =
      (terminals.taken order).map (fun chunk => dataResponse compress chunk.1 chunk.2) ++
        terminals.ends order := by
  unfold PersistentTerminalService.responses taken ends
  rw [List.map_flatMap]
  simp only [List.map_map, Function.comp_def]

theorem filter_responses
    (terminals : Terminals)
    (order : List ℤ) :
    (terminals.service.responses compress order).filter (fun response => response.dataOf.isSome) =
      (terminals.taken order).map fun chunk => dataResponse compress chunk.1 chunk.2 := by
  have chunks : ∀ response ∈ (terminals.taken order).map
      (fun chunk => dataResponse compress chunk.1 chunk.2), response.dataOf.isSome = true := by
    intro response member
    obtain ⟨chunk, -, rfl⟩ := List.mem_map.mp member
    rw [dataOf_dataResponse]
    rfl
  have ends : ∀ response ∈ terminals.ends order, ¬response.dataOf.isSome = true := by
    intro response member
    obtain ⟨session, -, rfl⟩ := List.mem_map.mp member
    simp [TerminalResponse.dataOf]
  rw [responses_eq, List.filter_append, List.filter_eq_self.mpr chunks,
    List.filter_eq_nil_iff.mpr ends, List.append_nil]

theorem mem_locked
    {service : PersistentTerminalService}
    {order : List ℤ}
    {id : ℤ}
    {session : TerminalSession} :
    (id, session) ∈ service.locked order ↔
      id ∈ order ∧ service.sessions.lookup id = some session := by
  unfold PersistentTerminalService.locked
  simp only [List.mem_filterMap, List.mem_dedup, Option.map_eq_some_iff, Prod.mk.injEq]
  constructor
  · rintro ⟨other, member, found, found_eq, rfl, rfl⟩
    exact ⟨member, found_eq⟩
  · rintro ⟨member, found⟩
    exact ⟨id, member, session, found, rfl, rfl⟩

/-- A chunk is taken out of the channel of an open session. -/
theorem mem_taken
    {order : List ℤ}
    {chunk : ℤ × Bytes}
    (member : chunk ∈ terminals.taken order) :
    ∃ session, terminals.service.sessions.lookup chunk.1 = some session ∧
      session.output ≠ [] := by
  obtain ⟨⟨id, session⟩, found, member⟩ := List.mem_flatMap.mp member
  obtain ⟨bytes, received, rfl⟩ := List.mem_map.mp member
  refine ⟨session, (mem_locked.mp found).2, ?_⟩
  unfold TerminalSession.receivedData at received
  split_ifs at received
  · exact List.ne_nil_of_mem received
  · cases received

/-- The responses carry no data of a terminal whose end was noticed. -/
theorem not_hasData_responses
    (sound : terminals.Sound compress)
    {terminalId : ℤ}
    (noticed : terminals.Noticed terminalId)
    (order : List ℤ) :
    ¬HasData terminalId (terminals.service.responses compress order) := by
  rintro ⟨response, member, isData⟩
  rw [responses_eq] at member
  rcases List.mem_append.mp member with chunks | ends
  · obtain ⟨chunk, taken, rfl⟩ := List.mem_map.mp chunks
    rw [dataOf_dataResponse] at isData
    obtain ⟨session, found, waiting⟩ := mem_taken taken
    obtain ⟨other, other_eq, closed⟩ := noticed
    rw [Option.some_inj.mp isData] at found
    obtain rfl : other = session := Option.some_inj.mp (other_eq.symm.trans found)
    exact waiting (sound.drained terminalId other other_eq closed).2
  · obtain ⟨session, -, rfl⟩ := List.mem_map.mp ends
    cases isData

/-- What follows an end in the responses are ends. -/
theorem split_responses
    {order : List ℤ}
    {before after : List TerminalResponse}
    {response : TerminalResponse}
    {terminalId : ℤ}
    (split : terminals.service.responses compress order = before ++ response :: after)
    (closes : response.closedOf = some terminalId) :
    response ∈ terminals.ends order ∧ ∀ later ∈ after, later ∈ terminals.ends order := by
  have notChunk : response ∉ (terminals.taken order).map
      fun chunk => dataResponse compress chunk.1 chunk.2 := by
    intro member
    obtain ⟨chunk, -, rfl⟩ := List.mem_map.mp member
    rw [closedOf_dataResponse] at closes
    cases closes
  rw [responses_eq] at split
  rcases List.append_eq_append_iff.mp split with ⟨middle, -, ends⟩ | ⟨middle, chunks, rest⟩
  · rw [ends]
    exact ⟨by simp, fun later member => by simp [member]⟩
  · cases middle with
    | nil =>
        rw [List.nil_append] at rest
        rw [← rest]
        exact ⟨by simp, fun later member => by simp [member]⟩
    | cons first middle =>
        obtain ⟨rfl, -⟩ := List.cons.inj rest
        exact absurd (chunks ▸ by simp) notChunk

theorem mem_ends
    {order : List ℤ}
    {response : TerminalResponse}
    (member : response ∈ terminals.ends order) :
    response.dataOf = none ∧ ∀ terminalId, response.closedOf = some terminalId →
      ∃ session, (terminalId, session) ∈ terminals.service.locked order ∧
        session.shouldSendClosed = true := by
  obtain ⟨⟨id, session⟩, found, rfl⟩ := List.mem_map.mp member
  refine ⟨rfl, fun terminalId closes => ⟨session, ?_⟩⟩
  obtain rfl := Option.some_inj.mp closes
  simpa using found

/-- The sessions after a call of `read_outputs` for a persistent service. -/
theorem lookup_afterRead
    {service : PersistentTerminalService}
    (order : List ℤ)
    (terminalId : ℤ) :
    (service.afterRead true order).sessions.lookup terminalId =
      (service.sessions.lookup terminalId).map fun session =>
        if terminalId ∈ order then session.afterRead else session := by
  unfold PersistentTerminalService.afterRead
  rw [Table.lookup_mapValues, Table.lookup_retain]
  cases service.sessions.lookup terminalId <;> simp

/-- An end is noticed after a call if it was before, or if it is due. -/
theorem noticed_afterRead
    {order : List ℤ}
    {after : Terminals}
    (service_eq : after.service = terminals.service.afterRead true order)
    (terminalId : ℤ) :
    after.Noticed terminalId ↔
      terminals.Noticed terminalId ∨
        ∃ session, (terminalId, session) ∈ terminals.service.locked order ∧
          session.shouldSendClosed = true := by
  unfold Noticed
  simp only [service_eq, lookup_afterRead, mem_locked, Option.map_eq_some_iff]
  constructor
  · rintro ⟨later, ⟨session, found, rfl⟩, noticed⟩
    split_ifs at noticed with member
    · by_cases earlier : session.closedMessageSent = true
      · exact .inl ⟨session, found, earlier⟩
      · refine .inr ⟨session, ⟨member, found⟩, ?_⟩
        simpa [TerminalSession.shouldSendClosed, TerminalSession.afterRead, earlier] using noticed
    · exact .inl ⟨session, found, noticed⟩
  · rintro (⟨session, found, noticed⟩ | ⟨session, ⟨member, found⟩, due⟩)
    · refine ⟨_, ⟨session, found, rfl⟩, ?_⟩
      split_ifs
      · simp [TerminalSession.afterRead, noticed]
      · exact noticed
    · refine ⟨_, ⟨session, found, rfl⟩, ?_⟩
      rw [if_pos member]
      obtain ⟨-, finished⟩ := Bool.and_eq_true_iff.mp due
      simp [TerminalSession.afterRead, finished]

variable (compress terminals) in
/-- The connections after a loop has read for its own connection alone. -/
structure ReadBy (conn : ℤ) (connection : TerminalConnection) (order : List ℤ)
    (after : Terminals) : Prop where
  service : after.service = terminals.service.afterRead true order
  unclaimed : after.unclaimed = []
  reader : ∀ later, after.connections.lookup conn = some later →
    later.pending = terminals.service.responses compress order ∧
    later.sent = connection.sent ∧
    later.owed = connection.owed ++ terminals.taken order ∧
    later.subscribed = connection.subscribed
  others : ∀ other later, other ≠ conn → after.connections.lookup other = some later →
    ∃ earlier, terminals.connections.lookup other = some earlier ∧
      later.pending = earlier.pending ∧ later.sent = earlier.sent ∧
      later.owed = earlier.owed ∧ later.subscribed = earlier.subscribed
  stays : ∀ other earlier, terminals.connections.lookup other = some earlier →
    ∃ later, after.connections.lookup other = some later

theorem readBy_readOutputs
    (sound : terminals.Sound compress)
    {conn : ℤ}
    {connection : TerminalConnection}
    {order : List ℤ}
    (connection_eq : terminals.connections.lookup conn = some connection)
    (mayRead : connection.mayRead = true)
    (readsAlone : terminals.ReadsAlone compress conn connection order) :
    ReadBy compress terminals conn connection order
      (terminals.readOutputs compress conn order) := by
  have read : terminals.readOutputs compress conn order =
      { service := terminals.service.afterRead true order
        connections := Table.mapValues
          (fun _ other =>
            { other with
              owed := other.owed ++
                (terminals.taken order).filter fun chunk => chunk.1 ∈ other.holds })
          (terminals.connections.insert conn
            { connection with
              ready := false
              pending := terminals.service.responses compress order })
        unclaimed := terminals.unclaimed ++
          (terminals.taken order).filter fun chunk => !terminals.held chunk.1 } := by
    simp [readOutputs, connection_eq, mayRead, sound.isPersistent]
  have all : (terminals.taken order).filter (fun chunk => decide (chunk.1 ∈ connection.holds)) =
      terminals.taken order := by
    rw [List.filter_eq_self]
    exact fun chunk member => decide_eq_true (readsAlone.holds chunk member)
  rw [read]
  refine ⟨rfl, ?_, ?_, ?_, ?_⟩
  · have claimed : ∀ chunk ∈ terminals.taken order, ¬(!terminals.held chunk.1) = true := by
      intro chunk member
      have kept : (terminals.connections.retain fun _ other =>
          decide (chunk.1 ∈ other.holds)).lookup conn = some connection := by
        rw [Table.lookup_retain, connection_eq]
        simp [readsAlone.holds chunk member]
      simpa [held] using (Table.length_pos_of_lookup kept).ne'
    rw [sound.unclaimed, List.nil_append, List.filter_eq_nil_iff.mpr claimed]
  · intro later found
    rw [Table.lookup_mapValues, Table.lookup_insert_eq, if_pos rfl, Option.map_some] at found
    obtain rfl := Option.some_inj.mp found
    exact ⟨rfl, rfl, congrArg _ all, rfl⟩
  · intro other later different found
    rw [Table.lookup_mapValues, Table.lookup_insert_eq, if_neg different] at found
    obtain ⟨earlier, earlier_eq, rfl⟩ := Option.map_eq_some_iff.mp found
    have none : ∀ chunk ∈ terminals.taken order, ¬decide (chunk.1 ∈ earlier.holds) = true := by
      intro chunk member holds
      exact different
        (readsAlone.alone chunk member other earlier earlier_eq (of_decide_eq_true holds))
    refine ⟨earlier, earlier_eq, rfl, rfl, ?_, rfl⟩
    rw [List.filter_eq_nil_iff.mpr none, List.append_nil]
  · intro other earlier earlier_eq
    apply Option.isSome_iff_exists.mp
    rw [Table.lookup_mapValues, Table.lookup_insert_eq, Option.isSome_map]
    split
    · rfl
    · rw [earlier_eq]
      rfl

section Read

variable {conn : ℤ} {connection : TerminalConnection} {order : List ℤ} {after : Terminals}

theorem ReadBy.noticed
    (readBy : ReadBy compress terminals conn connection order after)
    {terminalId : ℤ}
    (noticed : terminals.Noticed terminalId) :
    after.Noticed terminalId :=
  (noticed_afterRead readBy.service terminalId).mpr (.inl noticed)

/-- Where no data of a noticed terminal waited, none waits after the loop. -/
theorem ReadBy.noData
    (readBy : ReadBy compress terminals conn connection order after)
    (sound : terminals.Sound compress)
    {terminalId : ℤ}
    (noticed : terminals.Noticed terminalId)
    {other : ℤ}
    (none : ∀ earlier, terminals.connections.lookup other = some earlier →
      ¬HasData terminalId earlier.pending)
    {later : TerminalConnection}
    (found : after.connections.lookup other = some later) :
    ¬HasData terminalId later.pending := by
  by_cases same : other = conn
  · rw [(readBy.reader later (same ▸ found)).1]
    exact not_hasData_responses sound noticed order
  · obtain ⟨earlier, earlier_eq, pending, -⟩ := readBy.others other later same found
    rw [pending]
    exact none earlier earlier_eq

theorem ReadBy.chunks
    (readBy : ReadBy compress terminals conn connection order after)
    (sound : terminals.Sound compress)
    (connection_eq : terminals.connections.lookup conn = some connection)
    (nothing : connection.pending = [])
    {other : ℤ}
    {later : TerminalConnection}
    (found : after.connections.lookup other = some later) :
    (later.sent ++ later.pending).filter (fun response => response.dataOf.isSome) =
      later.owed.map fun chunk => dataResponse compress chunk.1 chunk.2 := by
  by_cases same : other = conn
  · obtain ⟨pending, sent, owed, -⟩ := readBy.reader later (same ▸ found)
    have chunks := sound.chunks conn connection connection_eq
    rw [nothing, List.append_nil] at chunks
    rw [pending, sent, owed, List.filter_append, filter_responses, List.map_append, chunks]
  · obtain ⟨earlier, earlier_eq, pending, sent, owed, -⟩ :=
      readBy.others other later same found
    rw [pending, sent, owed]
    exact sound.chunks other earlier earlier_eq

/-- A session that has told its end is drained. -/
theorem ReadBy.drained
    (readBy : ReadBy compress terminals conn connection order after)
    (sound : terminals.Sound compress)
    (readsAlone : terminals.ReadsAlone compress conn connection order)
    {terminalId : ℤ}
    {session : TerminalSession}
    (found : after.service.sessions.lookup terminalId = some session)
    (noticed : session.closedMessageSent = true) :
    session.readerFinished = true ∧ session.output = [] := by
  rw [readBy.service, lookup_afterRead] at found
  obtain ⟨earlier, earlier_eq, rfl⟩ := Option.map_eq_some_iff.mp found
  split_ifs at noticed ⊢ with member
  · by_cases already : earlier.closedMessageSent = true
    · obtain ⟨finished, empty⟩ := sound.drained terminalId earlier earlier_eq already
      simp [TerminalSession.afterRead, finished, empty]
    · have finished : earlier.readerFinished = true := by
        simpa [TerminalSession.afterRead, already] using noticed
      have due : earlier.shouldSendClosed = true := by
        simp [TerminalSession.shouldSendClosed, already, finished]
      have drained := (readsAlone.drained terminalId earlier
        (mem_locked.mpr ⟨member, earlier_eq⟩) due).1
      refine ⟨finished, ?_⟩
      simp only [TerminalSession.afterRead]
      split_ifs with isOpened
      · rfl
      · exact drained.resolve_left isOpened
  · exact sound.drained terminalId earlier earlier_eq noticed

/-- Where an end was sent, no data of its terminal waits. -/
theorem ReadBy.closedSent
    (readBy : ReadBy compress terminals conn connection order after)
    (sound : terminals.Sound compress)
    (connection_eq : terminals.connections.lookup conn = some connection)
    {other : ℤ}
    {later : TerminalConnection}
    {terminalId : ℤ}
    (found : after.connections.lookup other = some later)
    (closed : HasClosed terminalId later.sent) :
    after.Noticed terminalId ∧
      ∀ each eachLater, after.connections.lookup each = some eachLater →
        ¬HasData terminalId eachLater.pending := by
  have already : ∀ earlier, terminals.connections.lookup other = some earlier →
      HasClosed terminalId earlier.sent →
      after.Noticed terminalId ∧ ∀ each eachLater,
        after.connections.lookup each = some eachLater →
        ¬HasData terminalId eachLater.pending := by
    intro earlier earlier_eq closed
    obtain ⟨noticed, none⟩ := sound.closedSent other earlier terminalId earlier_eq closed
    exact ⟨readBy.noticed noticed,
      fun each _ each_eq => readBy.noData sound noticed (none each) each_eq⟩
  by_cases same : other = conn
  · rw [(readBy.reader later (same ▸ found)).2.1] at closed
    exact already connection (same ▸ connection_eq) closed
  · obtain ⟨earlier, earlier_eq, -, sent, -⟩ := readBy.others other later same found
    rw [sent] at closed
    exact already earlier earlier_eq closed

/-- Where an end waits, no data of its terminal waits behind it or anywhere else. -/
theorem ReadBy.closedPending
    (readBy : ReadBy compress terminals conn connection order after)
    (sound : terminals.Sound compress)
    (readsAlone : terminals.ReadsAlone compress conn connection order)
    {other : ℤ}
    {later : TerminalConnection}
    {terminalId : ℤ}
    (found : after.connections.lookup other = some later)
    {first last : List TerminalResponse}
    {reported : TerminalResponse}
    (split : later.pending = first ++ reported :: last)
    (closes : reported.closedOf = some terminalId) :
    after.Noticed terminalId ∧ ¬HasData terminalId last ∧
      ∀ each eachLater, after.connections.lookup each = some eachLater →
        each ≠ other → ¬HasData terminalId eachLater.pending := by
  by_cases same : other = conn
  · subst same
    rw [(readBy.reader later found).1] at split
    obtain ⟨isEnd, endsAfter⟩ := split_responses split closes
    obtain ⟨session, locked, due⟩ := (mem_ends isEnd).2 terminalId closes
    refine ⟨(noticed_afterRead readBy.service terminalId).mpr (.inr ⟨session, locked, due⟩),
      ?_, ?_⟩
    · rintro ⟨response, member, isData⟩
      rw [(mem_ends (endsAfter response member)).1] at isData
      cases isData
    · intro each eachLater each_eq different
      obtain ⟨earlier, earlier_eq, pending, -⟩ :=
        readBy.others each eachLater different each_eq
      rw [pending]
      exact (readsAlone.drained terminalId session locked due).2 each earlier earlier_eq
  · obtain ⟨earlier, earlier_eq, pending, -⟩ := readBy.others other later same found
    rw [pending] at split
    obtain ⟨noticed, noneAfter, noneElse⟩ := sound.closedPending other earlier terminalId
      earlier_eq first reported last split closes
    exact ⟨readBy.noticed noticed, noneAfter, fun each _ each_eq different =>
      readBy.noData sound noticed (fun _ eq => noneElse each _ eq different) each_eq⟩

/-- The end of a noticed terminal is sent or waits. -/
theorem ReadBy.closedKept
    (readBy : ReadBy compress terminals conn connection order after)
    (sound : terminals.Sound compress)
    (connection_eq : terminals.connections.lookup conn = some connection)
    (nothing : connection.pending = [])
    {terminalId : ℤ}
    (noticed : after.Noticed terminalId) :
    ∃ other later, after.connections.lookup other = some later ∧
      HasClosed terminalId (later.sent ++ later.pending) := by
  rcases (noticed_afterRead readBy.service terminalId).mp noticed with
    already | ⟨session, locked, due⟩
  · obtain ⟨other, earlier, earlier_eq, closed⟩ := sound.closedKept terminalId already
    obtain ⟨later, later_eq⟩ := readBy.stays other earlier earlier_eq
    refine ⟨other, later, later_eq, ?_⟩
    by_cases same : other = conn
    · obtain ⟨-, sent, -⟩ := readBy.reader later (same ▸ later_eq)
      obtain rfl : connection = earlier :=
        Option.some_inj.mp (connection_eq.symm.trans (same ▸ earlier_eq))
      rw [nothing, List.append_nil] at closed
      obtain ⟨response, member, closes⟩ := closed
      exact ⟨response, List.mem_append_left _ (sent ▸ member), closes⟩
    · obtain ⟨again, again_eq, pending, sent, -⟩ := readBy.others other later same later_eq
      obtain rfl : earlier = again := Option.some_inj.mp (earlier_eq.symm.trans again_eq)
      rwa [pending, sent]
  · obtain ⟨later, later_eq⟩ := readBy.stays conn connection connection_eq
    refine ⟨conn, later, later_eq, .closed terminalId (session.child.join.getD 0), ?_, rfl⟩
    rw [(readBy.reader later later_eq).1, responses_eq]
    refine List.mem_append_right _ (List.mem_append_right _ ?_)
    exact List.mem_map.mpr ⟨(terminalId, session), by simp [locked, due], rfl⟩

/-- A loop that reads for its own connection alone keeps the terminals sound. -/
theorem ReadBy.sound
    (sound : terminals.Sound compress)
    (connection_eq : terminals.connections.lookup conn = some connection)
    (nothing : connection.pending = [])
    (readsAlone : terminals.ReadsAlone compress conn connection order)
    (readBy : ReadBy compress terminals conn connection order after) :
    after.Sound compress where
  isPersistent := by
    rw [readBy.service]
    exact sound.isPersistent
  unclaimed := readBy.unclaimed
  chunks _ _ found := readBy.chunks sound connection_eq nothing found
  subscribed := by
    intro other later found waiting
    by_cases same : other = conn
    · obtain ⟨pending, -, -, subscribed⟩ := readBy.reader later (same ▸ found)
      rw [subscribed]
      exact readsAlone.subscribed (pending ▸ waiting)
    · obtain ⟨earlier, earlier_eq, pending, -, -, subscribed⟩ :=
        readBy.others other later same found
      rw [subscribed]
      exact sound.subscribed other earlier earlier_eq (pending ▸ waiting)
  drained _ _ found noticed := readBy.drained sound readsAlone found noticed
  closedSent _ _ _ found closed := readBy.closedSent sound connection_eq found closed
  closedPending _ _ _ found _ _ _ split closes :=
    readBy.closedPending sound readsAlone found split closes
  closedKept _ noticed := readBy.closedKept sound connection_eq nothing noticed

end Read

theorem sound_readOutputs
    (sound : terminals.Sound compress)
    {conn : ℤ}
    {order : List ℤ}
    (careful : terminals.Careful compress (.readOutputs conn order)) :
    (terminals.readOutputs compress conn order).Sound compress := by
  cases found : terminals.connections.lookup conn with
  | none =>
      unfold readOutputs
      rw [found]
      exact sound
  | some connection =>
      by_cases mayRead : connection.mayRead = true
      · have readsAlone := careful connection found mayRead
        have nothing : connection.pending = [] := by
          simpa using (Bool.and_eq_true_iff.mp mayRead).2
        have readBy := readBy_readOutputs sound found mayRead readsAlone
        exact readBy.sound sound found nothing readsAlone
      · unfold readOutputs
        rw [found]
        simpa [mayRead] using sound

/-- A careful step keeps the terminals sound. -/
theorem step_sound
    (event : OutputEvent)
    (sound : terminals.Sound compress)
    (careful : terminals.Careful compress event) :
    (terminals.step compress event).Sound compress := by
  cases event with
  | create conn =>
      simp only [step]
      split_ifs with present
      · exact sound
      · exact (quiet_create (by simpa using present)).sound sound
  | onSubscribe conn =>
      apply (Quiet.modify terminals conn _ _ _ _ _).sound sound
      · exact fun _ => rfl
      · exact fun _ => rfl
      · exact fun _ => rfl
      · exact fun _ _ _ _ => rfl
  | onUnsubscribe conn =>
      apply (Quiet.modify terminals conn _ _ _ _ _).sound sound
      · exact fun _ => rfl
      · exact fun _ => rfl
      · exact fun _ => rfl
      · intro connection found _ waiting
        exact absurd (careful connection found) waiting
  | join conn =>
      apply (Quiet.modify terminals conn _ _ _ _ _).sound sound
      · exact fun _ => rfl
      · exact fun _ => rfl
      · exact fun _ => rfl
      · exact fun _ _ subscribed _ => subscribed
  | «open» conn terminalId rows cols spawn =>
      exact (quiet_open terminals conn terminalId rows cols spawn).sound sound
  | output terminalId chunk =>
      apply (Quiet.modifySession terminals terminalId _ _ _).sound sound
      · intro session
        unfold TerminalSession.putOutput
        split_ifs <;> rfl
      · intro session finished empty
        simp [TerminalSession.putOutput, finished, empty]
  | finish terminalId exitCode =>
      apply (Quiet.modifySession terminals terminalId _ _ _).sound sound
      · exact fun _ => rfl
      · exact fun _ _ empty => ⟨rfl, empty⟩
  | check conn =>
      apply (Quiet.modify terminals conn _ _ _ _ _).sound sound
      · exact fun _ => rfl
      · exact fun _ => rfl
      · exact fun _ => rfl
      · exact fun _ _ subscribed _ => subscribed
  | readOutputs conn order => exact sound_readOutputs sound careful
  | send conn =>
      cases found : terminals.connections.lookup conn with
      | none =>
          simp only [step]
          rw [modify_send_of_nil fun _ other => by simp [found] at other]
          exact sound
      | some connection =>
          cases pending : connection.pending with
          | nil =>
              simp only [step]
              rw [modify_send_of_nil fun other other_eq => by
                obtain rfl := Option.some_inj.mp (found.symm.trans other_eq)
                exact pending]
              exact sound
          | cons response rest => exact sound_send sound found pending

variable (compress) in
theorem start_sound
    (serviceId : String)
    (isSpecifiedUser : Bool)
    (now : ℕ) :
    (start serviceId isSpecifiedUser now).Sound compress := by
  have noConnection : ∀ conn connection,
      (start serviceId isSpecifiedUser now).connections.lookup conn ≠ some connection := by
    intro conn connection found
    cases found
  have noSession : ∀ terminalId session,
      (start serviceId isSpecifiedUser now).service.sessions.lookup terminalId ≠
        some session := by
    intro terminalId session found
    cases found
  refine ⟨rfl, rfl, ?_, ?_, ?_, ?_, ?_, ?_⟩
  · exact fun conn connection found => absurd found (noConnection conn connection)
  · exact fun conn connection found => absurd found (noConnection conn connection)
  · exact fun terminalId session found => absurd found (noSession terminalId session)
  · exact fun conn connection _ found => absurd found (noConnection conn connection)
  · exact fun conn connection _ found => absurd found (noConnection conn connection)
  · exact fun terminalId ⟨session, found, _⟩ => absurd found (noSession terminalId session)

/-- Where the loops read for their own connections alone, no output is lost, split or
reordered, and every end comes last. -/
theorem delivered_of_careful
    (compress : Compress)
    (serviceId : String)
    (isSpecifiedUser : Bool)
    (now : ℕ)
    (events : List OutputEvent)
    (careful : Along (step compress) (Careful compress) (start serviceId isSpecifiedUser now)
      events) :
    ∀ before, before <+: events →
      (run (step compress) (start serviceId isSpecifiedUser now) before).Delivered compress := by
  intro before isPrefix
  have sound := run_invariant (Sound compress)
    (fun terminals event sound careful => step_sound event sound careful)
    (start_sound compress serviceId isSpecifiedUser now) (careful.restrict isPrefix)
  exact sound.delivered

/-- A client opens a terminal, and its loop brings it a chunk. -/
theorem delivered_to_one :
    (run (step id) (start "ts_1" false 0)
      [.create 1, .onSubscribe 1, .open 1 7 24 80 (.ok 42), .output 7 [104, 105], .check 1,
        .readOutputs 1 [7], .send 1]).Delivered id := by
  apply delivered_of_careful id "ts_1" false 0 _ _ _ List.prefix_rfl
  refine ⟨trivial, trivial, trivial, trivial, trivial, ?_, trivial, trivial⟩
  have only : ∀ other connection,
      (run (step id) (start "ts_1" false 0)
        [.create 1, .onSubscribe 1, .open 1 7 24 80 (.ok 42), .output 7 [104, 105],
          .check 1]).connections.lookup other = some connection →
      other = 1 := by
    intro other connection found
    have listed := Finmap.mem_keys.mpr (Finmap.mem_of_lookup_eq_some found)
    exact Finset.mem_singleton.mp listed
  intro connection found _
  obtain rfl := Option.some_inj.mp found
  refine ⟨fun _ => rfl, by decide, ?_, ?_⟩
  · exact fun _ _ other otherConnection other_eq _ => only other otherConnection other_eq
  · intro id session member due
    obtain ⟨listed, found⟩ := mem_locked.mp member
    obtain rfl := List.mem_singleton.mp listed
    obtain rfl := Option.some_inj.mp found
    cases due

/-- Two clients have a terminal open, and the loop of one takes the chunk for itself. -/
theorem chunk_taken_by_other_loop :
    ¬(run (step id) (start "ts_1" false 0)
      [.create 1, .onSubscribe 1, .create 2, .onSubscribe 2, .open 1 7 24 80 (.ok 42),
        .open 2 7 24 80 (.ok 43), .output 7 [104, 105], .check 1, .readOutputs 1 [7],
        .send 1]).Delivered id := by
  intro delivered
  have chunks := delivered.chunks 2 _ rfl
  revert chunks
  decide

end Terminals

end Terminal
end OneDesk
