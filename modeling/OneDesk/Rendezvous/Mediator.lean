import Mathlib.Logic.Function.Basic
import OneDesk.Lib.Run
import OneDesk.Stream.Encrypt

/-!
# Registration at rendezvous servers

A mediator for every rendezvous server registers the id and the public key of the host.
The mediators run at the same time and share the configuration, where confirmations are
kept, and one string that names the server with which a conflict of ids is being solved.
-/

namespace OneDesk
namespace Rendezvous

open OneDesk.Stream

/-- A text. -/
abbrev Text := List Char

/-- `str::parse::<i32>` succeeds. -/
def parsesI32 (text : Text) : Bool :=
  let negative := text.head? == some '-'
  let digits := if negative || text.head? == some '+' then text.tail else text
  let value := digits.foldl (fun value digit => 10 * value + (digit.toNat - '0'.toNat)) 0
  digits ≠ [] && digits.all (fun char => '0' ≤ char && char ≤ '9') &&
    value ≤ (if negative then 2 ^ 31 else 2 ^ 31 - 1)

/-- `RendezvousMediator::get_host_prefix`. -/
def getHostPrefix (host : Text) : Text :=
  let first := host.takeWhile (· ≠ '.')
  if parsesI32 first then host else first

/-- A rendezvous server; its host has a port. -/
structure Host where
  name : Text
  nonempty : name ≠ []
  deriving DecidableEq

/-- `host_prefix` of a mediator. -/
def Host.hostPrefix (host : Host) : Text := getHostPrefix host.name

/-! ## The configuration -/

/-- `Config`, as far as registrations use it. -/
structure Config where
  id : Text
  pk : Bytes
  keyConfirmed : Bool
  keysConfirmed : Text → Option Bool

namespace Config

variable (config : Config)

/-- `Config::set_key_confirmed`. -/
def setKeyConfirmed (v : Bool) : Config :=
  if config.keyConfirmed = v then config
  else
    { config with
      keyConfirmed := v
      keysConfirmed := if v then config.keysConfirmed else fun _ => none }

/-- `Config::get_host_key_confirmed`. -/
def getHostKeyConfirmed (host : Text) : Bool :=
  config.keysConfirmed host == some true

/-- `Config::set_host_key_confirmed`. -/
def setHostKeyConfirmed (host : Text) (v : Bool) : Config :=
  if config.getHostKeyConfirmed host = v then config
  else { config with keysConfirmed := Function.update config.keysConfirmed host (some v) }

/-- `Config::update_id`, for the number that is drawn. -/
def updateId (newId : Text) : Config := { config with id := newId }

end Config

/-! ## The mediators -/

/-- `RegisterPk` to a server. -/
structure Request where
  host : Text
  id : Text
  pk : Bytes
  deriving DecidableEq

/-- Where a mediator is. -/
inductive Phase
  /-- It waits for its timer or an answer. -/
  | idle
  /-- `register_peer` has found that no conflict with another server is being solved. -/
  | registerPeer
  /-- `register_pk` is about to read the id and the key. -/
  | registerPk
  /-- An answer `OK` to a request is about to be noted for the host. -/
  | confirmHost (request : Request)
  /-- After `OK`, no conflict is to be solved any more. -/
  | clearSolving
  /-- After `UUID_MISMATCH`, the id is about to be changed. -/
  | updateId
  /-- The id is changed, and the conflict is about to be noted. -/
  | setSolving
  deriving DecidableEq

/-- All mediators, with what they share. -/
structure Mediators where
  config : Config
  /-- `SOLVING_PK_MISMATCH`. -/
  solving : Text
  /-- The mediator that holds the lock of `SOLVING_PK_MISMATCH` while it changes the id. -/
  lock : Option Nat
  phase : Nat → Phase
  sent : List Request
  /-- The requests that have been answered with `OK`. -/
  answered : List Request
  /-- The server whose last mismatch has changed the id and that has not answered `OK`
  since. -/
  resolving : Option Text

/-- What a mediator may do next.  Answers are for any of the requests it has sent, and may
be repeated. -/
inductive MediatorEvent
  /-- The timer of a mediator that uses UDP. -/
  | timer (mediator : Nat)
  /-- The timer of a mediator that uses TCP. -/
  | timerTcp (mediator : Nat)
  | registerPeerResponse (mediator : Nat) (requestPk : Bool)
  | registerPkOk (mediator index : Nat)
  | registerPkMismatch (mediator index : Nat)
  /-- A mediator goes on with what it does, up to the next access to what is shared. -/
  | goOn (mediator : Nat) (newId : Text)
  /-- `start_tcp`. -/
  | startTcp (mediator : Nat)
  /-- All mediators have ended, and begin anew. -/
  | restart

namespace Mediators

/-- The mediators of a host whose key no server has confirmed. -/
def new (id : Text) (pk : Bytes) : Mediators where
  config := ⟨id, pk, false, fun _ => none⟩
  solving := []
  lock := none
  phase := fun _ => .idle
  sent := []
  answered := []
  resolving := none

variable (servers : List Host) (state : Mediators)

/-- A mediator goes to another phase. -/
def setPhase (mediator : Nat) (phase : Phase) : Mediators :=
  { state with phase := Function.update state.phase mediator phase }

/-- The key is not confirmed, or not by the server of a mediator. -/
def unconfirmed (host : Host) : Bool :=
  !state.config.keyConfirmed || !state.config.getHostKeyConfirmed host.hostPrefix

/-- No conflict with another server is being solved. -/
def mayAct (host : Host) : Bool :=
  state.solving == [] || state.solving == host.name

/-- `handle_resp`, for `OK`. -/
def handleOk (mediator : Nat) (host : Host) (request : Request) : Mediators :=
  if request.host = host.name then
    { state with
      config := state.config.setKeyConfirmed true
      answered := state.answered ++ [request]
      phase := Function.update state.phase mediator (.confirmHost request) }
  else state

/-- `handle_uuid_mismatch`, up to the change of the id. -/
def handleUuidMismatch (mediator : Nat) (host : Host) : Mediators :=
  if state.lock = none ∧ state.mayAct host then
    { state with
      config := state.config.setKeyConfirmed false
      lock := some mediator
      phase := Function.update state.phase mediator .updateId }
  else state

/-- A mediator goes on. -/
def goOn (mediator : Nat) (host : Host) (newId : Text) : Mediators :=
  match state.phase mediator with
  | .idle => state
  | .registerPeer =>
      if state.unconfirmed host then state.setPhase mediator .registerPk
      else state.setPhase mediator .idle
  | .registerPk =>
      { state with
        sent := state.sent ++ [⟨host.name, state.config.id, state.config.pk⟩]
        phase := Function.update state.phase mediator .idle }
  | .confirmHost _ =>
      { state with
        config := state.config.setHostKeyConfirmed host.hostPrefix true
        phase := Function.update state.phase mediator .clearSolving }
  | .clearSolving =>
      if state.lock = none then
        { state with
          solving := []
          resolving := if state.resolving = some host.name then none else state.resolving
          phase := Function.update state.phase mediator .idle }
      else state
  | .updateId =>
      { state with
        config := state.config.updateId newId
        resolving := some host.name
        phase := Function.update state.phase mediator .setSolving }
  | .setSolving =>
      { state with
        solving := host.name
        lock := none
        phase := Function.update state.phase mediator .registerPk }

/-- What an idle mediator does with an event. -/
def whenIdle (mediator : Nat) (next : Host → Mediators) : Mediators :=
  match servers[mediator]? with
  | none => state
  | some host => if state.phase mediator = .idle then next host else state

/-- One event. -/
def step : MediatorEvent → Mediators
  | .timer mediator => state.whenIdle servers mediator fun host =>
      if state.lock = none ∧ state.mayAct host then state.setPhase mediator .registerPeer
      else state
  | .timerTcp mediator => state.whenIdle servers mediator fun host =>
      if state.unconfirmed host then state.setPhase mediator .registerPk else state
  | .registerPeerResponse mediator requestPk => state.whenIdle servers mediator fun _ =>
      if requestPk then state.setPhase mediator .registerPk else state
  | .registerPkOk mediator index => state.whenIdle servers mediator fun host =>
      match state.sent[index]? with
      | none => state
      | some request => state.handleOk mediator host request
  | .registerPkMismatch mediator index => state.whenIdle servers mediator fun host =>
      match state.sent[index]? with
      | none => state
      | some request =>
          if request.host = host.name then state.handleUuidMismatch mediator host else state
  | .goOn mediator newId =>
      match servers[mediator]? with
      | none => state
      | some host => state.goOn mediator host newId
  | .startTcp mediator => state.whenIdle servers mediator fun host =>
      { state with config := state.config.setHostKeyConfirmed host.hostPrefix false }
  | .restart =>
      if (List.range servers.length).all fun mediator => state.phase mediator = .idle then
        { state with solving := [], resolving := none }
      else state

/-- A server has confirmed the current id and key. -/
def ConfirmedBy (host : Host) : Prop :=
  ∃ request ∈ state.answered, request.host = host.name ∧
    request.id = state.config.id ∧ request.pk = state.config.pk

/-- If the key is confirmed by a server, the server has confirmed the current id and key. -/
def Truthful : Prop :=
  ∀ host ∈ servers, state.config.keyConfirmed = true →
    state.config.getHostKeyConfirmed host.hostPrefix = true → state.ConfirmedBy host

/-- While a conflict with a server is being solved, only this server changes the id. -/
def Undisturbed (event : MediatorEvent) : Prop :=
  ∀ name, state.resolving = some name →
    (state.step servers event).config.id ≠ state.config.id →
    ∃ mediator newId host, event = .goOn mediator newId ∧
      servers[mediator]? = some host ∧ host.name = name

/-- An answer `OK` is noted only for the current id and if no other server has the same
prefix; the id is changed only while no server is confirmed; and a conflict is given up
only after an answer of the server it is with. -/
def Careful : MediatorEvent → Prop
  | .goOn mediator _ =>
      ∀ host, servers[mediator]? = some host →
        match state.phase mediator with
        | .confirmHost request => request.id = state.config.id ∧
            ∀ other ∈ servers, other.hostPrefix = host.hostPrefix → other = host
        | .updateId => ∀ other ∈ servers,
            state.config.getHostKeyConfirmed other.hostPrefix = false
        | .clearSolving => state.solving = [] ∨ state.solving = host.name
        | .idle | .registerPeer | .registerPk | .setSolving => True
  | .timer _ | .timerTcp _ | .registerPeerResponse .. | .registerPkOk ..
  | .registerPkMismatch .. | .startTcp _ | .restart => True

end Mediators

end Rendezvous
end OneDesk
