import OneDesk.Clipboard.ServFiles
import OneDesk.Lib.Mailbox
import OneDesk.Lib.Run

/-!
# Reading a file of another host

A file that is copied on a peer is read in pieces through a file system.  Every read
sends a request and waits for the answer in one channel that all reads share, and an
answer only tells its stream, which is one for all reads of a file.
-/

namespace OneDesk
namespace Clipboard

open OneDesk.Stream

/-- `READ_RETRY`. -/
def readRetry : Nat := 3

/-- `FuseNode`, as far as files are read. -/
structure FuseNode where
  connId : BitVec 32
  streamId : BitVec 32
  index : Nat
  deriving DecidableEq

/-- The request of `FuseServer::read_node`. -/
def FuseNode.request (node : FuseNode) (offset : BitVec 64) (size : BitVec 32) :
    ClipboardFile :=
  let cbRequested := size
  let nPositionHigh := (offset.sshiftRight 32).setWidth 32
  let nPositionLow := (offset &&& 0xFFFFFFFF).setWidth 32
  .fileContentsRequest node.streamId (BitVec.ofNat 32 node.index) 2 nPositionLow
    nPositionHigh cbRequested false 0

/-- The error of a read. -/
inductive ReadError
  | other (error : String)
  | timedOut (error : String)
  deriving DecidableEq

/-- One round of the loop of `FuseServer::read_node`. -/
inductive Round
  | again (retryTimes : Nat) (resent : Bool)
  | done (result : Except ReadError Bytes)

/-- What `FuseServer::read_node` does with a reply; `sent` is how sending the request
again ends. -/
def readReply (node : FuseNode) (retryTimes : Nat) (sent : Except String Unit) :
    ClipboardFile → Round
  | .fileContentsResponse msgFlags streamId requestedData =>
      if streamId ≠ node.streamId then .again retryTimes false
      else if msgFlags &&& 1 = 0 then
        if readRetry < retryTimes + 1 then .done (.error (.other "failure request"))
        else
          match sent with
          | .error error => .done (.error (.other error))
          | .ok () => .again (retryTimes + 1) true
      else .done (.ok requestedData)
  | .fileContentsRequest .. | .files _ | .other =>
      .done (.error (.other "invalid reply"))

/-- A call of `FuseServer::read_node`. -/
structure ReadCall where
  /-- The number of calls before this one. -/
  number : Nat
  node : FuseNode
  offset : BitVec 64
  size : BitVec 32
  deriving DecidableEq

/-- `FuseServer`, as far as files are read: its channel with the requests the peer has
not answered, and the call that is in progress with its retries. -/
structure FuseServer where
  rx : Lib.Mailbox ReadCall ClipboardFile
  reading : Option (ReadCall × Nat)
  calls : Nat

/-- What may happen while files are read. -/
inductive ReadEvent
  /-- `read_node` is called. -/
  | readNode (node : FuseNode) (offset : BitVec 64) (size : BitVec 32)
      (sent : Except String Unit)
  /-- The peer answers one of the requests. -/
  | reply (index : Nat) (msgFlags : BitVec 32) (requestedData : Bytes)
  /-- One of the requests, or the answer to it, is lost. -/
  | lost (index : Nat)
  /-- `read_node` receives a reply. -/
  | receive (sent : Except String Unit)
  /-- `read_node` has waited for too long. -/
  | timeout

namespace FuseServer

/-- `FuseServer::new`. -/
def new : FuseServer := ⟨.empty, none, 0⟩

variable (server : FuseServer)

/-- One event.  Calls of `read_node` are made one after another. -/
def step : ReadEvent → FuseServer
  | .readNode node offset size sent =>
      match server.reading with
      | some _ => server
      | none =>
          match sent with
          | .error _ => { server with calls := server.calls + 1 }
          | .ok () =>
              let call : ReadCall := ⟨server.calls, node, offset, size⟩
              ⟨server.rx.ask call, some (call, 0), server.calls + 1⟩
  | .reply index msgFlags requestedData =>
      { server with
        rx := server.rx.reply index fun call =>
          [.fileContentsResponse msgFlags call.node.streamId requestedData] }
  | .lost index => { server with rx := server.rx.reply index fun _ => [] }
  | .receive sent =>
      match server.reading, server.rx.arrived with
      | some (call, retryTimes), part :: _ =>
          match readReply call.node retryTimes sent part.2 with
          | .again retryTimes resent =>
              { server with
                rx := if resent then server.rx.read.ask call else server.rx.read
                reading := some (call, retryTimes) }
          | .done _ => { server with rx := server.rx.read, reading := none }
      | _, _ => server
  | .timeout =>
      match server.rx.arrived with
      | [] => { server with reading := none }
      | _ :: _ => server

/-- What the call that is in progress returns at an event. -/
def returned : ReadEvent → Option (ReadCall × Except ReadError Bytes)
  | .receive sent =>
      match server.reading, server.rx.arrived with
      | some (call, retryTimes), part :: _ =>
          match readReply call.node retryTimes sent part.2 with
          | .again _ _ => none
          | .done result => some (call, result)
      | _, _ => none
  | .timeout =>
      match server.reading, server.rx.arrived with
      | some (call, _), [] => some (call, .error (.timedOut "timed out waiting on channel"))
      | _, _ => none
  | .readNode node offset size sent =>
      match server.reading with
      | some _ => none
      | none =>
          match sent with
          | .error error =>
              some (⟨server.calls, node, offset, size⟩, .error (.other error))
          | .ok () => none
  | .reply .. | .lost _ => none

/-- The bytes that a call returns are an answer to a request of this call. -/
def Own (event : ReadEvent) : Prop :=
  ∀ call data, server.returned event = some (call, .ok data) →
    ∃ msgFlags, server.rx.arrived.head? =
      some (call, .fileContentsResponse msgFlags call.node.streamId data)

/-- A read begins when no earlier request with the stream of its file is left without
an answer, and no answer to such a request is left unread. -/
def Careful : ReadEvent → Prop
  | .readNode node _ _ _ =>
      server.reading = none → server.rx.All fun call => call.node.streamId ≠ node.streamId
  | .reply .. | .lost _ | .receive _ | .timeout => True

/-- Replies have the stream of their request, and what a call may take for an answer
is an answer to it. -/
structure Owned : Prop where
  fits : server.rx.Fits fun call message => ∃ msgFlags requestedData,
    message = .fileContentsResponse msgFlags call.node.streamId requestedData
  own : ∀ call retryTimes, server.reading = some (call, retryTimes) →
    server.rx.All fun other => other.node.streamId = call.node.streamId → other = call

variable {server}

theorem owned_new : new.Owned where
  fits := Lib.Mailbox.fits_empty _
  own := by
    intro call retryTimes reading
    cases reading

/-- Only the data of a reply with the stream of the file are returned. -/
theorem readReply_ok
    {node : FuseNode}
    {retryTimes : Nat}
    {sent : Except String Unit}
    {message : ClipboardFile}
    {data : Bytes}
    (done : readReply node retryTimes sent message = .done (.ok data)) :
    ∃ msgFlags, message = .fileContentsResponse msgFlags node.streamId data := by
  unfold readReply at done
  split at done
  · next msgFlags streamId requestedData =>
      split at done
      · cases done
      · next sameStream =>
          split at done
          · split at done
            · cases done
            · split at done
              · cases done
              · cases done
          · cases done
            exact ⟨msgFlags, by rw [not_not.mp sameStream]⟩
  all_goals cases done

/-- Reading one reply leaves every reply with its request. -/
theorem owned_receive
    (owned : server.Owned)
    (sent : Except String Unit) :
    (server.step (.receive sent)).Owned := by
  rw [step]
  split
  · next call retryTimes part rest reading arrived =>
      have own := owned.own call retryTimes reading
      split
      · next again resent _ =>
          cases resent with
          | true =>
              refine ⟨owned.fits.read.ask call, ?_⟩
              rintro other _ ⟨⟩
              exact own.read.ask fun _ => rfl
          | false =>
              refine ⟨owned.fits.read, ?_⟩
              rintro other _ ⟨⟩
              exact own.read
      · refine ⟨owned.fits.read, ?_⟩
        rintro other _ ⟨⟩
  · exact owned

/-- A read that begins carefully leaves every reply with its request. -/
theorem owned_readNode
    (owned : server.Owned)
    {node : FuseNode}
    {offset : BitVec 64}
    {size : BitVec 32}
    {sent : Except String Unit}
    (careful : server.Careful (.readNode node offset size sent)) :
    (server.step (.readNode node offset size sent)).Owned := by
  unfold step
  dsimp only
  split
  · exact owned
  · next idle =>
      cases sent with
      | error error => exact ⟨owned.fits, owned.own⟩
      | ok sent =>
          refine ⟨owned.fits.ask _, ?_⟩
          rintro call _ ⟨⟩
          have others : server.rx.All fun other => other.node.streamId = node.streamId →
              other = ⟨server.calls, node, offset, size⟩ :=
            (careful idle).mono fun other differs same => absurd same differs
          exact others.ask fun _ => rfl

/-- Every event of a careful run leaves every reply with its request. -/
theorem owned_step
    (owned : server.Owned)
    {event : ReadEvent}
    (careful : server.Careful event) :
    (server.step event).Owned := by
  cases event with
  | readNode node offset size sent => exact owned_readNode owned careful
  | reply index msgFlags requestedData =>
      refine ⟨owned.fits.reply index ?_, ?_⟩
      · intro call _ message isReply
        exact ⟨msgFlags, requestedData, List.mem_singleton.mp isReply⟩
      · intro call retryTimes reading
        exact (owned.own call retryTimes reading).reply index _
  | lost index =>
      refine ⟨owned.fits.reply index ?_, ?_⟩
      · intro call _ message isReply
        cases isReply
      · intro call retryTimes reading
        exact (owned.own call retryTimes reading).reply index _
  | receive sent => exact owned_receive owned sent
  | timeout =>
      rw [step]
      split
      · refine ⟨owned.fits, ?_⟩
        rintro call _ ⟨⟩
      · exact owned

/-- Where every reply is with its request, what a call returns is an answer to it. -/
theorem own_of_owned
    (owned : server.Owned)
    (event : ReadEvent) :
    server.Own event := by
  intro call data returns
  cases event with
  | receive sent =>
      rw [returned] at returns
      split at returns
      · next reader retryTimes part rest reading arrived =>
          split at returns
          · cases returns
          · next result done =>
              cases returns
              obtain ⟨msgFlags, message⟩ := readReply_ok done
              have isHead : part ∈ server.rx.arrived := by
                rw [arrived]
                exact List.mem_cons_self
              obtain ⟨otherFlags, otherData, sameMessage⟩ := owned.fits part isHead
              rw [message] at sameMessage
              have sameStream : part.1.node.streamId = call.node.streamId := by
                injection sameMessage with _ isStream _
                exact isStream.symm
              have sameCall : part.1 = call :=
                (owned.own call retryTimes reading).arrived part isHead sameStream
              refine ⟨msgFlags, ?_⟩
              rw [arrived, List.head?_cons, ← message, ← sameCall]
      · cases returns
  | timeout =>
      rw [returned] at returns
      split at returns <;> cases returns
  | readNode node offset size sent =>
      unfold returned at returns
      dsimp only at returns
      split at returns
      · cases returns
      · cases sent <;> cases returns
  | reply index msgFlags requestedData => cases returns
  | lost index => cases returns

/-- While every read begins with no earlier request of its stream left open, every
read returns an answer to a request of its own. -/
theorem read_is_answered
    (events : List ReadEvent)
    (careful : Lib.Along step Careful new events) :
    Lib.Along step Own new events := by
  rw [Lib.along_iff_forall_split]
  intro before event after split
  have owned : (Lib.run step new before).Owned :=
    Lib.run_invariant Owned
      (fun _ _ owned careful => owned_step owned careful) owned_new
      (careful.restrict ⟨event :: after, split.symm⟩)
  exact own_of_owned owned event

/-- The third file of a list. -/
def thirdFile : FuseNode := ⟨1, 7, 2⟩

/-- A read that is answered at its second request. -/
theorem read_is_answered_retry :
    Lib.Along step Own new
      [.readNode thirdFile 0 1 (.ok ()), .reply 0 0 [], .receive (.ok ()),
        .reply 0 1 [0x61], .receive (.ok ())] := by
  refine read_is_answered _ ⟨?_, trivial, trivial, trivial, trivial, trivial⟩
  intro _
  exact Lib.Mailbox.all_empty _

/-- A read that gives up leaves its answer to the next read of the same file. -/
theorem late_answer_returned : ¬ ∀ events, Lib.Along step Own new events := by
  intro own
  have last := Lib.along_iff_forall_split.mp
    (own [.readNode thirdFile 0 1 (.ok ()), .timeout, .reply 0 1 [0x61],
      .readNode thirdFile 1 1 (.ok ()), .receive (.ok ())])
    [.readNode thirdFile 0 1 (.ok ()), .timeout, .reply 0 1 [0x61],
      .readNode thirdFile 1 1 (.ok ())]
    (.receive (.ok ())) [] rfl
  obtain ⟨msgFlags, isHead⟩ := last ⟨1, thirdFile, 1, 1⟩ [0x61] rfl
  have head : (Lib.run step new [.readNode thirdFile 0 1 (.ok ()), .timeout,
      .reply 0 1 [0x61], .readNode thirdFile 1 1 (.ok ())]).rx.arrived.head? =
        some (⟨0, thirdFile, 0, 1⟩, .fileContentsResponse 1 7 [0x61]) := rfl
  rw [head] at isHead
  cases isHead

end FuseServer

end Clipboard
end OneDesk
