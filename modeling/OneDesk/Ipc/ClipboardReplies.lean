import Mathlib.Logic.Function.Basic
import OneDesk.Lib.Mailbox
import OneDesk.Lib.Run
import OneDesk.Stream.Framed

/-!
# The clipboard of the connection manager

A service that may not read the clipboard itself asks the connection manager for it,
over a channel that it keeps from call to call.  An answer is a message, which has the
short contents, and a frame with all long contents one after another.
-/

namespace OneDesk
namespace Ipc

open OneDesk.Stream

/-- `Clipboard`. -/
structure Clipboard where
  compress : Bool
  content : Bytes
  width : Int
  height : Int
  format : Int
  specialName : String
  deriving DecidableEq

/-- `ClipboardNonFile`. -/
structure ClipboardNonFile where
  compress : Bool
  content : Bytes
  contentLen : Nat
  nextRaw : Bool
  width : Int
  height : Int
  format : Int
  specialName : String
  deriving DecidableEq

/-- The messages of the connection manager to a clipboard service. -/
inductive CmMessage
  | clipboardNonFile (answer : Option (String × List ClipboardNonFile))
  /-- `ClipboardFile::MonitorReady`. -/
  | monitorReady
  | other
  deriving DecidableEq

/-- An error says something. -/
structure CmError where
  text : String
  nonempty : text ≠ ""

/-- A frame of the connection manager. -/
inductive CmFrame
  | json (message : CmMessage)
  | raw (bytes : Bytes)
  deriving DecidableEq

/-! ## The connection manager -/

/-- Contents of more bytes go in a frame of their own. -/
def longContent : Nat := 1024 * 3

/-- What is said of a clipboard in the message. -/
def Clipboard.entry (c : Clipboard) : ClipboardNonFile where
  compress := c.compress
  content := if longContent < c.content.length then [] else c.content
  contentLen := c.content.length
  nextRaw := decide (longContent < c.content.length)
  width := c.width
  height := c.height
  format := c.format
  specialName := c.specialName

/-- What a service is to make of a clipboard. -/
def Clipboard.whole (c : Clipboard) : ClipboardNonFile :=
  { c.entry with content := c.content }

/-- The long contents, one after another. -/
def rawContents (clipboards : List Clipboard) : Bytes :=
  clipboards.flatMap fun c => if longContent < c.content.length then c.content else []

/-- The frame of the long contents, if there are any and they fit a frame. -/
def rawFrames (clipboards : List Clipboard) : List CmFrame :=
  if rawContents clipboards = [] ∨ maxPayload < (rawContents clipboards).length then []
  else [.raw (rawContents clipboards)]

/-- `IpcTaskRunner::run` on `ClipboardNonFile`, for what `check_clipboard_cm` has read.
The message has one short entry for each format, and fits a frame. -/
def answerFrames : Except CmError (List Clipboard) → List CmFrame
  | .ok clipboards =>
      .json (.clipboardNonFile (some ("", clipboards.map Clipboard.entry))) ::
        rawFrames clipboards
  | .error error => [.json (.clipboardNonFile (some (error.text, [])))]

/-! ## The service -/

/-- What a call of `read_clipboard_from_cm_ipc` returns. -/
inductive Returned
  | ok (contents : List ClipboardNonFile)
  | error (text : String)
  /-- More bytes are split off than there are. -/
  | panicked

/-- What a call waits for. -/
inductive Calling
  | answer (number : Nat)
  | raw (number : Nat) (contents : List ClipboardNonFile)

/-- `Handler`, with the requests and answers on its channel, the call that is in
progress, and what the connection manager has read for each call. -/
structure Handler where
  stream : Option (Lib.Mailbox Nat CmFrame)
  calling : Option Calling
  calls : Nat
  reads : Nat → Option (Except CmError (List Clipboard))

/-- What a call does with a message. -/
inductive Next
  | wait
  | raw (contents : List ClipboardNonFile)
  | done (returned : Returned)

/-- The loop of `read_clipboard_from_cm_ipc`, for one message. -/
def readAnswer : Option CmMessage → Next
  | some (.clipboardNonFile (some (err, contents))) =>
      if err ≠ "" then .done (.error err)
      else if contents.any (·.nextRaw) then .raw contents
      else .done (.ok contents)
  | some .monitorReady => .wait
  | _ => .done (.error "failed to get clipboard data from cm")

/-- The long contents are cut from the raw frame. -/
def splitContents : List ClipboardNonFile → Bytes → Option (List ClipboardNonFile)
  | [], _ => some []
  | c :: contents, data =>
      if c.nextRaw then
        if data.length < c.contentLen then none
        else
          (splitContents contents (data.drop c.contentLen)).map fun contents =>
            { c with content := data.take c.contentLen } :: contents
      else (splitContents contents data).map fun contents => c :: contents

/-- What may happen while the clipboard is read from the connection manager. -/
inductive ClipboardEvent
  /-- `read_clipboard_from_cm_ipc` is called; the arguments are how sending on the stream
  it has ends, how connecting anew ends and whether the manager then says
  `MonitorReady`, and how sending again ends. -/
  | call (sent : Except String Unit) (connected : Except String Bool)
      (sentAgain : Except String Unit)
  /-- The manager reads its clipboard for the oldest request. -/
  | serve (read : Except CmError (List Clipboard))
  /-- The call gets a frame. -/
  | receive
  /-- The call has waited for 800 ms, or for 1000 ms if it waits for a raw frame. -/
  | timeout
  /-- The call finds the stream closed. -/
  | reset

namespace Handler

/-- A service that has not called yet. -/
def new : Handler := ⟨none, none, 0, fun _ => none⟩

section

/- How a message is written, and what a frame is read as. -/
variable (toVec : CmMessage → Bytes) (fromBytes : Bytes → Option CmMessage)
variable (handler : Handler)

/-- `ConnectionTmpl::next`. -/
def next : CmFrame → Option CmMessage
  | .json message => some message
  | .raw bytes => fromBytes bytes

/-- `ConnectionTmpl::next_raw`. -/
def nextRaw : CmFrame → Bytes
  | .json message => toVec message
  | .raw bytes => bytes

/-- A stream to a new task of the manager, after the request of a call. -/
def connect (number : Nat) (greets : Bool) : Lib.Mailbox Nat CmFrame :=
  Lib.Mailbox.ask
    ⟨[], if greets then [(number, .json .monitorReady)] else []⟩ number

/-- A call connects anew and sends its request. -/
def reconnect (number : Nat) (connected : Except String Bool)
    (sentAgain : Except String Unit) : Handler × Option (Nat × Returned) :=
  match connected with
  | .error error => (handler, some (number, .error error))
  | .ok greets =>
      match sentAgain with
      | .error error => (handler, some (number, .error error))
      | .ok () =>
          ({ handler with
            stream := some (connect number greets), calling := some (.answer number) }, none)

/-- The beginning of `read_clipboard_from_cm_ipc`. -/
def begin (sent : Except String Unit) (connected : Except String Bool)
    (sentAgain : Except String Unit) : Handler × Option (Nat × Returned) :=
  let number := handler.calls
  let later := { handler with calls := number + 1 }
  match handler.stream with
  | none => later.reconnect number connected sentAgain
  | some stream =>
      match sent with
      | .error _ => later.reconnect number connected sentAgain
      | .ok () =>
          ({ later with
            stream := some (stream.ask number), calling := some (.answer number) }, none)

/-- The call that is in progress gets a frame. -/
def receive (calling : Calling) (stream : Lib.Mailbox Nat CmFrame) (frame : CmFrame) :
    Handler × Option (Nat × Returned) :=
  let later := { handler with stream := some stream.read }
  match calling with
  | .answer number =>
      match readAnswer (next fromBytes frame) with
      | .wait => (later, none)
      | .raw contents => ({ later with calling := some (.raw number contents) }, none)
      | .done returned => ({ later with calling := none }, some (number, returned))
  | .raw number contents =>
      match splitContents contents (nextRaw toVec frame) with
      | some contents => ({ later with calling := none }, some (number, .ok contents))
      | none => ({ later with calling := none }, some (number, .panicked))

/-- One event, and what a call returns at it. -/
def act : ClipboardEvent → Handler × Option (Nat × Returned)
  | .call sent connected sentAgain =>
      match handler.calling with
      | some _ => (handler, none)
      | none => handler.begin sent connected sentAgain
  | .serve read =>
      match handler.stream with
      | none => (handler, none)
      | some stream =>
          match stream.asked with
          | [] => (handler, none)
          | number :: _ =>
              ({ handler with
                stream := some (stream.reply 0 fun _ => answerFrames read)
                reads := Function.update handler.reads number (some read) }, none)
  | .receive =>
      match handler.calling with
      | none => (handler, none)
      | some calling =>
          match handler.stream with
          | none => (handler, none)
          | some stream =>
              match stream.arrived with
              | [] => (handler, none)
              | part :: _ => handler.receive toVec fromBytes calling stream part.2
  | .timeout =>
      match handler.calling with
      | none => (handler, none)
      | some (.answer number) =>
          ({ handler with calling := none },
            some (number, .error "deadline has elapsed"))
      | some (.raw number contents) =>
          -- The raw frame is given up, but what has been read is returned.
          ({ handler with calling := none, stream := none }, some (number, .ok contents))
  | .reset =>
      match handler.calling with
      | none => (handler, none)
      | some (.answer number) =>
          ({ handler with calling := none }, some (number, .error "reset by the peer"))
      | some (.raw number _) =>
          ({ handler with calling := none, stream := none },
            some (number, .error
              "failed to get raw clipboard data: reset by the peer"))

/-- The service after one event. -/
def step (event : ClipboardEvent) : Handler :=
  (handler.act toVec fromBytes event).1

/-- Contents that a call returns are what the manager has read for this call. -/
def Own (event : ClipboardEvent) : Prop :=
  ∀ number contents,
    (handler.act toVec fromBytes event).2 = some (number, .ok contents) →
      ∃ clipboards, handler.reads number = some (.ok clipboards) ∧
        contents = clipboards.map Clipboard.whole

end

variable (handler : Handler)

/-- A stream is used again only if all requests on it are answered and all answers are
read, and a raw frame comes in time. -/
def Careful : ClipboardEvent → Prop
  | .call sent _ _ =>
      handler.calling = none → sent = .ok () → ∀ stream, handler.stream = some stream →
        stream.asked = [] ∧ stream.arrived = []
  | .timeout => ∀ number contents, handler.calling ≠ some (.raw number contents)
  | .serve _ | .receive | .reset => True

/-- The stream of a call has its request and nothing but greetings, or what is left of
the answer to it. -/
def AwaitsAnswer (number : Nat) (stream : Lib.Mailbox Nat CmFrame) : Prop :=
  ∃ greetings : List (Nat × CmFrame),
    (∀ part ∈ greetings, part = (number, .json .monitorReady)) ∧
      ((stream.asked = [number] ∧ stream.arrived = greetings) ∨
        ∃ read, stream.asked = [] ∧ handler.reads number = some read ∧
          stream.arrived = greetings ++ (answerFrames read).map fun frame => (number, frame))

/-- The stream of a call that has read a message has the long contents for it. -/
def AwaitsRaw (number : Nat) (contents : List ClipboardNonFile)
    (stream : Lib.Mailbox Nat CmFrame) : Prop :=
  ∃ clipboards, stream.asked = [] ∧ handler.reads number = some (.ok clipboards) ∧
    contents = clipboards.map Clipboard.entry ∧
    stream.arrived = (rawFrames clipboards).map fun frame => (number, frame)

/-- While a call waits, its stream has its own answer. -/
structure Owned : Prop where
  answer : ∀ number, handler.calling = some (.answer number) →
    ∃ stream, handler.stream = some stream ∧ handler.AwaitsAnswer number stream
  raw : ∀ number contents, handler.calling = some (.raw number contents) →
    ∃ stream, handler.stream = some stream ∧ handler.AwaitsRaw number contents stream

end Handler

/-! ## Cutting contents -/

/-- The long contents are cut where they were joined. -/
theorem splitContents_rawContents (clipboards : List Clipboard) :
    splitContents (clipboards.map Clipboard.entry) (rawContents clipboards) =
      some (clipboards.map Clipboard.whole) := by
  induction clipboards with
  | nil => rfl
  | cons c clipboards inductionHypothesis =>
      rw [List.map_cons, List.map_cons, splitContents]
      by_cases long : longContent < c.content.length
      · have raw : rawContents (c :: clipboards) = c.content ++ rawContents clipboards := by
          simp [rawContents, long]
        have isLong : c.entry.nextRaw = true := decide_eq_true long
        have length : c.entry.contentLen = c.content.length := rfl
        rw [raw, if_pos isLong, length, if_neg (by simp), List.drop_left, List.take_left,
          inductionHypothesis]
        rfl
      · have raw : rawContents (c :: clipboards) = rawContents clipboards := by
          simp [rawContents, long]
        have isShort : ¬c.entry.nextRaw = true := by
          simpa [Clipboard.entry] using long
        have whole : c.entry = c.whole := by
          simp [Clipboard.whole, Clipboard.entry, long]
        rw [raw, if_neg isShort, inductionHypothesis, whole]
        rfl

/-- Without a long content, the message has all contents. -/
theorem map_entry_of_short
    {clipboards : List Clipboard}
    (short : (clipboards.map Clipboard.entry).any (·.nextRaw) = false) :
    clipboards.map Clipboard.entry = clipboards.map Clipboard.whole := by
  apply List.map_congr_left
  intro c member
  have notLong : c.entry.nextRaw = false := by
    rw [List.any_eq_false] at short
    simpa using short c.entry (List.mem_map_of_mem member)
  have isShort : ¬longContent < c.content.length := by
    simpa [Clipboard.entry] using notLong
  simp [Clipboard.whole, Clipboard.entry, isShort]

/-- The frame of the long contents has all of them. -/
theorem nextRaw_of_mem_rawFrames
    (toVec : CmMessage → Bytes)
    {clipboards : List Clipboard}
    {frame : CmFrame}
    (member : frame ∈ rawFrames clipboards) :
    Handler.nextRaw toVec frame = rawContents clipboards := by
  unfold rawFrames at member
  split at member
  · cases member
  · rw [List.mem_singleton.mp member]
    rfl

namespace Handler

variable {toVec : CmMessage → Bytes} {fromBytes : Bytes → Option CmMessage}
variable {handler : Handler}

/-! ## Every event leaves a call its own answer -/

theorem owned_idle (idle : handler.calling = none) : handler.Owned where
  answer := by
    intro number calling
    rw [idle] at calling
    cases calling
  raw := by
    intro number contents calling
    rw [idle] at calling
    cases calling

/-- A call that waits for an answer on a stream that has it is in order. -/
theorem owned_answer
    {number : Nat}
    {stream : Lib.Mailbox Nat CmFrame}
    (calling : handler.calling = some (.answer number))
    (hasStream : handler.stream = some stream)
    (awaits : handler.AwaitsAnswer number stream) :
    handler.Owned where
  answer := by
    intro caller isCaller
    rw [calling] at isCaller
    cases isCaller
    exact ⟨stream, hasStream, awaits⟩
  raw := by
    intro caller contents isCaller
    rw [calling] at isCaller
    cases isCaller

theorem owned_raw
    {number : Nat}
    {contents : List ClipboardNonFile}
    {stream : Lib.Mailbox Nat CmFrame}
    (calling : handler.calling = some (.raw number contents))
    (hasStream : handler.stream = some stream)
    (awaits : handler.AwaitsRaw number contents stream) :
    handler.Owned where
  answer := by
    intro caller isCaller
    rw [calling] at isCaller
    cases isCaller
  raw := by
    intro caller others isCaller
    rw [calling] at isCaller
    cases isCaller
    exact ⟨stream, hasStream, awaits⟩

theorem owned_reconnect
    (idle : handler.calling = none)
    (number : Nat)
    (connected : Except String Bool)
    (sentAgain : Except String Unit) :
    (handler.reconnect number connected sentAgain).1.Owned := by
  unfold reconnect
  split
  · exact owned_idle idle
  · next greets =>
      split
      · exact owned_idle idle
      · refine @owned_answer _ number _ rfl rfl
          ⟨(connect number greets).arrived, ?_, .inl ⟨rfl, rfl⟩⟩
        intro part member
        cases greets with
        | false => cases member
        | true => exact List.mem_singleton.mp member

/-- A call that begins on a stream with nothing left finds its own answer. -/
theorem owned_begin
    (idle : handler.calling = none)
    {sent : Except String Unit}
    {connected : Except String Bool}
    {sentAgain : Except String Unit}
    (careful : handler.Careful (.call sent connected sentAgain)) :
    (handler.begin sent connected sentAgain).1.Owned := by
  unfold begin
  dsimp only
  split
  · exact owned_reconnect (by exact idle) _ _ _
  · next stream hasStream =>
      split
      · exact owned_reconnect (by exact idle) _ _ _
      · obtain ⟨noneAsked, noneArrived⟩ := careful idle rfl stream hasStream
        refine @owned_answer _ handler.calls _ rfl rfl
          ⟨[], ?_, .inl ⟨?_, noneArrived⟩⟩
        · intro part member
          cases member
        · rw [Lib.Mailbox.ask, noneAsked]
          rfl

/-- The manager answers the request of the call that waits. -/
theorem owned_serve
    (owned : handler.Owned)
    (read : Except CmError (List Clipboard)) :
    (handler.step toVec fromBytes (.serve read)).Owned := by
  rw [step, act]
  split
  · exact owned
  · next stream hasStream =>
      split
      · exact owned
      · next number others asked =>
          cases calling : handler.calling with
          | none => exact owned_idle rfl
          | some waiting =>
              cases waiting with
              | answer caller =>
                  obtain ⟨current, isCurrent, greetings, allGreetings,
                    ⟨onlyAsked, arrived⟩ | ⟨_, nothing, _⟩⟩ := owned.answer caller calling
                  · rw [hasStream, Option.some.injEq] at isCurrent
                    subst isCurrent
                    rw [asked] at onlyAsked
                    cases onlyAsked
                    refine owned_answer rfl rfl
                      ⟨greetings, allGreetings, .inr ⟨read, ?_, ?_, ?_⟩⟩
                    · simp [Lib.Mailbox.reply, asked]
                    · exact Function.update_self _ _ _
                    · simp [Lib.Mailbox.reply, asked, arrived]
                  · rw [hasStream, Option.some.injEq] at isCurrent
                    subst isCurrent
                    rw [asked] at nothing
                    cases nothing
              | raw caller contents =>
                  obtain ⟨current, isCurrent, clipboards, nothing, _⟩ :=
                    owned.raw caller contents calling
                  rw [hasStream, Option.some.injEq] at isCurrent
                  subst isCurrent
                  rw [asked] at nothing
                  cases nothing

/-- The contents are those that have been read for a call. -/
def OwnContents (handler : Handler) (outcome : Option (Nat × Returned)) : Prop :=
  ∀ number contents, outcome = some (number, .ok contents) →
    ∃ clipboards, handler.reads number = some (.ok clipboards) ∧
      contents = clipboards.map Clipboard.whole

/-- A greeting is passed over. -/
theorem receive_greeting
    {number : Nat}
    {stream : Lib.Mailbox Nat CmFrame}
    (calling : handler.calling = some (.answer number))
    (awaits : handler.AwaitsAnswer number stream.read) :
    (handler.receive toVec fromBytes (.answer number) stream
        (.json .monitorReady)).1.Owned ∧
      OwnContents handler (handler.receive toVec fromBytes (.answer number) stream
        (.json .monitorReady)).2 := by
  refine ⟨@owned_answer _ _ stream.read calling rfl awaits, ?_⟩
  intro caller contents returned
  cases returned

/-- The message of an answer is returned, or the frame of its long contents comes next. -/
theorem receive_message
    {number : Nat}
    {stream : Lib.Mailbox Nat CmFrame}
    {read : Except CmError (List Clipboard)}
    {frame : CmFrame}
    {rest : List CmFrame}
    (noneAsked : stream.asked = [])
    (isRead : handler.reads number = some read)
    (isAnswer : answerFrames read = frame :: rest)
    (remaining : stream.read.arrived = rest.map fun frame => (number, frame)) :
    (handler.receive toVec fromBytes (.answer number) stream frame).1.Owned ∧
      OwnContents handler
        (handler.receive toVec fromBytes (.answer number) stream frame).2 := by
  cases read with
  | error error =>
      cases isAnswer
      have failed : readAnswer (next fromBytes
          (.json (.clipboardNonFile (some (error.text, []))))) =
            .done (.error error.text) := if_pos error.nonempty
      simp only [receive, failed]
      refine ⟨owned_idle rfl, ?_⟩
      intro caller contents returned
      cases returned
  | ok clipboards =>
      cases isAnswer
      cases anyLong : (clipboards.map Clipboard.entry).any (·.nextRaw) with
      | true =>
          have goesOn : readAnswer (next fromBytes (.json (.clipboardNonFile
              (some ("", clipboards.map Clipboard.entry))))) =
                .raw (clipboards.map Clipboard.entry) := by
            simp [readAnswer, next, anyLong]
          simp only [receive, goesOn]
          refine ⟨owned_raw rfl rfl ⟨clipboards, noneAsked, isRead, rfl, remaining⟩, ?_⟩
          intro caller contents returned
          cases returned
      | false =>
          have ends : readAnswer (next fromBytes (.json (.clipboardNonFile
              (some ("", clipboards.map Clipboard.entry))))) =
                .done (.ok (clipboards.map Clipboard.entry)) := by
            simp [readAnswer, next, anyLong]
          simp only [receive, ends]
          refine ⟨owned_idle rfl, ?_⟩
          rintro caller contents ⟨⟩
          exact ⟨clipboards, isRead, map_entry_of_short anyLong⟩

/-- The long contents are put where they belong. -/
theorem receive_raw
    {number : Nat}
    {contents : List ClipboardNonFile}
    {stream : Lib.Mailbox Nat CmFrame}
    {part : Nat × CmFrame}
    (awaits : handler.AwaitsRaw number contents stream)
    (arrived : part ∈ stream.arrived) :
    (handler.receive toVec fromBytes (.raw number contents) stream part.2).1.Owned ∧
      OwnContents handler
        (handler.receive toVec fromBytes (.raw number contents) stream part.2).2 := by
  obtain ⟨clipboards, _, isRead, rfl, remaining⟩ := awaits
  rw [remaining] at arrived
  obtain ⟨frame, isRaw, rfl⟩ := List.mem_map.mp arrived
  have filled : splitContents (clipboards.map Clipboard.entry) (nextRaw toVec frame) =
      some (clipboards.map Clipboard.whole) := by
    rw [nextRaw_of_mem_rawFrames toVec isRaw, splitContents_rawContents]
  simp only [receive, filled]
  refine ⟨owned_idle rfl, ?_⟩
  rintro caller contents ⟨⟩
  exact ⟨clipboards, isRead, rfl⟩

/-- The call that waits gets nothing but its own answer. -/
theorem owned_receive
    (owned : handler.Owned) :
    (handler.step toVec fromBytes .receive).Owned ∧
      handler.Own toVec fromBytes .receive := by
  have stays : handler.Owned ∧ OwnContents handler none := by
    refine ⟨owned, ?_⟩
    intro caller contents returned
    cases returned
  unfold step Own
  rw [act]
  split
  · exact stays
  · next waiting calling =>
      split
      · exact stays
      · next stream hasStream =>
          split
          · exact stays
          · next part rest arrived =>
              cases waiting with
              | answer number =>
                  obtain ⟨current, isCurrent, greetings, allGreetings, awaits⟩ :=
                    owned.answer number calling
                  rw [hasStream, Option.some.injEq] at isCurrent
                  subst isCurrent
                  cases greetings with
                  | cons greeting greetings =>
                      have isGreeting : part = (number, .json .monitorReady) := by
                        refine allGreetings part ?_
                        rcases awaits with ⟨_, only⟩ | ⟨_, _, _, only⟩ <;>
                          rw [arrived] at only <;> cases only <;> exact List.mem_cons_self
                      subst isGreeting
                      refine receive_greeting calling
                        ⟨greetings, fun other member =>
                          allGreetings other (List.mem_cons_of_mem _ member), ?_⟩
                      rcases awaits with ⟨asked, only⟩ | ⟨read, asked, isRead, only⟩
                      · exact .inl ⟨asked, by rw [Lib.Mailbox.read, only]; rfl⟩
                      · exact .inr ⟨read, asked, isRead, by rw [Lib.Mailbox.read, only]; rfl⟩
                  | nil =>
                      rcases awaits with ⟨_, nothing⟩ | ⟨read, asked, isRead, only⟩
                      · rw [arrived] at nothing
                        cases nothing
                      · rw [arrived, List.nil_append] at only
                        obtain ⟨frame, frames, isAnswer, isPart, isRest⟩ :=
                          List.map_eq_cons_iff.mp only.symm
                        subst isPart
                        refine receive_message asked isRead isAnswer ?_
                        rw [Lib.Mailbox.read, arrived]
                        exact isRest.symm
              | raw number contents =>
                  obtain ⟨current, isCurrent, awaits⟩ := owned.raw number contents calling
                  rw [hasStream, Option.some.injEq] at isCurrent
                  subst isCurrent
                  exact receive_raw awaits (by rw [arrived]; exact List.mem_cons_self)

/-- Every event of a careful run leaves a call its own answer, and returns nothing
else. -/
theorem owned_act
    (owned : handler.Owned)
    {event : ClipboardEvent}
    (careful : handler.Careful event) :
    (handler.step toVec fromBytes event).Owned ∧ handler.Own toVec fromBytes event := by
  have nothing {outcome : Option (Nat × Returned)}
      (fails : ∀ number contents, outcome ≠ some (number, .ok contents)) :
      OwnContents handler outcome := by
    intro number contents returned
    exact absurd returned (fails number contents)
  cases event with
  | call sent connected sentAgain =>
      have fails : ∀ number contents, (handler.act toVec fromBytes
          (.call sent connected sentAgain)).2 ≠ some (number, .ok contents) := by
        intro number contents
        unfold act begin reconnect
        dsimp only
        split
        · simp
        · split
          · split
            · simp
            · split <;> simp
          · split
            · split
              · simp
              · split <;> simp
            · simp
      refine ⟨?_, nothing fails⟩
      rw [step, act]
      split
      · exact owned
      · next idle => exact owned_begin idle careful
  | serve read =>
      refine ⟨owned_serve owned read, nothing ?_⟩
      intro number contents
      rw [act]
      split
      · simp
      · split <;> simp
  | receive => exact owned_receive owned
  | timeout =>
      rw [step, Own, act]
      split
      · exact ⟨owned, nothing (by simp)⟩
      · exact ⟨owned_idle rfl, nothing (by simp)⟩
      · next number contents calling => exact absurd calling (careful number contents)
  | reset =>
      rw [step, Own, act]
      split
      · exact ⟨owned, nothing (by simp)⟩
      · exact ⟨owned_idle rfl, nothing (by simp)⟩
      · exact ⟨owned_idle rfl, nothing (by simp)⟩

/-- While a stream is used again only with nothing left on it, and raw frames come in
time, every call returns what has been read for it, and all of it. -/
theorem contents_are_own
    (toVec : CmMessage → Bytes)
    (fromBytes : Bytes → Option CmMessage)
    (events : List ClipboardEvent)
    (careful : Lib.Along (step toVec fromBytes) Careful new events) :
    Lib.Along (step toVec fromBytes) (Own toVec fromBytes) new events := by
  rw [Lib.along_iff_forall_split]
  intro before event after split
  have owned : (Lib.run (step toVec fromBytes) new before).Owned :=
    Lib.run_invariant Owned
      (fun _ _ owned careful => (owned_act owned careful).1) (owned_idle rfl)
      (careful.restrict ⟨event :: after, split.symm⟩)
  exact (owned_act owned (Lib.along_iff_forall_split.mp careful before event after split)).2

/-- A text of one letter. -/
def letter : Clipboard := ⟨false, [0x61], 0, 0, 0, ""⟩

/-- Two calls on one stream, the second one after all has been read. -/
theorem contents_are_own_twice :
    Lib.Along (step (fun _ => []) fun _ => none) (Own (fun _ => []) fun _ => none) new
      [.call (.error "no stream") (.ok true) (.ok ()), .receive, .serve (.ok [letter]),
        .receive, .call (.ok ()) (.error "not used") (.ok ()), .serve (.ok []),
        .receive] := by
  refine contents_are_own _ _ _ ⟨?_, trivial, trivial, trivial, ?_, trivial, trivial,
    trivial⟩
  · intro _ sent
    cases sent
  · rintro _ _ stream ⟨⟩
    exact ⟨rfl, rfl⟩

/-- A call that has given up leaves its answer to the next call. -/
theorem late_contents_returned :
    ¬ ∀ toVec fromBytes events,
      Lib.Along (step toVec fromBytes) (Own toVec fromBytes) new events := by
  intro own
  have last := Lib.along_iff_forall_split.mp
    (own (fun _ => []) (fun _ => none)
      [.call (.error "no stream") (.ok false) (.ok ()), .timeout, .serve (.ok [letter]),
        .call (.ok ()) (.error "not used") (.ok ()), .receive])
    [.call (.error "no stream") (.ok false) (.ok ()), .timeout, .serve (.ok [letter]),
      .call (.ok ()) (.error "not used") (.ok ())]
    .receive [] rfl
  obtain ⟨clipboards, isRead, _⟩ := last 1 [letter.entry] rfl
  cases isRead

end Handler

end Ipc
end OneDesk
