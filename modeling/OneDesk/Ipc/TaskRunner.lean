import OneDesk.Ipc.Connection

/-!
# The task of the connection manager

For every connection, a task of the connection manager reads messages.  After the
message of a block it takes the next frame for the data of the block, whatever it says,
and otherwise it takes every frame for a message.
-/

namespace OneDesk
namespace Ipc

open OneDesk.Stream

variable {Rest : Type}

/-- What `IpcTaskRunner::run` waits for: a message, or the data of a block. -/
inductive Waiting
  | message
  | block (id fileNum : Int) (compressed : Bool)
  deriving DecidableEq

/-- `IpcTaskRunner`, as far as its channel is read. -/
structure IpcTaskRunner (Rest : Type) where
  waiting : Waiting
  running : Bool
  /-- The messages it has acted on. -/
  seen : List (Data Rest)
  /-- The frames it has read, each as what it was taken for. -/
  taken : List Frame

/-- A message on which the task ends. -/
def Data.isEnd : Data Rest → Bool
  | .close | .disconnected => true
  | .login _ | .clickTime _ | .fs _ | .rest _ => false

namespace IpcTaskRunner

/-- The task of a new channel. -/
def new : IpcTaskRunner Rest := ⟨.message, true, [], []⟩

variable (json : Json Rest) (runner : IpcTaskRunner Rest)

/-- One frame.  After `Login`, and when the user accepts a connection, `run` returns and
is called again: it goes on to read the same channel. -/
def step (frame : Bytes) : IpcTaskRunner Rest :=
  if runner.running then
    match runner.waiting with
    | .message =>
        let taken := runner.taken ++ [.json frame]
        match json.fromBytes frame with
        | none => { runner with taken := taken }
        | some (.fs (.writeBlock id fileNum _ compressed)) =>
            { runner with waiting := .block id fileNum compressed, taken := taken }
        | some data =>
            { runner with
              seen := runner.seen ++ [data], taken := taken, running := !data.isEnd }
    | .block id fileNum compressed =>
        { runner with
          waiting := .message
          seen := runner.seen ++ [.fs (.writeBlock id fileNum frame compressed)]
          taken := runner.taken ++ [.raw frame] }
  else runner

/-- Frames one after another. -/
def reads (frames : List Bytes) : IpcTaskRunner Rest :=
  frames.foldl (step json) runner

/-- What the task has read when its channel has delivered some bytes in pieces. -/
def receives (chunks : List Bytes) : IpcTaskRunner Rest :=
  runner.reads json (BytesCodec.decoder.feed .new [] chunks).1

end IpcTaskRunner

/-- The messages up to the one on which the task ends. -/
def untilEnd : List (Data Rest) → List (Data Rest)
  | [] => []
  | message :: messages => if message.isEnd then [message] else message :: untilEnd messages

/-- The task acts on the messages that have been sent, and takes every frame for what
it was meant as. -/
structure Undisturbed (json : Json Rest) (messages : List (Data Rest))
    (chunks : List Bytes) : Prop where
  /-- Nothing but what is sent is acted on, at any time. -/
  seen : (IpcTaskRunner.new.receives json chunks).seen <+: (startIpc json messages []).1
  taken : ∃ left, (left = [] ∨ ∃ next ∈ messages, Leaves json next left) ∧
    (IpcTaskRunner.new.receives json chunks).taken <+:
      (startIpc json messages []).1.flatMap (Data.frames json) ++ left
  /-- In the end, all that is sent is acted on, until the task ends. -/
  all : chunks.flatten = (startIpc json messages []).2 →
    (IpcTaskRunner.new.receives json chunks).seen = untilEnd (startIpc json messages []).1
  /-- All messages are sent if they fit. -/
  sent : (startIpc json messages []).1 <+: messages ∧
    ((∀ message ∈ messages, message.Fits json) → (startIpc json messages []).1 = messages)

/-! ## Messages and blocks -/

variable {json : Json Rest} {runner : IpcTaskRunner Rest}

theorem untilEnd_starts (messages : List (Data Rest)) : untilEnd messages <+: messages := by
  induction messages with
  | nil => exact List.prefix_rfl
  | cons message messages inductionHypothesis =>
      rw [untilEnd]
      split
      · exact (List.prefix_cons_inj message).mpr List.nil_prefix
      · exact (List.prefix_cons_inj message).mpr inductionHypothesis

/-- The task acts on every message if only the last one ends it. -/
theorem untilEnd_eq
    {messages : List (Data Rest)}
    (endsLast : ∀ before message after, messages = before ++ message :: after →
      message.isEnd = true → after = []) :
    untilEnd messages = messages := by
  induction messages with
  | nil => rfl
  | cons message messages inductionHypothesis =>
      rw [untilEnd]
      split
      · next isEnd => rw [endsLast [] message messages rfl isEnd]
      · rw [inductionHypothesis]
        rintro before other after rfl isEnd
        exact endsLast (message :: before) other after rfl isEnd

namespace IpcTaskRunner

@[simp] theorem reads_nil : runner.reads json [] = runner := rfl

theorem reads_append (first second : List Bytes) :
    runner.reads json (first ++ second) = (runner.reads json first).reads json second :=
  List.foldl_append

theorem reads_of_ended
    (ended : runner.running = false)
    (frames : List Bytes) :
    runner.reads json frames = runner := by
  induction frames with
  | nil => rfl
  | cons frame frames inductionHypothesis =>
      have stays : runner.step json frame = runner := by
        rw [step, ended]
        rfl
      rw [reads, List.foldl_cons, stays]
      exact inductionHypothesis

/-- What is read is never taken back. -/
theorem step_extends (frame : Bytes) :
    runner.seen <+: (runner.step json frame).seen ∧
      runner.taken <+: (runner.step json frame).taken := by
  unfold step
  split
  · split
    · split
      · exact ⟨List.prefix_rfl, List.prefix_append _ _⟩
      · exact ⟨List.prefix_rfl, List.prefix_append _ _⟩
      · exact ⟨List.prefix_append _ _, List.prefix_append _ _⟩
    · exact ⟨List.prefix_append _ _, List.prefix_append _ _⟩
  · exact ⟨List.prefix_rfl, List.prefix_rfl⟩

theorem reads_extends (frames : List Bytes) :
    runner.seen <+: (runner.reads json frames).seen ∧
      runner.taken <+: (runner.reads json frames).taken := by
  induction frames generalizing runner with
  | nil => exact ⟨List.prefix_rfl, List.prefix_rfl⟩
  | cons frame frames inductionHypothesis =>
      obtain ⟨seen, taken⟩ := @step_extends _ json runner frame
      obtain ⟨laterSeen, laterTaken⟩ := @inductionHypothesis (runner.step json frame)
      exact ⟨seen.trans laterSeen, taken.trans laterTaken⟩

/-- A message that is read whole is acted on. -/
theorem reads_message
    {message : Data Rest}
    (waiting : runner.waiting = .message)
    (running : runner.running = true)
    (fits : message.Fits json)
    (roundTrip : ∀ v, json.toVec message.header = .ok v →
      json.fromBytes v = some message.header) :
    runner.reads json ((message.frames json).map Frame.bytes) =
      { runner with
        running := !message.isEnd
        seen := runner.seen ++ [message]
        taken := runner.taken ++ message.frames json } := by
  obtain ⟨⟨v, isJson⟩, _⟩ := fits
  have parsed := roundTrip v isJson
  rcases plain_or_block message with ⟨id, fileNum, data, compressed, rfl⟩ |
    ⟨isHeader, noBody, _⟩
  · simp only [Data.header] at parsed isJson
    simp [Data.frames, Data.header, isJson, Data.body, reads, step, running, waiting, parsed,
      Frame.bytes, Data.isEnd]
  · have frames : message.frames json = [.json v] := by
      rw [Data.frames, isJson, noBody]
    rw [isHeader] at parsed
    rw [frames]
    simp only [reads, List.map_cons, List.map_nil, List.foldl_cons, List.foldl_nil, step,
      running, if_true, waiting, Frame.bytes, parsed]
    split
    · next absent => cases absent
    · next id fileNum data compressed isBlock =>
        cases isBlock
        cases noBody
    · next other _ isOther =>
        cases isOther
        rfl

/-- The first frame of a message that is not sent whole is acted on by nobody. -/
theorem reads_left
    {message : Data Rest}
    {left : List Frame}
    (waiting : runner.waiting = .message)
    (running : runner.running = true)
    (leaves : Leaves json message left)
    (roundTrip : ∀ v, json.toVec message.header = .ok v →
      json.fromBytes v = some message.header) :
    (runner.reads json (left.map Frame.bytes)).seen = runner.seen ∧
      (runner.reads json (left.map Frame.bytes)).taken = runner.taken ++ left := by
  rcases leaves with rfl | ⟨v, isJson, rfl, hasBody⟩
  · exact ⟨rfl, (List.append_nil _).symm⟩
  · have parsed := roundTrip v isJson
    rcases plain_or_block message with ⟨id, fileNum, data, compressed, rfl⟩ |
      ⟨_, noBody, _⟩
    · simp only [Data.header] at parsed
      simp [reads, step, running, waiting, parsed, Frame.bytes]
    · exact absurd noBody hasBody

/-- Messages that are read whole are acted on until the task ends, and what is left of
another one is not. -/
theorem reads_messages
    {messages : List (Data Rest)}
    {left : List Frame}
    (waiting : runner.waiting = .message)
    (running : runner.running = true)
    (fits : ∀ message ∈ messages, message.Fits json)
    (roundTrip : ∀ message ∈ messages, ∀ v, json.toVec message.header = .ok v →
      json.fromBytes v = some message.header)
    (leaves : left = [] ∨ ∃ next, Leaves json next left ∧
      ∀ v, json.toVec next.header = .ok v → json.fromBytes v = some next.header) :
    (runner.reads json ((messages.flatMap (Data.frames json) ++ left).map
        Frame.bytes)).seen = runner.seen ++ untilEnd messages ∧
      (runner.reads json ((messages.flatMap (Data.frames json) ++ left).map
        Frame.bytes)).taken <+:
        runner.taken ++ (messages.flatMap (Data.frames json) ++ left) := by
  induction messages generalizing runner with
  | nil =>
      rcases leaves with rfl | ⟨next, leaves, nextRoundTrip⟩
      · simp [untilEnd]
      · obtain ⟨seen, taken⟩ := reads_left waiting running leaves nextRoundTrip
        simp only [List.flatMap_nil, List.nil_append]
        refine ⟨by rw [seen, untilEnd, List.append_nil], ?_⟩
        rw [taken]
  | cons message messages inductionHypothesis =>
      have now := reads_message waiting running (fits message List.mem_cons_self)
        (roundTrip message List.mem_cons_self)
      rw [List.flatMap_cons, List.append_assoc, List.map_append, reads_append, now, untilEnd]
      cases isEnd : message.isEnd with
      | true =>
          rw [reads_of_ended (by rfl)]
          refine ⟨rfl, ?_⟩
          rw [← List.append_assoc runner.taken]
          exact List.prefix_append _ _
      | false =>
          obtain ⟨seen, taken⟩ := @inductionHypothesis
            { runner with
              running := !false
              seen := runner.seen ++ [message]
              taken := runner.taken ++ message.frames json }
            waiting rfl
            (fun other member => fits other (List.mem_cons_of_mem message member))
            (fun other member => roundTrip other (List.mem_cons_of_mem message member))
          refine ⟨?_, ?_⟩
          · rw [seen]
            simp
          · rw [← List.append_assoc runner.taken]
            exact taken

end IpcTaskRunner

/-! ## Bytes on the channel -/

/-- What has come out of a part of a stream comes out first of the whole. -/
theorem feed_extends
    {chunks : List Bytes}
    {stream : Bytes}
    (isPart : chunks.flatten <+: stream) :
    (BytesCodec.decoder.feed .new [] chunks).1 <+:
      (BytesCodec.decoder.drain .new stream).1 := by
  obtain ⟨more, rfl⟩ := isPart
  rw [BytesCodec.feed_eq_drain rfl rfl,
    BytesCodec.decoder_resumable.drain_append more .new chunks.flatten rfl]
  split
  · next frames next rest drained =>
      rw [drained]
      exact List.prefix_append _ _
  · next frames failure drained =>
      rw [drained]

/-- Frames that are written come out again. -/
theorem Writes.drain
    {frames : List Frame}
    {after : Bytes}
    (writes : Writes frames [] after) :
    (BytesCodec.decoder.drain .new after).1 = frames.map Frame.bytes := by
  obtain ⟨stream, encoded, drained⟩ := BytesCodec.encodeAll_drain .new rfl rfl .new rfl
    (frames.map Frame.bytes) (by
      intro data member
      obtain ⟨frame, isFrame, rfl⟩ := List.mem_map.mp member
      have short := writes.1 frame isFrame
      exact ⟨short, short.trans (by decide)⟩)
  have isStream := writes.2
  rw [encoded, List.nil_append] at isStream
  cases isStream
  rw [drained]

/-- However the channel cuts what is sent, and whatever bytes a block has, the task acts
on the messages that are sent, and takes no data of a block for a message and no message
for data of a block. -/
theorem block_data_is_no_command
    (json : Json Rest)
    (messages : List (Data Rest))
    (roundTrip : ∀ message ∈ messages, ∀ v, json.toVec message.header = .ok v →
      json.fromBytes v = some message.header)
    (chunks : List Bytes)
    (isPart : chunks.flatten <+: (startIpc json messages []).2) :
    Undisturbed json messages chunks ∧
      ((∀ before message after, messages = before ++ message :: after →
          message.isEnd = true → after = []) →
        (∀ message ∈ messages, message.Fits json) →
        chunks.flatten = (startIpc json messages []).2 →
        (IpcTaskRunner.new.receives json chunks).seen = messages) := by
  have sends := startIpc_sends json messages []
  obtain ⟨left, writes, leaves⟩ := sends.writes
  have left_cases : left = [] ∨ ∃ next, Leaves json next left ∧
      ∀ v, json.toVec next.header = .ok v → json.fromBytes v = some next.header := by
    rcases leaves with nothing | ⟨next, member, leaves⟩
    · exact .inl nothing
    · exact .inr ⟨next, leaves, roundTrip next member⟩
  have waiting : (IpcTaskRunner.new : IpcTaskRunner Rest).waiting = .message := rfl
  obtain ⟨seen, taken⟩ := IpcTaskRunner.reads_messages waiting rfl sends.fits
    (fun message member => roundTrip message (sends.isPrefix.subset member)) left_cases
  rw [← writes.drain] at seen taken
  obtain ⟨later, isDrained⟩ := feed_extends isPart
  rw [← isDrained, IpcTaskRunner.reads_append] at seen taken
  obtain ⟨seenBefore, takenBefore⟩ :=
    @IpcTaskRunner.reads_extends _ json (IpcTaskRunner.new.receives json chunks) later
  have all (whole : chunks.flatten = (startIpc json messages []).2) :
      (IpcTaskRunner.new.receives json chunks).seen =
        untilEnd (startIpc json messages []).1 := by
    have nothing : later = [] := by
      rw [BytesCodec.feed_eq_drain rfl rfl, whole] at isDrained
      exact List.append_right_eq_self.mp isDrained
    rw [nothing] at seen
    exact seen
  refine ⟨⟨?_, ⟨left, leaves, takenBefore.trans taken⟩, all, sends.isPrefix,
    sends.all_of_fits⟩, ?_⟩
  · refine seenBefore.trans ?_
    have inOrder : IpcTaskRunner.new.seen ++ untilEnd (startIpc json messages []).1 <+:
        (startIpc json messages []).1 := untilEnd_starts _
    rw [← seen] at inOrder
    exact inOrder
  · intro endsLast allFit whole
    rw [all whole, sends.all_of_fits allFit, untilEnd_eq endsLast]

/-- The bytes of a text in ASCII. -/
def asciiBytes (text : String) : Bytes :=
  text.toList.map fun char => UInt8.ofNat char.toNat

/-- `Close` as JSON. -/
def closeJson : Bytes := asciiBytes "\x7b\"t\":\"Close\"\x7d"

/-- JSON for `Close` and for the first block of a file. -/
def sampleJson : Json Unit where
  toVec
    | .close => .ok closeJson
    | .fs (.writeBlock 1 0 [] false) => .ok (asciiBytes
        "\x7b\"t\":\"FS\",\"c\":\x7b\"t\":\"WriteBlock\",\"c\":\x7b\"id\":1,\"file_num\":0,\"data\":[],\"compressed\":false\x7d\x7d\x7d")
    | _ => .error "not used"
  fromBytes bytes :=
    if bytes = closeJson then some .close
    else if bytes = asciiBytes
        "\x7b\"t\":\"FS\",\"c\":\x7b\"t\":\"WriteBlock\",\"c\":\x7b\"id\":1,\"file_num\":0,\"data\":[],\"compressed\":false\x7d\x7d\x7d"
    then some (.fs (.writeBlock 1 0 [] false))
    else none

/-- A file whose first block says `Close`, and the end of its connection. -/
def closeInBlock : List (Data Unit) :=
  [.fs (.writeBlock 1 0 closeJson false), .close]

/-- The block is written to the file, and only the message after it ends the task. -/
theorem block_data_is_no_command_close :
    Undisturbed sampleJson closeInBlock [(startIpc sampleJson closeInBlock []).2] ∧
      ((∀ before message after, closeInBlock = before ++ message :: after →
          message.isEnd = true → after = []) →
        (∀ message ∈ closeInBlock, message.Fits sampleJson) →
        [(startIpc sampleJson closeInBlock []).2].flatten =
          (startIpc sampleJson closeInBlock []).2 →
        (IpcTaskRunner.new.receives sampleJson
          [(startIpc sampleJson closeInBlock []).2]).seen = closeInBlock) := by
  refine block_data_is_no_command sampleJson closeInBlock ?_ _
    (List.flatten_singleton ▸ List.prefix_rfl)
  intro message member v isJson
  simp only [closeInBlock, List.mem_cons, List.not_mem_nil, or_false] at member
  rcases member with rfl | rfl
  · cases isJson
    decide +kernel
  · cases isJson
    decide +kernel

end Ipc
end OneDesk
