import OneDesk.Server.Message
import OneDesk.Stream.BytesCodec

/-!
# Messages to the connection manager

A connection tells the connection manager what to do over a local channel.  A message
is one frame of JSON, but the data of a block of a file are not written as JSON: they
follow the message in a frame of their own.
-/

namespace OneDesk
namespace Ipc

open OneDesk.Stream

/-- `FS`. -/
inductive FS
  | readEmptyDirs (dir : String) (includeHidden : Bool)
  | readDir (dir : String) (includeHidden : Bool)
  | removeDir (path : String) (id : Int) (recursive : Bool)
  | removeFile (path : String) (id fileNum : Int)
  | createDir (path : String) (id : Int)
  | newWrite (path : String) (id fileNum : Int) (files : List (String × Nat))
      (overwriteDetection : Bool) (totalSize : Nat) (connId : Int)
  | cancelWrite (id : Int)
  | writeBlock (id fileNum : Int) (data : Bytes) (compressed : Bool)
  | writeDone (id fileNum : Int)
  | writeError (id fileNum : Int) (err : String)
  | writeOffset (id fileNum : Int) (offsetBlk : Nat)
  | checkDigest (id fileNum : Int) (fileSize lastModified : Nat) (isUpload isResume : Bool)
  | sendConfirm (confirm : Bytes)
  | rename (id : Int) (path newName : String)
  deriving DecidableEq

/-- `Data`; what makes no difference to how the channel is read is `Rest`. -/
inductive Data (Rest : Type)
  | login (login : Server.CmLogin)
  | close
  | disconnected
  | clickTime (ms : Int)
  | fs (command : FS)
  | rest (message : Rest)
  deriving DecidableEq

variable {Rest : Type}

/-- What is written as JSON for a message. -/
def Data.header : Data Rest → Data Rest
  | .fs (.writeBlock id fileNum _ compressed) => .fs (.writeBlock id fileNum [] compressed)
  | data => data

/-- JSON: `serde_json::to_vec`, and `serde_json::from_str` of what is UTF-8. -/
structure Json (Rest : Type) where
  toVec : Data Rest → Except String Bytes
  fromBytes : Bytes → Option (Data Rest)

/-- Why a message is not sent. -/
inductive SendError
  | json (error : String)
  | io (error : IoError)

/-- `ConnectionTmpl::send_raw`: what is returned and the bytes written after it. -/
def sendRaw (data written : Bytes) : Except SendError Unit × Bytes :=
  match BytesCodec.new.encode data written with
  | (.ok (), written) => (.ok (), written)
  | (.error error, written) => (.error (.io error), written)

/-- `ConnectionTmpl::send`. -/
def send (json : Json Rest) (data : Data Rest) (written : Bytes) :
    Except SendError Unit × Bytes :=
  match json.toVec data with
  | .error error => (.error (.json error), written)
  | .ok v => sendRaw v written

/-- What `start_ipc` does with one message. -/
def sendMessage (json : Json Rest) (message : Data Rest) (written : Bytes) :
    Except SendError Unit × Bytes :=
  match message with
  | .fs (.writeBlock id fileNum data compressed) =>
      match send json (.fs (.writeBlock id fileNum [] compressed)) written with
      | (.ok (), written) => sendRaw data written
      | (.error error, written) => (.error error, written)
  | message => send json message written

/-- `start_ipc`, once it is connected: the messages it sends until one cannot be sent,
and the bytes it writes.  They are the messages of the connection and the answers to
`ClickTime`, in the order they are taken up. -/
def startIpc (json : Json Rest) : List (Data Rest) → Bytes → List (Data Rest) × Bytes
  | [], written => ([], written)
  | message :: messages, written =>
      match sendMessage json message written with
      | (.ok (), written) =>
          (message :: (startIpc json messages written).1,
            (startIpc json messages written).2)
      | (.error _, written) => ([], written)

/-! ## Frames -/

/-- A frame, and what it is meant as. -/
inductive Frame
  | json (bytes : Bytes)
  | raw (bytes : Bytes)
  deriving DecidableEq

/-- The payload of a frame. -/
def Frame.bytes : Frame → Bytes
  | .json bytes => bytes
  | .raw bytes => bytes

/-- The data of a block, which go in a frame of their own. -/
def Data.body : Data Rest → List Frame
  | .fs (.writeBlock _ _ data _) => [.raw data]
  | _ => []

/-- The frames of a message. -/
def Data.frames (json : Json Rest) (message : Data Rest) : List Frame :=
  match json.toVec message.header with
  | .error _ => []
  | .ok v => .json v :: message.body

/-- A message can be written as JSON, and its frames are not too long. -/
def Data.Fits (json : Json Rest) (message : Data Rest) : Prop :=
  (∃ v, json.toVec message.header = .ok v) ∧
    ∀ frame ∈ message.frames json, frame.bytes.length ≤ maxPayload

/-- Frames are written one after another. -/
def Writes (frames : List Frame) (written after : Bytes) : Prop :=
  (∀ frame ∈ frames, frame.bytes.length ≤ maxPayload) ∧
    BytesCodec.new.encodeAll (frames.map Frame.bytes) written = (.ok (), after)

variable {json : Json Rest} {written after : Bytes}

theorem Writes.nil (written : Bytes) : Writes [] written written :=
  ⟨fun _ member => absurd member List.not_mem_nil, rfl⟩

/-- A frame that is not too long is written. -/
theorem sendRaw_of_le
    (frame : Frame)
    (fits : frame.bytes.length ≤ maxPayload)
    (written : Bytes) :
    ∃ after, sendRaw frame.bytes written = (.ok (), after) ∧ Writes [frame] written after := by
  have notRaw : BytesCodec.new.raw = false := rfl
  obtain ⟨head, _, encoded⟩ := BytesCodec.encode_announces notRaw fits
  refine ⟨written ++ (head ++ frame.bytes), ?_, ?_, ?_⟩
  · rw [sendRaw, encoded]
  · intro other member
    rw [List.mem_singleton.mp member]
    exact fits
  · simp only [List.map_cons, List.map_nil, BytesCodec.encodeAll, encoded]

/-- A frame that is too long is refused. -/
theorem sendRaw_of_lt
    {data : Bytes}
    (long : maxPayload < data.length)
    (written : Bytes) :
    sendRaw data written = (.error (.io overflowError), written) := by
  rw [sendRaw, BytesCodec.encode_of_lt rfl long]

theorem Writes.append
    {first second : List Frame}
    {between : Bytes}
    (writesFirst : Writes first written between)
    (writesSecond : Writes second between after) :
    Writes (first ++ second) written after := by
  refine ⟨?_, ?_⟩
  · intro frame member
    rcases List.mem_append.mp member with inFirst | inSecond
    · exact writesFirst.1 frame inFirst
    · exact writesSecond.1 frame inSecond
  · have encoded := writesFirst.2
    clear writesFirst
    induction first generalizing written with
    | nil =>
        cases encoded
        exact writesSecond.2
    | cons frame first inductionHypothesis =>
        simp only [List.map_cons, List.cons_append, BytesCodec.encodeAll] at encoded ⊢
        cases now : BytesCodec.new.encode frame.bytes written with
        | mk outcome next =>
            cases outcome with
            | error error =>
                rw [now] at encoded
                cases encoded
            | ok sent =>
                rw [now] at encoded
                exact inductionHypothesis encoded

/-- Only the data of a block go in a frame of their own. -/
theorem plain_or_block (message : Data Rest) :
    (∃ id fileNum data compressed,
        message = .fs (.writeBlock id fileNum data compressed)) ∨
      (message.header = message ∧ message.body = [] ∧
        ∀ (json : Json Rest) written, sendMessage json message written =
          send json message written) := by
  cases message with
  | fs command =>
      cases command with
      | writeBlock id fileNum data compressed =>
          exact .inl ⟨id, fileNum, data, compressed, rfl⟩
      | _ => exact .inr ⟨rfl, rfl, fun _ _ => rfl⟩
  | _ => exact .inr ⟨rfl, rfl, fun _ _ => rfl⟩

/-- Writing a message as JSON leaves nothing behind when it fails. -/
theorem send_cases
    (json : Json Rest)
    (data : Data Rest)
    (written : Bytes) :
    (∃ v after, json.toVec data = .ok v ∧ v.length ≤ maxPayload ∧
        send json data written = (.ok (), after) ∧ Writes [.json v] written after) ∨
      ((∀ v, json.toVec data = .ok v → maxPayload < v.length) ∧
        ∃ error, send json data written = (.error error, written)) := by
  unfold send
  cases encoded : json.toVec data with
  | error error =>
      refine .inr ⟨?_, _, rfl⟩
      rintro other ⟨⟩
  | ok v =>
      rcases Nat.lt_or_ge maxPayload v.length with long | fits
      · refine .inr ⟨?_, _, sendRaw_of_lt long written⟩
        rintro other ⟨⟩
        exact long
      · obtain ⟨after, sent, writes⟩ := sendRaw_of_le (.json v) fits written
        exact .inl ⟨v, after, rfl, fits, sent, writes⟩

/-- What is left on the channel by a message that cannot be sent whole: nothing, or its
first frame. -/
def Leaves (json : Json Rest) (message : Data Rest) (frames : List Frame) : Prop :=
  frames = [] ∨
    ∃ v, json.toVec message.header = .ok v ∧ frames = [.json v] ∧ message.body ≠ []

/-- A message that fits is written as its frames; one that does not is not sent. -/
theorem sendMessage_cases
    (json : Json Rest)
    (message : Data Rest)
    (written : Bytes) :
    (message.Fits json ∧ ∃ after, sendMessage json message written = (.ok (), after) ∧
        Writes (message.frames json) written after) ∨
      (¬message.Fits json ∧ ∃ error after left,
        sendMessage json message written = (.error error, after) ∧
          Writes left written after ∧ Leaves json message left) := by
  have failed (refused : ∀ v, json.toVec message.header = .ok v → maxPayload < v.length) :
      ¬message.Fits json := by
    rintro ⟨⟨v, isJson⟩, short⟩
    have head : Frame.json v ∈ message.frames json := by
      rw [Data.frames, isJson]
      exact List.mem_cons_self
    exact absurd (refused v isJson) (Nat.not_lt.mpr (short _ head))
  rcases plain_or_block message with ⟨id, fileNum, data, compressed, rfl⟩ |
    ⟨isHeader, noBody, plain⟩
  · rcases send_cases json (.fs (.writeBlock id fileNum [] compressed)) written with
      ⟨v, between, isJson, short, sent, writes⟩ | ⟨refused, error, notSent⟩
    · have frames : (Data.fs (.writeBlock id fileNum data compressed)).frames json =
          [.json v, .raw data] := by
        rw [Data.frames, Data.header, isJson]
        rfl
      rcases Nat.lt_or_ge maxPayload data.length with long | fits
      · refine .inr ⟨?_, .io overflowError, between, [.json v], ?_, writes,
          .inr ⟨v, isJson, rfl, ?_⟩⟩
        · rintro ⟨_, allShort⟩
          rw [frames] at allShort
          exact absurd (allShort (.raw data) (by simp)) (Nat.not_le.mpr long)
        · simp only [sendMessage, sent, sendRaw_of_lt long]
        · exact List.cons_ne_nil _ _
      · obtain ⟨after, rawSent, rawWrites⟩ := sendRaw_of_le (.raw data) fits between
        refine .inl ⟨⟨⟨v, isJson⟩, ?_⟩, after, ?_, ?_⟩
        · rw [frames]
          exact (writes.append rawWrites).1
        · simp only [sendMessage, sent]
          exact rawSent
        · rw [frames]
          exact writes.append rawWrites
    · exact .inr ⟨failed refused, error, written, [],
        by simp only [sendMessage, notSent], .nil written, .inl rfl⟩
  · rcases send_cases json message written with
      ⟨v, after, isJson, short, sent, writes⟩ | ⟨refused, error, notSent⟩
    · have frames : message.frames json = [.json v] := by
        rw [Data.frames, isHeader, isJson, noBody]
      refine .inl ⟨⟨⟨v, by rw [isHeader, isJson]⟩, ?_⟩, after, ?_, ?_⟩
      · rw [frames]
        exact writes.1
      · rw [plain, sent]
      · rw [frames]
        exact writes
    · rw [← isHeader] at refused
      exact .inr ⟨failed refused, error, written, [], by rw [plain, notSent],
        .nil written, .inl rfl⟩

/-- What `start_ipc` has sent and written at its end. -/
structure Sends (json : Json Rest) (messages sent : List (Data Rest))
    (written after : Bytes) : Prop where
  isPrefix : sent <+: messages
  all_of_fits : (∀ message ∈ messages, message.Fits json) → sent = messages
  fits : ∀ message ∈ sent, message.Fits json
  writes : ∃ left, Writes (sent.flatMap (Data.frames json) ++ left) written after ∧
    (left = [] ∨ ∃ next ∈ messages, Leaves json next left)

/-- The messages are sent in order, up to the first one that does not fit. -/
theorem startIpc_sends
    (json : Json Rest)
    (messages : List (Data Rest))
    (written : Bytes) :
    Sends json messages (startIpc json messages written).1 written
      (startIpc json messages written).2 := by
  induction messages generalizing written with
  | nil =>
      refine ⟨List.prefix_rfl, fun _ => rfl, ?_, [], .nil written, .inl rfl⟩
      intro message member
      cases member
  | cons message messages inductionHypothesis =>
      rcases sendMessage_cases json message written with
        ⟨fits, between, sent, writes⟩ | ⟨notFits, error, after, left, notSent, writes, leaves⟩
      · have rest := inductionHypothesis between
        simp only [startIpc, sent]
        refine ⟨(List.prefix_cons_inj message).mpr rest.isPrefix, ?_, ?_, ?_⟩
        · intro allFit
          rw [rest.all_of_fits fun other member =>
            allFit other (List.mem_cons_of_mem message member)]
        · exact List.forall_mem_cons.mpr ⟨fits, rest.fits⟩
        · obtain ⟨left, restWrites, leaves⟩ := rest.writes
          refine ⟨left, ?_, ?_⟩
          · rw [List.flatMap_cons, List.append_assoc]
            exact writes.append restWrites
          · rcases leaves with nothing | ⟨next, member, leaves⟩
            · exact .inl nothing
            · exact .inr ⟨next, List.mem_cons_of_mem message member, leaves⟩
      · simp only [startIpc, notSent]
        refine ⟨List.nil_prefix, ?_, ?_, left, writes, .inr ⟨message, ?_, leaves⟩⟩
        · intro allFit
          exact absurd (allFit message List.mem_cons_self) notFits
        · intro other member
          cases member
        · exact List.mem_cons_self

end Ipc
end OneDesk
