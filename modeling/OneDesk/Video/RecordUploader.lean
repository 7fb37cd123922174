import OneDesk.Lib.Disk
import OneDesk.Lib.Run
import OneDesk.Lib.Table

/-!
# Uploading of recordings

`src/hbbs_http/record_upload.rs` copies a recording to the server of the address book while it is
being written.  What was added to the file is sent in parts, and when the file is complete its first
bytes are sent again, since the muxer comes back to them.  The file goes on growing while it is
looked at, so its length and its bytes are those of different moments.
-/

namespace OneDesk
namespace Video

open OneDesk.Lib

abbrev Bytes := List UInt8

/-- `RecordState` -/
inductive RecordState
  | newFile (filepath : String)
  | newFrame
  | writeTail
  | removeFile
  deriving DecidableEq

/-- A request to `/api/record`, with its query. -/
inductive Request
  | new (file : String)
  | part (file : String) (offset length : Nat) (body : Bytes)
  | tail (file : String) (offset length : Nat) (body : Bytes)
  | remove (file : String)
  deriving DecidableEq

/-- How a request goes. -/
inductive Posted
  /-- It fails, and the server may have handled it all the same. -/
  | failed (error : String) (handled : Bool)
  /-- The answer is a JSON object, maybe with an `error`. -/
  | json (error : Option String)
  /-- The answer is something else. -/
  | other
  deriving DecidableEq

/-- How the file is met when it is looked at: the errors, and the bytes it has then. -/
structure Reading where
  opened : Except String Unit
  metadata : Except String Bytes
  seek : Except String Unit
  readToEnd : Except String Bytes

/-- How the file is met when its first bytes are read, of which one read may take fewer. -/
structure HeaderReading where
  opened : Except String Unit
  read : Except String Bytes
  length : Nat

/-- A state of the recorder that the thread receives, with the times in milliseconds and with what
the thread meets. -/
structure Received where
  state : RecordState
  now : Nat
  after : Nat
  reading : Reading
  posted : Posted
  header : HeaderReading
  headerPosted : Posted

/-- `MAX_HEADER_LEN` -/
def maxHeaderLen : Nat := 1024

/-- `SHOULD_SEND_TIME` in milliseconds. -/
def shouldSendTime : Nat := 1000

/-- `SHOULD_SEND_SIZE` -/
def shouldSendSize : Nat := 1024 * 1024

/-- What the server keeps of the recordings. -/
abbrev Store := Table String Bytes

/-- What a request is to make of the recordings: parts are written at their offset. -/
def Request.apply : Request → Store → Store
  | .new file, store => store.insert file []
  | .part file offset _ body, store => store.modify file fun bytes => overwrite bytes offset body
  | .tail file offset _ body, store => store.modify file fun bytes => overwrite bytes offset body
  | .remove file, store => store.erase file

/-- Whether the server handles a request. -/
def Posted.handled : Posted → Bool
  | .failed _ handled => handled
  | .json error => error.isNone
  | .other => true

/-- What `RecordUploader::send` returns. -/
def Posted.result : Posted → Except String Unit
  | .failed error _ => .error error
  | .json (some error) => .error error
  | .json none => .ok ()
  | .other => .ok ()

/-- `RecordUploader`, with the recordings at the server. -/
structure RecordUploader where
  filepath : String
  filename : String
  uploadSize : Nat
  running : Bool
  lastSend : Nat
  store : Store
  /-- What the parts took over of the file, as it was when it was read. -/
  taken : Bytes
  /-- The length that the file had when it was last read. -/
  seen : Nat

namespace RecordUploader

/-- The uploader that `run` begins with. -/
def new (now : Nat) : RecordUploader :=
  { filepath := "", filename := "", uploadSize := 0, running := false, lastSend := now, store := ∅,
    taken := [], seen := 0 }

/-- `RecordUploader::send` -/
def send (request : Request) (posted : Posted) (uploader : RecordUploader) :
    Except String Unit × RecordUploader :=
  (posted.result,
    if posted.handled then { uploader with store := request.apply uploader.store } else uploader)

/-- `RecordUploader::handle_new_file`, where `file_name` finds the name of a path. -/
def handleNewFile
    (fileName : String → Option String)
    (filepath : String)
    (received : Received)
    (uploader : RecordUploader) : Except String Unit × RecordUploader :=
  match fileName filepath with
  | none => (.error ("can't parse filepath:" ++ filepath), uploader)
  | some filename =>
      send (.new filename) received.posted
        { uploader with
          filepath, filename, uploadSize := 0, running := true, lastSend := received.now,
          taken := [], seen := 0 }

/-- The file is longer than what was sent of it, by enough. -/
def shouldSend (flush : Bool) (length : Nat) (uploader : RecordUploader) : Bool :=
  uploader.uploadSize < length &&
    (flush || shouldSendSize ≤ length - uploader.uploadSize)

/-- The part that is sent of a file that has been read. -/
def sendPart
    (received : Received)
    (length : Nat)
    (bytes : Bytes)
    (uploader : RecordUploader) : Except String Unit × RecordUploader :=
  let buf := bytes.drop uploader.uploadSize
  let request : Request :=
    .part uploader.filename uploader.uploadSize buf.length buf
  match uploader.send request received.posted with
  | (.error error, uploader) => (.error error, uploader)
  | (.ok (), sent) =>
      (.ok (),
        { sent with
          uploadSize := length
          lastSend := received.after
          taken := uploader.taken ++ (bytes.take length).drop uploader.uploadSize
          seen := bytes.length })

/-- `RecordUploader::handle_frame` -/
def handleFrame (flush : Bool) (received : Received) (uploader : RecordUploader) :
    Except String Unit × RecordUploader :=
  if !flush && received.now - uploader.lastSend < shouldSendTime then (.ok (), uploader)
  else
    match received.reading.opened, received.reading.metadata with
    | .error error, _ => (.error error, uploader)
    | .ok (), .error error => (.error error, uploader)
    | .ok (), .ok before =>
        if !uploader.shouldSend flush before.length then (.ok (), uploader)
        else
          match received.reading.seek, received.reading.readToEnd with
          | .error error, _ => (.error error, uploader)
          | .ok (), .error error => (.error error, uploader)
          | .ok (), .ok bytes => uploader.sendPart received before.length bytes

/-- `RecordUploader::handle_tail` -/
def handleTail (received : Received) (uploader : RecordUploader) :
    Except String Unit × RecordUploader :=
  match uploader.handleFrame true received with
  | (.error error, uploader) => (.error error, uploader)
  | (.ok (), uploader) =>
      match received.header.opened, received.header.read with
      | .error error, _ => (.error error, uploader)
      | .ok (), .error error => (.error error, uploader)
      | .ok (), .ok bytes =>
          let buf := bytes.take (min received.header.length maxHeaderLen)
          uploader.send (.tail uploader.filename 0 buf.length buf) received.headerPosted

/-- `RecordUploader::handle_remove` -/
def handleRemove (received : Received) (uploader : RecordUploader) :
    Except String Unit × RecordUploader :=
  uploader.send (.remove uploader.filename) received.posted

/-- What the loop of `run` does with a state. -/
def handle (fileName : String → Option String) (received : Received) (uploader : RecordUploader) :
    Except String Unit × RecordUploader :=
  match received.state with
  | .newFile filepath => uploader.handleNewFile fileName filepath received
  | .newFrame =>
      if uploader.running then uploader.handleFrame false received else (.ok (), uploader)
  | .writeTail => if uploader.running then uploader.handleTail received else (.ok (), uploader)
  | .removeFile => if uploader.running then uploader.handleRemove received else (.ok (), uploader)

/-- One turn of the loop of `run`: an error ends the upload. -/
def step (fileName : String → Option String) (uploader : RecordUploader) (received : Received) :
    RecordUploader :=
  match uploader.handle fileName received with
  | (.ok (), uploader) => uploader
  | (.error _, uploader) => { uploader with running := false }

/-! ## What the server has -/

/-- The file has not become shorter since it was last read, nor while it is looked at. -/
def Grows (uploader : RecordUploader) (received : Received) : Prop :=
  ∀ before bytes, received.reading.metadata = .ok before → received.reading.readToEnd = .ok bytes →
    uploader.seen ≤ before.length ∧ before.length ≤ bytes.length

/-- The copy begins with what the parts took over, and is no longer than the file was. -/
structure Copies (uploader : RecordUploader) : Prop where
  size : uploader.uploadSize = uploader.taken.length
  copy : ∃ rest, uploader.store.lookup uploader.filename = some (uploader.taken ++ rest) ∧
    (uploader.taken ++ rest).length ≤ uploader.seen

variable {uploader : RecordUploader} {received : Received}

/-- A part that begins within the copy and reaches its end replaces what was behind. -/
theorem overwrite_append
    (bytes rest data : Bytes)
    (reaches : rest.length ≤ data.length) :
    overwrite (bytes ++ rest) bytes.length data = bytes ++ data := by
  have nothing : (bytes ++ rest).drop (bytes.length + data.length) = [] :=
    List.drop_of_length_le (by rw [List.length_append]; omega)
  have noGap : bytes.length - (bytes ++ rest).length = 0 := by
    rw [List.length_append]
    omega
  rw [overwrite, nothing, noGap, List.take_left, List.replicate_zero, List.append_nil,
    List.append_nil]

/-- The first bytes of a file, sent again, make a copy exact if nothing else differs. -/
theorem overwrite_zero_eq_iff
    (copy bytes : Bytes)
    (sameLength : copy.length = bytes.length)
    (count : Nat) :
    overwrite copy 0 (bytes.take count) = bytes ↔
      ∀ place, count ≤ place → copy[place]? = bytes[place]? := by
  have written : overwrite copy 0 (bytes.take count) = bytes.take count ++ copy.drop count := by
    rw [overwrite, List.take_zero, Nat.zero_sub, List.replicate_zero, List.length_take,
      Nat.zero_add, List.nil_append, List.nil_append]
    rcases Nat.le_total count bytes.length with short | long
    · rw [Nat.min_eq_left short]
    · rw [Nat.min_eq_right long, List.drop_of_length_le (by omega),
        List.drop_of_length_le (by omega)]
  rw [written]
  conv_lhs => rhs; rw [← List.take_append_drop count bytes]
  rw [List.append_cancel_left_eq]
  constructor
  · intro same place behind
    have at_place := congrArg (·[place - count]?) same
    simpa [List.getElem?_drop, Nat.add_sub_cancel' behind] using at_place
  · intro same
    refine List.ext_getElem? fun place => ?_
    rw [List.getElem?_drop, List.getElem?_drop]
    exact same (count + place) (Nat.le_add_right ..)

/-- A request that succeeds has been handled. -/
theorem handled_of_ok
    {posted : Posted}
    (succeeds : posted.result = .ok ()) :
    posted.handled = true := by
  cases posted with
  | failed error handled => cases succeeds
  | json error =>
      cases error with
      | none => rfl
      | some error => cases succeeds
  | other => rfl

theorem send_of_ok
    {request : Request}
    {posted : Posted}
    (succeeds : posted.result = .ok ()) :
    send request posted uploader =
      (.ok (), { uploader with store := request.apply uploader.store }) := by
  rw [send, succeeds, handled_of_ok succeeds, if_pos rfl]

/-- The uploader after a part. -/
def withPart (received : Received) (length : Nat) (bytes : Bytes) (uploader : RecordUploader) :
    RecordUploader :=
  { uploader with
    store := uploader.store.modify uploader.filename fun copy =>
      overwrite copy uploader.uploadSize (bytes.drop uploader.uploadSize)
    uploadSize := length
    lastSend := received.after
    taken := uploader.taken ++ (bytes.take length).drop uploader.uploadSize
    seen := bytes.length }

theorem sendPart_of_ok
    {length : Nat}
    {bytes : Bytes}
    (succeeds : (uploader.sendPart received length bytes).1 = .ok ()) :
    (uploader.sendPart received length bytes).2 = uploader.withPart received length bytes := by
  have posted : received.posted.result = .ok () := by
    cases answer : received.posted.result with
    | error error => simp [sendPart, send, answer] at succeeds
    | ok => rfl
  rw [sendPart, send_of_ok posted]
  rfl

/-- A look at the file without an error changes nothing, or sends what was added.  With `flush`, it
changes nothing only if nothing was added. -/
theorem handleFrame_cases
    {flush : Bool}
    (succeeds : (uploader.handleFrame flush received).1 = .ok ()) :
    ((uploader.handleFrame flush received).2 = uploader ∧
      (flush = true → ∃ before, received.reading.metadata = .ok before ∧
        before.length ≤ uploader.uploadSize)) ∨
    ∃ before bytes, received.reading.metadata = .ok before ∧
      received.reading.readToEnd = .ok bytes ∧ uploader.uploadSize < before.length ∧
      (uploader.handleFrame flush received).2 =
        uploader.withPart received before.length bytes := by
  unfold handleFrame at succeeds ⊢
  split at succeeds
  case isTrue early =>
    rw [if_pos early]
    refine .inl ⟨rfl, fun flushes => ?_⟩
    simp [flushes] at early
  case isFalse late =>
    rw [if_neg late]
    split at succeeds
    · cases succeeds
    · cases succeeds
    case h_3 before opened looked =>
      simp only [looked]
      split at succeeds
      case isTrue keeps =>
        rw [if_pos keeps]
        refine .inl ⟨rfl, fun flushes => ⟨before, rfl, ?_⟩⟩
        simpa [shouldSend, flushes] using keeps
      case isFalse sends =>
        rw [if_neg sends]
        have longer : uploader.uploadSize < before.length := by
          simp only [shouldSend, Bool.not_eq_true, Bool.not_eq_false', Bool.and_eq_true,
            decide_eq_true_eq] at sends
          exact sends.1
        split at succeeds
        · cases succeeds
        · cases succeeds
        case h_3 bytes sought read =>
          simp only [read]
          exact .inr ⟨before, bytes, rfl, rfl, longer, sendPart_of_ok succeeds⟩

namespace Copies

/-- A part that reaches the end of the file takes over all of it. -/
theorem withPart
    (copies : uploader.Copies)
    {length : Nat}
    {bytes : Bytes}
    (longer : uploader.uploadSize < length)
    (grows : uploader.seen ≤ length ∧ length ≤ bytes.length) :
    (uploader.withPart received length bytes).Copies ∧
      (uploader.withPart received length bytes).store.lookup uploader.filename =
        some (uploader.taken ++ bytes.drop uploader.uploadSize) := by
  obtain ⟨size, rest, found, short⟩ := copies
  obtain ⟨notShorter, still⟩ := grows
  rw [List.length_append] at short
  have reaches : rest.length ≤ (bytes.drop uploader.uploadSize).length := by
    rw [List.length_drop]
    omega
  have stored : (uploader.withPart received length bytes).store.lookup uploader.filename =
      some (uploader.taken ++ bytes.drop uploader.uploadSize) := by
    rw [RecordUploader.withPart, Table.lookup_modify, if_pos rfl, found, Option.map_some, size,
      overwrite_append _ _ _ (size ▸ reaches)]
  have split : bytes.drop uploader.uploadSize =
      (bytes.take length).drop uploader.uploadSize ++ bytes.drop length := by
    conv_lhs => rw [← List.take_append_drop length bytes]
    rw [List.drop_append_of_le_length (by rw [List.length_take]; omega)]
  refine ⟨⟨?_, bytes.drop length, ?_, ?_⟩, stored⟩
  · change length = (uploader.taken ++ (bytes.take length).drop uploader.uploadSize).length
    rw [List.length_append, List.length_drop, List.length_take]
    omega
  · change _ = some ((uploader.taken ++ (bytes.take length).drop uploader.uploadSize) ++ _)
    rw [List.append_assoc, ← split]
    exact stored
  · change ((uploader.taken ++ (bytes.take length).drop uploader.uploadSize) ++
      bytes.drop length).length ≤ bytes.length
    rw [List.append_assoc, ← split, List.length_append, List.length_drop]
    omega

/-- To look at the file keeps the copy, whether or not a part is sent. -/
theorem handleFrame
    (copies : uploader.Copies)
    {flush : Bool}
    (grows : uploader.Grows received)
    (succeeds : (uploader.handleFrame flush received).1 = .ok ()) :
    (uploader.handleFrame flush received).2.Copies := by
  rcases handleFrame_cases succeeds with ⟨same, -⟩ | ⟨before, bytes, looked, read, longer, part⟩
  · rw [same]
    exact copies
  · rw [part]
    exact (copies.withPart longer (grows before bytes looked read)).1

end Copies

variable {fileName : String → Option String}

/-- What is uploaded after a new frame was uploaded before, and the frame was handled. -/
theorem step_newFrame
    (isFrame : received.state = .newFrame)
    (runs : (uploader.step fileName received).running = true) :
    uploader.running = true ∧ (uploader.handleFrame false received).1 = .ok () ∧
      uploader.step fileName received = (uploader.handleFrame false received).2 := by
  cases running : uploader.running with
  | false => simp [step, handle, isFrame, running] at runs
  | true =>
      simp only [step, handle, isFrame, running, if_true] at runs ⊢
      split at runs
      case h_1 handled => simp [handled]
      case h_2 => cases runs

/-- A new file begins an empty copy. -/
theorem copies_newFile
    {filepath : String}
    (isNew : received.state = .newFile filepath)
    (runs : (uploader.step fileName received).running = true) :
    (uploader.step fileName received).Copies := by
  simp only [step, handle, isNew, handleNewFile] at runs ⊢
  cases name : fileName filepath with
  | none => simp [name] at runs
  | some filename =>
      simp only [name] at runs ⊢
      cases answer : received.posted.result with
      | error error => simp [send, answer] at runs
      | ok =>
          rw [send_of_ok answer]
          exact ⟨rfl, [], Finmap.lookup_insert _, Nat.le_refl 0⟩

/-- As long as the upload goes on, the copy begins with what the parts took over. -/
theorem copies_run
    {frames : List Received}
    (areFrames : ∀ received ∈ frames, received.state = .newFrame)
    (grows : Along (step fileName) Grows uploader frames)
    (copies : uploader.running = true → uploader.Copies)
    (runs : (run (step fileName) uploader frames).running = true) :
    (run (step fileName) uploader frames).Copies := by
  induction frames generalizing uploader with
  | nil => exact copies runs
  | cons frame frames inductionHypothesis =>
      rw [List.forall_mem_cons] at areFrames
      refine inductionHypothesis areFrames.2 grows.2 (fun goesOn => ?_) runs
      obtain ⟨ran, succeeds, same⟩ := step_newFrame areFrames.1 goesOn
      rw [same]
      exact (copies ran).handleFrame grows.1 succeeds

/-- When all of a file that rests has been sent, the copy is what was taken over and the rest. -/
theorem Copies.flushed
    (copies : uploader.Copies)
    {bytes : Bytes}
    (looked : received.reading.metadata = .ok bytes)
    (read : received.reading.readToEnd = .ok bytes)
    (notShorter : uploader.seen ≤ bytes.length)
    (succeeds : (uploader.handleFrame true received).1 = .ok ()) :
    (uploader.handleFrame true received).2.store.lookup uploader.filename =
        some (uploader.taken ++ bytes.drop uploader.taken.length) ∧
      (uploader.handleFrame true received).2.filename = uploader.filename := by
  rw [← copies.size]
  rcases handleFrame_cases succeeds with
    ⟨same, nothing⟩ | ⟨before, again, lookedAgain, readAgain, longer, part⟩
  · obtain ⟨before, lookedAgain, short⟩ := nothing rfl
    obtain rfl := Except.ok.inj (looked.symm.trans lookedAgain)
    obtain ⟨size, rest, found, within⟩ := copies
    rw [List.length_append] at within
    have noRest : rest = [] := List.length_eq_zero_iff.mp (by omega)
    rw [same, found, noRest, List.drop_of_length_le short]
    exact ⟨rfl, rfl⟩
  · obtain rfl := Except.ok.inj (looked.symm.trans lookedAgain)
    obtain rfl := Except.ok.inj (read.symm.trans readAgain)
    rw [part]
    exact ⟨(copies.withPart longer ⟨notShorter, Nat.le_refl _⟩).2, rfl⟩

/-- What goes on after the end of a file was handled without an error. -/
theorem step_writeTail
    (isTail : received.state = .writeTail)
    {bytes : Bytes}
    (read : received.header.read = .ok bytes)
    (runs : (uploader.step fileName received).running = true) :
    uploader.running = true ∧ (uploader.handleFrame true received).1 = .ok () ∧
      (uploader.step fileName received).store =
        (uploader.handleFrame true received).2.store.modify
          (uploader.handleFrame true received).2.filename
          fun copy => overwrite copy 0 (bytes.take (min received.header.length maxHeaderLen)) := by
  cases running : uploader.running with
  | false => simp [step, handle, isTail, running] at runs
  | true =>
      simp only [step, handle, isTail, running, if_true, handleTail] at runs ⊢
      cases frame : uploader.handleFrame true received with
      | mk result sent =>
          cases result with
          | error error => simp [frame] at runs
          | ok =>
              cases opened : received.header.opened with
              | error error => simp [frame, opened] at runs
              | ok =>
                  cases answer : received.headerPosted.result with
                  | error error => simp [frame, opened, read, send, answer] at runs
                  | ok =>
                      simp only [read, send_of_ok answer]
                      exact ⟨trivial, trivial, rfl⟩

/-- What the thread meets where everything succeeds. -/
def smooth (state : RecordState) (now : Nat) (bytes : Bytes) : Received :=
  { state, now, after := now, posted := .other, headerPosted := .json none
    reading := ⟨.ok (), .ok bytes, .ok (), .ok bytes⟩
    header := ⟨.ok (), .ok bytes, bytes.length⟩ }

end RecordUploader
end Video
end OneDesk
