import OneDesk.Lib.Run
import OneDesk.Stream.Framed

/-!
# Two ends of one encrypted session

Both ends hold the same key and start both counters at zero.  The network is
the adversary: a `deliver` event hands any frame at all to either end, so
dropping, delaying, duplicating, reordering, modifying, injecting and turning
back frames are all choices of events.  Frames are opened only when they are
the output of a `secretbox::seal` call of this session, and every such call is
kept in a log with its nonce.
-/

namespace OneDesk
namespace Stream

/-- The two ends of a session. -/
inductive Side
  | a
  | b
  deriving DecidableEq, Repr

/-- The opposite end. -/
def Side.other : Side → Side
  | .a => .b
  | .b => .a

@[simp] theorem Side.other_other (side : Side) : side.other.other = side := by
  cases side <;> rfl

/-- The end that is not one end is the other. -/
theorem Side.eq_other_of_ne
    {left right : Side}
    (different : left ≠ right) :
    left = right.other := by
  cases left <;> cases right <;> simp [Side.other] at different ⊢

theorem Side.other_ne (side : Side) : side.other ≠ side := by
  cases side <;> simp [Side.other]

/-- There are only the two ends. -/
theorem Side.eq_or_eq_other (side reference : Side) :
    side = reference ∨ side = reference.other := by
  cases side <;> cases reference <;> simp [Side.other]

/-- One call of `secretbox::seal` under the session key: the end that made it,
how many messages that end had sent before, and its arguments. -/
structure SealCall where
  side : Side
  index : Nat
  nonce : Nonce
  message : Bytes
  deriving DecidableEq

/-- One end: its stream, the messages it was given to send, the plaintexts it
accepted before its first error, and whether that error has happened. -/
structure Endpoint (Key : Type) where
  stream : FramedStream Key
  sent : List Bytes
  accepted : List Bytes
  failed : Bool

/-- Both ends and the log of seal calls. -/
structure Session (Key : Type) where
  endpoint : Side → Endpoint Key
  calls : List SealCall

/-- What may happen to a session. -/
inductive SessionEvent
  /-- An end is given a message to send with `send_raw`. -/
  | send (side : Side) (message : Bytes)
  /-- The network hands a frame to an end. -/
  | deliver (side : Side) (frame : Bytes)
  deriving DecidableEq

namespace Session

variable {Key : Type} (box : SecretBox Key)

/-- Both ends right after `set_key`. -/
def start (key : Key) : Session Key where
  endpoint := fun _ => ⟨FramedStream.new.setKey key, [], [], false⟩
  calls := []

/-- The seal call `send_raw` makes at an end, if that end is keyed. -/
def sealCall (session : Session Key) (side : Side) (message : Bytes) :
    Option SealCall :=
  (session.endpoint side).stream.encrypt.map fun encrypt =>
    ⟨side, (session.endpoint side).sent.length,
      getNonce (encrypt.sent + 1), message⟩

/-- An end after `next` was handed a frame.  A plaintext counts as accepted
when its frame was longer than one byte and no error came before. -/
def receive (endpoint : Endpoint Key) (frame : Bytes) : Endpoint Key :=
  match endpoint.stream.next box (some (.ok frame)) with
  | (some (.ok plain), stream) =>
      if frame.length ≤ 1 ∨ endpoint.failed = true then
        { endpoint with stream := stream }
      else
        { endpoint with
          stream := stream
          accepted := endpoint.accepted ++ [plain] }
  | (_, stream) => { endpoint with stream := stream, failed := true }

/-- One event of the session. -/
def step (session : Session Key) : SessionEvent → Session Key
  | .send side message =>
      let endpoint := session.endpoint side
      { endpoint := Function.update session.endpoint side
          { endpoint with
            stream := (endpoint.stream.sendRaw box message).2
            sent := endpoint.sent ++ [message] }
        calls := session.calls ++ (session.sealCall side message).toList }
  | .deliver side frame =>
      { session with
        endpoint := Function.update session.endpoint side
          (receive box (session.endpoint side) frame) }

/-- The nonce an end uses for the next frame it opens. -/
def expectedNonce (session : Session Key) (side : Side) : Option Nonce :=
  (session.endpoint side).stream.encrypt.map fun encrypt =>
    getNonce (encrypt.received + 1)

/-- Assumption on `secretbox::open`: a frame handed to an end opens under the
nonce it expects only if it is the exact output of a seal call of this session
under that nonce. -/
def Genuine (key : Key) (session : Session Key) : SessionEvent → Prop
  | .send _ _ => True
  | .deliver side frame =>
      ∀ nonce plain, session.expectedNonce side = some nonce →
        box.openBox frame nonce key = some plain →
          ∃ call ∈ session.calls,
            call.nonce = nonce ∧ frame = box.sealBox call.message nonce key

/-- What each end accepted is a prefix of what the other end sent. -/
def Authentic (session : Session Key) : Prop :=
  ∀ side, (session.endpoint side).accepted <+:
    (session.endpoint side.other).sent

/-- A frame handed to an end that has seen no error is displaced when a seal
call under the nonce expected next produced it, that call is not the one the
other end made at this position, and the other end's message at this position
is a different one.  An end's own frames turned back to it are displaced, and
so are frames sealed `2 ^ 64` sends away. -/
def Displaced (key : Key) (session : Session Key) : SessionEvent → Prop
  | .send _ _ => False
  | .deliver side frame =>
      (session.endpoint side).failed = false ∧
        ∃ call ∈ session.calls,
          session.expectedNonce side = some call.nonce ∧
          frame = box.sealBox call.message call.nonce key ∧
          ¬(call.side = side.other ∧
            call.index = (session.endpoint side).accepted.length) ∧
          (session.endpoint side.other).sent[
            (session.endpoint side).accepted.length]? ≠ some call.message

/-- Both ends stay keyed with the session key. -/
def Keyed (key : Key) (session : Session Key) : Prop :=
  ∀ side, ∃ encrypt, (session.endpoint side).stream.encrypt = some encrypt ∧
    encrypt.key = key

/-- Every logged call carries the message its end was given at its index. -/
def Logged (session : Session Key) : Prop :=
  ∀ call ∈ session.calls,
    (session.endpoint call.side).sent[call.index]? = some call.message

variable {box}

theorem start_logged (key : Key) : (start key).Logged := by
  intro call member
  simp [start] at member

theorem start_keyed (key : Key) : (start key).Keyed key :=
  fun _ => ⟨Encrypt.new key, rfl, rfl⟩

theorem start_authentic (key : Key) : (start key).Authentic :=
  fun _ => List.nil_prefix

/-- What `receive` does to a keyed end: nothing visible for a frame of at most
one byte, otherwise an accepted plaintext or the first error. -/
theorem receive_keyed
    {endpoint : Endpoint Key}
    {encrypt : Encrypt Key}
    (keyed : endpoint.stream.encrypt = some encrypt)
    (frame : Bytes) :
    receive box endpoint frame =
      { endpoint with
        stream := { endpoint.stream with
          encrypt := some (encrypt.dec box frame).2 }
        accepted :=
          match (encrypt.dec box frame).1 with
          | .ok plain =>
              if frame.length ≤ 1 ∨ endpoint.failed = true then
                endpoint.accepted
              else endpoint.accepted ++ [plain]
          | .error _ => endpoint.accepted
        failed :=
          match (encrypt.dec box frame).1 with
          | .ok _ => endpoint.failed
          | .error _ => true } := by
  unfold receive FramedStream.next
  simp only [keyed]
  cases (encrypt.dec box frame).1 with
  | error cause => rfl
  | ok plain =>
      simp only
      split <;> rfl

/-- Every event leaves both ends keyed with the session key. -/
theorem step_keyed
    {key : Key}
    {session : Session Key}
    (keyed : session.Keyed key)
    (event : SessionEvent) :
    (step box session event).Keyed key := by
  intro current
  cases event with
  | send side message =>
      obtain ⟨encrypt, stream_eq, key_eq⟩ := keyed current
      by_cases same : current = side
      · subst same
        exact ⟨(encrypt.enc box message).2, by
          simp [step, FramedStream.sendRaw, stream_eq], by simp [key_eq]⟩
      · exact ⟨encrypt, by simp [step, same, stream_eq], key_eq⟩
  | deliver side frame =>
      obtain ⟨encrypt, stream_eq, key_eq⟩ := keyed current
      by_cases same : current = side
      · subst same
        refine ⟨(encrypt.dec box frame).2, ?_, ?_⟩
        · simp [step, receive_keyed stream_eq]
        · rw [(Encrypt.dec_snd_frame encrypt frame).1, key_eq]
      · exact ⟨encrypt, by simp [step, same, stream_eq], key_eq⟩

/-- Accepting one more plaintext keeps the prefix when that plaintext is the
other end's message at this position. -/
theorem prefix_concat_of_getElem?
    {accepted sent : List Bytes}
    {plain : Bytes}
    (isPrefix : accepted <+: sent)
    (present : sent[accepted.length]? = some plain) :
    accepted ++ [plain] <+: sent := by
  obtain ⟨rest, rfl⟩ := isPrefix
  cases rest with
  | nil => simp at present
  | cons head tail =>
      rw [List.getElem?_append_right (le_refl _)] at present
      simp only [Nat.sub_self, List.getElem?_cons_zero, Option.some.injEq]
        at present
      subst present
      exact ⟨tail, by simp⟩

/-- The position a longer accepted prefix ends at. -/
theorem getElem?_of_prefix_concat
    {accepted sent : List Bytes}
    {plain : Bytes}
    (isPrefix : accepted ++ [plain] <+: sent) :
    sent[accepted.length]? = some plain := by
  obtain ⟨rest, rfl⟩ := isPrefix
  simp

/-- A frame that some seal call under the expected nonce produced is accepted
as that call's message. -/
theorem step_accepts
    (lawful : box.Lawful)
    {key : Key}
    {session : Session Key}
    (keyed : session.Keyed key)
    {side : Side}
    {call : SealCall}
    (running : (session.endpoint side).failed = false)
    (expected : session.expectedNonce side = some call.nonce) :
    ((step box session
        (.deliver side (box.sealBox call.message call.nonce key))).endpoint
          side).accepted =
      (session.endpoint side).accepted ++ [call.message] := by
  obtain ⟨encrypt, stream_eq, rfl⟩ := keyed side
  simp only [expectedNonce, stream_eq, Option.map_some, Option.some.injEq]
    at expected
  have long : 1 < (box.sealBox call.message call.nonce encrypt.key).length := by
    rw [lawful.length_seal]
    omega
  have opened : (encrypt.dec box
      (box.sealBox call.message call.nonce encrypt.key)).1 =
        .ok call.message := by
    rw [Encrypt.dec_long_fst_ok encrypt long, expected]
    exact lawful.open_seal call.message call.nonce encrypt.key
  have notShort :
      ¬(box.sealBox call.message call.nonce encrypt.key).length ≤ 1 := by
    omega
  simp [step, receive_keyed stream_eq, opened, running, notShort]

/-- What one delivery can do to the accepted plaintexts of the end it reaches:
leave them, or add the message of a seal call under the expected nonce. -/
theorem step_deliver_cases
    (lawful : box.Lawful)
    {key : Key}
    {session : Session Key}
    (keyed : session.Keyed key)
    {side : Side}
    {frame : Bytes}
    (genuine : Genuine box key session (.deliver side frame)) :
    ((step box session (.deliver side frame)).endpoint side).accepted =
        (session.endpoint side).accepted ∨
      ∃ call ∈ session.calls,
        (session.endpoint side).failed = false ∧
        session.expectedNonce side = some call.nonce ∧
        frame = box.sealBox call.message call.nonce key ∧
        ((step box session (.deliver side frame)).endpoint side).accepted =
          (session.endpoint side).accepted ++ [call.message] := by
  obtain ⟨encrypt, stream_eq, rfl⟩ := keyed side
  have expected : session.expectedNonce side =
      some (getNonce (encrypt.received + 1)) := by
    simp [expectedNonce, stream_eq]
  rcases Nat.lt_or_ge 1 frame.length with long | short
  · cases outcome : (encrypt.dec box frame).1 with
    | error cause =>
        left
        simp [step, receive_keyed stream_eq, outcome]
    | ok plain =>
        cases failed : (session.endpoint side).failed with
        | true =>
            left
            simp [step, receive_keyed stream_eq, outcome, failed]
        | false =>
            right
            have opened := (Encrypt.dec_long_fst_ok encrypt long).mp outcome
            obtain ⟨call, member, nonce_eq, frame_eq⟩ :=
              genuine _ plain expected opened
            rw [← nonce_eq] at expected frame_eq
            refine ⟨call, member, rfl, expected, frame_eq, ?_⟩
            rw [frame_eq]
            exact step_accepts lawful ‹session.Keyed encrypt.key› failed expected
  · left
    simp [step, receive_keyed stream_eq, Encrypt.dec_short encrypt short, short]

/-- An end's accepted plaintexts change only when a frame reaches that end. -/
theorem step_accepted_other
    (session : Session Key)
    {side current : Side}
    (different : current ≠ side)
    (frame : Bytes) :
    ((step box session (.deliver side frame)).endpoint current).accepted =
      (session.endpoint current).accepted := by
  simp [step, different]

@[simp] theorem step_deliver_sent
    (session : Session Key)
    (side current : Side)
    (frame : Bytes) :
    ((step box session (.deliver side frame)).endpoint current).sent =
      (session.endpoint current).sent := by
  by_cases same : current = side
  · subst same
    simp only [step, Function.update_self, receive]
    split
    · split <;> rfl
    · rfl
  · simp [step, same]

@[simp] theorem step_send_accepted
    (session : Session Key)
    (side current : Side)
    (message : Bytes) :
    ((step box session (.send side message)).endpoint current).accepted =
      (session.endpoint current).accepted := by
  by_cases same : current = side
  · subst same
    simp [step]
  · simp [step, same]

/-- Sending only extends what an end has sent. -/
theorem step_send_extends_sent
    (session : Session Key)
    (side current : Side)
    (message : Bytes) :
    (session.endpoint current).sent <+:
      ((step box session (.send side message)).endpoint current).sent := by
  by_cases same : current = side
  · subst same
    simp [step]
  · simp [step, same]

/-- Every event keeps the log faithful to what the ends were given. -/
theorem step_logged
    {session : Session Key}
    (logged : session.Logged)
    (event : SessionEvent) :
    (step box session event).Logged := by
  intro call member
  cases event with
  | send side message =>
      simp only [step, List.mem_append, Option.mem_toList] at member
      rcases member with old | new
      · have grows : (session.endpoint call.side).sent <+:
            ((step box session (.send side message)).endpoint call.side).sent :=
          step_send_extends_sent session side call.side message
        obtain ⟨rest, sent_eq⟩ := grows
        have inRange := (List.getElem?_eq_some_iff.mp (logged call old)).1
        rw [← sent_eq, List.getElem?_append_left inRange]
        exact logged call old
      · simp only [sealCall, Option.map_eq_some_iff] at new
        obtain ⟨encrypt, stream_eq, rfl⟩ := new
        simp [step]
  | deliver side frame =>
      rw [step_deliver_sent]
      exact logged call member

/-- One step that displaces no frame keeps both accepted sequences authentic. -/
theorem step_authentic
    (lawful : box.Lawful)
    {key : Key}
    {session : Session Key}
    (keyed : session.Keyed key)
    (logged : session.Logged)
    (authentic : session.Authentic)
    {event : SessionEvent}
    (genuine : Genuine box key session event)
    (inPlace : ¬Displaced box key session event) :
    (step box session event).Authentic := by
  intro current
  cases event with
  | send side message =>
      rw [step_send_accepted]
      exact (authentic current).trans
        (step_send_extends_sent session side current.other message)
  | deliver side frame =>
      rw [step_deliver_sent]
      by_cases same : current = side
      · subst same
        rcases step_deliver_cases lawful keyed genuine with
          unchanged | ⟨call, member, running, expected, frame_eq, accepted_eq⟩
        · rw [unchanged]
          exact authentic current
        · rw [accepted_eq]
          apply prefix_concat_of_getElem? (authentic current)
          by_contra different
          refine inPlace ⟨running, call, member, expected, frame_eq, ?_, different⟩
          rintro ⟨side_eq, index_eq⟩
          apply different
          rw [← side_eq, ← index_eq]
          exact logged call member
      · rw [step_accepted_other session same]
        exact authentic current

/-- A message turned back to the end that sent it, here end `a`. -/
def turnedBack : List SessionEvent :=
  [.send .a [104, 105],
    .deliver .a (nonceTagBox.sealBox [104, 105] (getNonce 1) ())]

/-- The run that turns a message back opens nothing but an exact output of a
seal call. -/
theorem turnedBack_genuine :
    Lib.Along (step nonceTagBox) (Genuine nonceTagBox ()) (start ())
      turnedBack := by
  refine ⟨trivial, ?_, trivial⟩
  intro nonce plain expected opened
  have nonce_eq : nonce = getNonce 1 :=
    (Option.some.inj expected).symm
  subst nonce_eq
  refine ⟨⟨.a, 0, getNonce 1, [104, 105]⟩, ?_, rfl, rfl⟩
  decide

end Session

end Stream
end OneDesk
