import OneDesk.Stream.Session

/-!
# The encrypted stream on an honest channel

The channel delivers frames in order and unmodified.  Sealing always advances
the send counter, opening advances the receive counter only for frames of more
than one byte; the two stay equal because a sealed frame has at least sixteen
bytes.  A message whose sealed frame the codec refuses is the exception: its
counter is spent although no frame leaves.
-/

namespace OneDesk
namespace Stream

/-- A frame on its way, with the payload it was made from and the sender's
counter right after it was sent. -/
structure InFlight where
  frame : Bytes
  payload : Bytes
  counter : UInt64
  deriving DecidableEq

/-- One direction as its receiver sees it: the payloads handed to the sender,
the frames on their way, what `next` returned so far, and after each delivery
the receiver's counter beside the sender's at the time of that frame. -/
structure Direction where
  handed : List Bytes
  flying : List InFlight
  returned : List (Option (Except IoError Bytes))
  counters : List (UInt64 × UInt64)

/-- Both streams of a session and both directions, each named by its receiver. -/
structure Link (Key : Type) where
  stream : Side → FramedStream Key
  toward : Side → Direction

/-- What may happen on an honest channel. -/
inductive LinkEvent
  /-- An end sends a message with `send_raw`. -/
  | sendRaw (side : Side) (message : Bytes)
  /-- An end sends an unencrypted frame with `send_bytes`. -/
  | sendBytes (side : Side) (bytes : Bytes)
  /-- The oldest frame on its way to an end arrives there. -/
  | deliver (side : Side)

namespace Link

variable {Key : Type} (box : SecretBox Key)

/-- Both ends right after `set_key` with the same key. -/
def start (key : Key) : Link Key where
  stream := fun _ => FramedStream.new.setKey key
  toward := fun _ => ⟨[], [], [], []⟩

/-- The send counter of an end. -/
def sentCounter (link : Link Key) (side : Side) : UInt64 :=
  ((link.stream side).encrypt.map Encrypt.sent).getD 0

/-- The receive counter of an end. -/
def receivedCounter (link : Link Key) (side : Side) : UInt64 :=
  ((link.stream side).encrypt.map Encrypt.received).getD 0

/-- A direction after its sender was handed a payload: the frame flies, unless
the codec refused it. -/
def Direction.push (direction : Direction) (payload : Bytes)
    (sending : Except IoError Bytes) (counter : UInt64) : Direction :=
  { direction with
    handed := direction.handed ++ [payload]
    flying :=
      match sending with
      | .ok frame => direction.flying ++ [⟨frame, payload, counter⟩]
      | .error _ => direction.flying }

/-- One event on the channel. -/
def step (link : Link Key) : LinkEvent → Link Key
  | .sendRaw side message =>
      let sending := (link.stream side).sendRaw box message
      let after := { link with stream := Function.update link.stream side sending.2 }
      { after with
        toward := Function.update link.toward side.other
          (Direction.push (link.toward side.other) message sending.1
            (after.sentCounter side)) }
  | .sendBytes side bytes =>
      { link with
        toward := Function.update link.toward side.other
          (Direction.push (link.toward side.other) bytes
            ((link.stream side).sendBytes bytes) (link.sentCounter side)) }
  | .deliver side =>
      match (link.toward side).flying with
      | [] => link
      | oldest :: rest =>
          let receiving := (link.stream side).next box (some (.ok oldest.frame))
          let after :=
            { link with stream := Function.update link.stream side receiving.2 }
          { after with
            toward := Function.update link.toward side
              { link.toward side with
                flying := rest
                returned := (link.toward side).returned ++ [receiving.1]
                counters := (link.toward side).counters ++
                  [(after.receivedCounter side, oldest.counter)] } }

/-- Both directions are in step: `next` returned the payloads handed to the
sender in their order, all others are on their way, and after each delivery the
two counters agreed. -/
def InStep (link : Link Key) : Prop :=
  ∀ side,
    (link.toward side).returned <+:
        (link.toward side).handed.map (fun payload => some (.ok payload)) ∧
      (link.toward side).returned.length + (link.toward side).flying.length =
        (link.toward side).handed.length ∧
      ∀ pair ∈ (link.toward side).counters, pair.1 = pair.2

/-- Unencrypted frames are keep-alives of at most one byte. -/
def KeepAlive : LinkEvent → Prop
  | .sendBytes _ bytes => bytes.length ≤ 1
  | _ => True

/-- A sealed message fits the codec. -/
def Fits : LinkEvent → Prop
  | .sendRaw _ message => message.length + 16 ≤ maxPayload
  | _ => True

/-- Frames between a receive counter and a send counter: each sealed one uses
the next nonce, and keep-alives use none. -/
inductive Chain (key : Key) : UInt64 → List InFlight → UInt64 → Prop
  | nil (counter : UInt64) : Chain key counter [] counter
  | sealed {received sent : UInt64} {rest : List InFlight} (payload : Bytes) :
      Chain key (received + 1) rest sent →
      Chain key received
        (⟨box.sealBox payload (getNonce (received + 1)) key, payload,
          received + 1⟩ :: rest) sent
  | keepAlive {received sent : UInt64} {rest : List InFlight} (bytes : Bytes) :
      bytes.length ≤ 1 →
      Chain key received rest sent →
      Chain key received (⟨bytes, bytes, received⟩ :: rest) sent

/-- What holds between two ends that are in step, frames on their way included. -/
structure Synced (key : Key) (link : Link Key) : Prop where
  notRaw : ∀ side, (link.stream side).raw = false
  keyed : ∀ side, ∃ encrypt, (link.stream side).encrypt = some encrypt ∧
    encrypt.key = key
  chained : ∀ side, Chain box key (link.receivedCounter side)
    (link.toward side).flying (link.sentCounter side.other)
  ordered : ∀ side, (link.toward side).returned ++
      (link.toward side).flying.map (fun flight => some (.ok flight.payload)) =
    (link.toward side).handed.map fun payload => some (.ok payload)
  agreed : ∀ side, ∀ pair ∈ (link.toward side).counters, pair.1 = pair.2

variable {box}

/-- A sealed frame sent next extends the chain. -/
theorem Chain.concat_sealed
    {key : Key}
    {received sent : UInt64}
    {flying : List InFlight}
    (chain : Chain box key received flying sent)
    (payload : Bytes) :
    Chain box key received
      (flying ++ [⟨box.sealBox payload (getNonce (sent + 1)) key, payload,
        sent + 1⟩]) (sent + 1) := by
  induction chain with
  | nil counter => exact Chain.sealed payload (Chain.nil _)
  | sealed earlier _ inductionHypothesis =>
      exact Chain.sealed earlier inductionHypothesis
  | keepAlive bytes short _ inductionHypothesis =>
      exact Chain.keepAlive bytes short inductionHypothesis

/-- A keep-alive sent next extends the chain without a nonce. -/
theorem Chain.concat_keepAlive
    {key : Key}
    {received sent : UInt64}
    {flying : List InFlight}
    (chain : Chain box key received flying sent)
    {bytes : Bytes}
    (short : bytes.length ≤ 1) :
    Chain box key received (flying ++ [⟨bytes, bytes, sent⟩]) sent := by
  induction chain with
  | nil counter => exact Chain.keepAlive bytes short (Chain.nil _)
  | sealed earlier _ inductionHypothesis =>
      exact Chain.sealed earlier inductionHypothesis
  | keepAlive earlier earlierShort _ inductionHypothesis =>
      exact Chain.keepAlive earlier earlierShort inductionHypothesis

/-- Ends that are synced are in step. -/
theorem Synced.inStep
    {key : Key}
    {link : Link Key}
    (synced : link.Synced box key) :
    link.InStep := by
  intro side
  have ordered := synced.ordered side
  refine ⟨⟨_, ordered⟩, ?_, synced.agreed side⟩
  have lengths := congrArg List.length ordered
  simpa using lengths

theorem start_synced (key : Key) : (start key).Synced box key where
  notRaw := fun _ => rfl
  keyed := fun _ => ⟨Encrypt.new key, rfl, rfl⟩
  chained := fun _ => Chain.nil _
  ordered := fun _ => rfl
  agreed := by
    intro side pair member
    simp [start] at member

/-- Pushing one frame that extends the chain keeps the ends synced. -/
theorem Synced.push
    {key : Key}
    {link after : Link Key}
    (synced : link.Synced box key)
    (sender : Side)
    (payload frame : Bytes)
    (counter : UInt64)
    (notRaw : ∀ side, (after.stream side).raw = false)
    (keyed : ∀ side, ∃ encrypt, (after.stream side).encrypt = some encrypt ∧
      encrypt.key = key)
    (received_eq : ∀ side,
      after.receivedCounter side = link.receivedCounter side)
    (sent_self : after.sentCounter sender = counter)
    (sent_other :
      after.sentCounter sender.other = link.sentCounter sender.other)
    (toward_self : after.toward sender = link.toward sender)
    (toward_other : after.toward sender.other =
      Direction.push (link.toward sender.other) payload (.ok frame) counter)
    (extend : ∀ received flying,
      Chain box key received flying (link.sentCounter sender) →
        Chain box key received (flying ++ [⟨frame, payload, counter⟩]) counter) :
    after.Synced box key where
  notRaw := notRaw
  keyed := keyed
  chained := by
    intro side
    rw [received_eq]
    rcases Side.eq_or_eq_other side sender with rfl | rfl
    · rw [toward_self, sent_other]
      exact synced.chained side
    · have chain := synced.chained sender.other
      rw [Side.other_other] at chain ⊢
      rw [toward_other, sent_self]
      exact extend _ _ chain
  ordered := by
    intro side
    rcases Side.eq_or_eq_other side sender with rfl | rfl
    · rw [toward_self]
      exact synced.ordered side
    · rw [toward_other]
      simp [Direction.push, ← synced.ordered sender.other]
  agreed := by
    intro side
    rcases Side.eq_or_eq_other side sender with rfl | rfl
    · rw [toward_self]
      exact synced.agreed side
    · rw [toward_other]
      exact synced.agreed sender.other

/-- A message that fits the codec keeps the ends synced. -/
theorem step_synced_sendRaw
    (lawful : box.Lawful)
    {key : Key}
    {link : Link Key}
    (synced : link.Synced box key)
    (sender : Side)
    {message : Bytes}
    (fits : message.length + 16 ≤ maxPayload) :
    (step box link (.sendRaw sender message)).Synced box key := by
  obtain ⟨encrypt, stream_eq, rfl⟩ := synced.keyed sender
  have counter_eq : link.sentCounter sender = encrypt.sent := by
    simp [sentCounter, stream_eq]
  have sending_eq : (link.stream sender).sendRaw box message =
      (.ok (box.sealBox message (getNonce (encrypt.sent + 1)) encrypt.key),
        { link.stream sender with
          encrypt := some { encrypt with sent := encrypt.sent + 1 } }) := by
    have fitting : ¬maxPayload < (box.sealBox message
        (getNonce (encrypt.sent + 1)) encrypt.key).length := by
      rw [lawful.length_seal]
      omega
    simp [FramedStream.sendRaw, stream_eq, FramedStream.sendBytes, fitting]
  refine synced.push sender message
    (box.sealBox message (getNonce (encrypt.sent + 1)) encrypt.key)
    (encrypt.sent + 1) ?_ ?_ ?_ ?_ ?_ ?_ ?_ ?_
  · intro side
    by_cases same : side = sender
    · subst same
      simp [step, sending_eq, synced.notRaw]
    · simp [step, same, synced.notRaw]
  · intro side
    by_cases same : side = sender
    · subst same
      exact ⟨{ encrypt with sent := encrypt.sent + 1 }, by
        simp [step, sending_eq], rfl⟩
    · obtain ⟨other, other_eq, otherKey⟩ := synced.keyed side
      exact ⟨other, by simp [step, same, other_eq], otherKey⟩
  · intro side
    by_cases same : side = sender
    · subst same
      simp [step, receivedCounter, sending_eq, stream_eq]
    · simp [step, receivedCounter, same]
  · simp [step, sentCounter, sending_eq]
  · simp [step, sentCounter, Side.other_ne]
  · simp [step, (Side.other_ne sender).symm]
  · simp [step, sending_eq, sentCounter]
  · intro received flying chain
    rw [counter_eq] at chain
    exact chain.concat_sealed message

/-- A keep-alive keeps the ends synced. -/
theorem step_synced_sendBytes
    {key : Key}
    {link : Link Key}
    (synced : link.Synced box key)
    (sender : Side)
    {bytes : Bytes}
    (short : bytes.length ≤ 1) :
    (step box link (.sendBytes sender bytes)).Synced box key := by
  have sending_eq : (link.stream sender).sendBytes bytes = .ok bytes := by
    have fitting : ¬maxPayload < bytes.length := by
      simp only [maxPayload]
      omega
    simp [FramedStream.sendBytes, fitting]
  refine synced.push sender bytes bytes (link.sentCounter sender)
    synced.notRaw synced.keyed (fun _ => rfl) rfl rfl ?_ ?_ ?_
  · simp [step, (Side.other_ne sender).symm]
  · simp [step, sending_eq]
  · intro received flying chain
    exact chain.concat_keepAlive short

/-- What `next` does with the oldest frame of a chain: it returns the payload
and leaves the receive counter where the frame left the send counter. -/
theorem next_oldest
    (lawful : box.Lawful)
    {stream : FramedStream Key}
    {encrypt : Encrypt Key}
    (keyed : stream.encrypt = some encrypt)
    {oldest : InFlight}
    {rest : List InFlight}
    {sent : UInt64}
    (chain : Chain box encrypt.key encrypt.received (oldest :: rest) sent) :
    stream.next box (some (.ok oldest.frame)) =
        (some (.ok oldest.payload),
          { stream with
            encrypt := some { encrypt with received := oldest.counter } }) ∧
      Chain box encrypt.key oldest.counter rest sent := by
  cases chain with
  | sealed payload chain =>
      have long : 1 < (box.sealBox payload
          (getNonce (encrypt.received + 1)) encrypt.key).length := by
        rw [lawful.length_seal]
        omega
      have opened : (encrypt.dec box (box.sealBox payload
          (getNonce (encrypt.received + 1)) encrypt.key)).1 = .ok payload := by
        rw [Encrypt.dec_long_fst_ok encrypt long]
        exact lawful.open_seal _ _ _
      refine ⟨?_, chain⟩
      simp only [FramedStream.next, keyed, opened, Encrypt.dec_long_snd encrypt long]
  | keepAlive bytes short chain =>
      refine ⟨?_, chain⟩
      simp only [FramedStream.next, keyed, Encrypt.dec_short encrypt short]

/-- A delivery keeps the ends synced. -/
theorem step_synced_deliver
    (lawful : box.Lawful)
    {key : Key}
    {link : Link Key}
    (synced : link.Synced box key)
    (receiver : Side) :
    (step box link (.deliver receiver)).Synced box key := by
  obtain ⟨encrypt, stream_eq, rfl⟩ := synced.keyed receiver
  have chain := synced.chained receiver
  have ordered := synced.ordered receiver
  have received_eq : link.receivedCounter receiver = encrypt.received := by
    simp [receivedCounter, stream_eq]
  rw [received_eq] at chain
  cases flying_eq : (link.toward receiver).flying with
  | nil =>
      simp only [step, flying_eq]
      exact synced
  | cons oldest rest =>
      rw [flying_eq] at chain ordered
      obtain ⟨next_eq, restChain⟩ := next_oldest lawful stream_eq chain
      have step_eq : step box link (.deliver receiver) =
          { stream := Function.update link.stream receiver
              { link.stream receiver with
                encrypt := some { encrypt with received := oldest.counter } }
            toward := Function.update link.toward receiver
              { link.toward receiver with
                flying := rest
                returned := (link.toward receiver).returned ++
                  [some (.ok oldest.payload)]
                counters := (link.toward receiver).counters ++
                  [(oldest.counter, oldest.counter)] } } := by
        simp [step, flying_eq, next_eq, receivedCounter]
      rw [step_eq]
      constructor
      · intro side
        by_cases same : side = receiver
        · subst same
          simp [synced.notRaw]
        · simp [same, synced.notRaw]
      · intro side
        by_cases same : side = receiver
        · subst same
          exact ⟨{ encrypt with received := oldest.counter }, by simp, rfl⟩
        · obtain ⟨other, other_eq, otherKey⟩ := synced.keyed side
          exact ⟨other, by simp [same, other_eq], otherKey⟩
      · intro side
        rcases Side.eq_or_eq_other side receiver with rfl | rfl
        · simpa [receivedCounter, sentCounter, Side.other_ne] using restChain
        · have otherChain := synced.chained receiver.other
          simpa [receivedCounter, sentCounter, Side.other_ne, stream_eq]
            using otherChain
      · intro side
        by_cases same : side = receiver
        · subst same
          simpa using ordered
        · simpa [same] using synced.ordered side
      · intro side pair member
        by_cases same : side = receiver
        · subst same
          simp only [Function.update_self, List.mem_append, List.mem_singleton]
            at member
          rcases member with earlier | rfl
          · exact synced.agreed side pair earlier
          · rfl
        · simp only [Function.update_of_ne same] at member
          exact synced.agreed side pair member

/-- The encrypted stream stays in step on an honest channel, in both
directions, when unencrypted frames are keep-alives and every sealed message
fits the codec. -/
theorem run_inStep
    (lawful : box.Lawful)
    (key : Key)
    (events : List LinkEvent)
    (keepAlives : ∀ event ∈ events, KeepAlive event)
    (fitting : ∀ event ∈ events, Fits event) :
    (Lib.run (step box) (start key) events).InStep := by
  have admissible : Lib.Along (step box)
      (fun _ event => KeepAlive event ∧ Fits event) (start key) events := by
    rw [Lib.along_iff_forall_split]
    rintro before event after rfl
    exact ⟨keepAlives event (by simp), fitting event (by simp)⟩
  have synced := Lib.run_invariant (Synced box key)
    (fun link event synced admitted => by
      cases event with
      | sendRaw side message =>
          exact step_synced_sendRaw lawful synced side admitted.2
      | sendBytes side bytes =>
          exact step_synced_sendBytes synced side admitted.1
      | deliver side => exact step_synced_deliver lawful synced side)
    (start_synced key) admissible
  exact synced.inStep

/-- A message whose sealed frame the codec refuses: no frame flies, yet the
send counter has advanced. -/
theorem step_sendRaw_refused
    (lawful : box.Lawful)
    {link : Link Key}
    {sender : Side}
    {encrypt : Encrypt Key}
    (notRaw : (link.stream sender).raw = false)
    (keyed : (link.stream sender).encrypt = some encrypt)
    {message : Bytes}
    (tooLong : maxPayload < message.length + 16) :
    step box link (.sendRaw sender message) =
      { stream := Function.update link.stream sender
          { link.stream sender with
            encrypt := some { encrypt with sent := encrypt.sent + 1 } }
        toward := Function.update link.toward sender.other
          { link.toward sender.other with
            handed := (link.toward sender.other).handed ++ [message] } } := by
  have refused : maxPayload < (box.sealBox message
      (getNonce (encrypt.sent + 1)) encrypt.key).length := by
    rw [lawful.length_seal]
    exact tooLong
  simp [step, FramedStream.sendRaw, keyed, FramedStream.sendBytes, notRaw,
    refused, Direction.push]

/-- A message followed by a short one that is delivered. -/
def thenShort (message : Bytes) : List LinkEvent :=
  [.sendRaw .a message, .sendRaw .a [7], .deliver .b]

/-- Whatever message the codec refused, the next one does not decrypt. -/
theorem returned_after_refused
    {message : Bytes}
    (tooLong : maxPayload < message.length + 16) :
    ((Lib.run (step nonceTagBox) (start ())
      (thenShort message)).toward .b).returned =
        [some (.error Encrypt.decryptionError)] := by
  have refused := step_sendRaw_refused nonceTagBox_lawful
    (show ((start ()).stream .a).raw = false from rfl)
    (show ((start ()).stream .a).encrypt = some (Encrypt.new ()) from rfl)
    tooLong
  unfold thenShort
  rw [Lib.run_cons, refused]
  rfl

/-- A link whose receiver failed to decrypt is not in step. -/
theorem not_inStep_of_returned_error
    {link : Link Key}
    {side : Side}
    {error : IoError}
    (returned_eq : (link.toward side).returned = [some (.error error)]) :
    ¬link.InStep := by
  intro inStep
  have isPrefix := (inStep side).1
  rw [returned_eq] at isPrefix
  obtain ⟨rest, split⟩ := isPrefix
  cases handed : (link.toward side).handed with
  | nil => simp [handed] at split
  | cons first others => simp [handed] at split

/-- After a message one byte too long for the codec, the next one no longer
decrypts. -/
theorem oversized_out_of_step :
    nonceTagBox.Lawful ∧
      (∀ event ∈ thenShort (List.replicate (maxPayload - 15) 0),
        KeepAlive event) ∧
      ¬(Lib.run (step nonceTagBox) (start ())
        (thenShort (List.replicate (maxPayload - 15) 0))).InStep := by
  have length_eq : (List.replicate (maxPayload - 15) (0 : UInt8)).length =
      maxPayload - 15 := List.length_replicate
  -- from here on only the length matters; the list must not be unfolded
  generalize List.replicate (maxPayload - 15) (0 : UInt8) = message at *
  refine ⟨nonceTagBox_lawful, ?_, ?_⟩
  · simp [thenShort, KeepAlive]
  · apply not_inStep_of_returned_error
    apply returned_after_refused
    rw [length_eq]
    decide

/-- A keep-alive between two messages, one of them empty, in step. -/
theorem run_inStep_keepAlive :
    (Lib.run (step nonceTagBox) (start ())
      [.sendRaw .a [], .sendBytes .a [0], .sendRaw .a [1, 2], .sendRaw .b [3],
        .deliver .b, .deliver .a, .deliver .b, .deliver .b]).InStep :=
  run_inStep nonceTagBox_lawful () _
    (by simp [KeepAlive]) (by simp [Fits, maxPayload])

end Link

end Stream
end OneDesk
