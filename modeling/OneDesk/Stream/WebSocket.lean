import OneDesk.Stream.Framed
import Mathlib.Logic.Function.Iterate

/-!
# What a keyed WebSocket stream accepts

The secure-channel contract is implemented twice, over TCP frames and over
WebSocket messages.  The WebSocket version returns text messages as they come:
a keyed stream is as strict as its TCP sibling exactly on the message sequences
without a text message of more than one byte.
-/

namespace OneDesk
namespace Stream

/-- Payload of a message that carries data. -/
def WsMessage.payload : WsMessage → Option Bytes
  | .text payload => some payload
  | .binary payload => some payload
  | .ping _ => none
  | .pong _ => none
  | .close => none

namespace WsFramedStream

variable {Key : Type} (box : SecretBox Key)

/-- A stream with the messages still to come. -/
abbrev Inbox (Key : Type) :=
  WsFramedStream Key × List (Except String WsMessage)

/-- What one call of `next` returns. -/
def result (inbox : Inbox Key) : Option (Except IoError Bytes) :=
  (inbox.1.next box inbox.2).1

/-- The stream and the messages left after one call of `next`. -/
def advance (inbox : Inbox Key) : Inbox Key :=
  (inbox.1.next box inbox.2).2

/-- Every longer payload a call returns was opened from the message it took
last, under the session key and the next receive counter. -/
def ReturnsOpened (key : Key) (inbox : Inbox Key) : Prop :=
  ∀ bytes, result box inbox = some (.ok bytes) → 1 < bytes.length →
    ∃ encrypt before message frame,
      inbox.1.encrypt = some encrypt ∧
      encrypt.key = key ∧
      inbox.2 = before ++ .ok message :: (advance box inbox).2 ∧
      message.payload = some frame ∧
      box.openBox frame (getNonce (encrypt.received + 1)) key = some bytes

/-- Payloads accepted by a number of calls of `next`. -/
def accepted : Nat → Inbox Key → List Bytes
  | 0, _ => []
  | calls + 1, inbox =>
      match result box inbox with
      | some (.ok bytes) => bytes :: accepted calls (advance box inbox)
      | _ => accepted calls (advance box inbox)

end WsFramedStream

/-- Payloads a TCP stream accepts from what its codec yields. -/
def FramedStream.accepted {Key : Type} (box : SecretBox Key) :
    FramedStream Key → List (Option (Except IoError Bytes)) → List Bytes
  | _, [] => []
  | stream, incoming :: rest =>
      match stream.next box incoming with
      | (some (.ok bytes), after) => bytes :: after.accepted box rest
      | (_, after) => after.accepted box rest

/-- The frames a TCP codec would yield in the place of WebSocket messages. -/
def tcpFrames : List (Except String WsMessage) →
    List (Option (Except IoError Bytes))
  | [] => []
  | .error cause :: rest =>
      some (.error (WsFramedStream.protocolError cause)) :: tcpFrames rest
  | .ok (.binary data) :: rest => some (.ok data) :: tcpFrames rest
  | .ok (.text text) :: rest => some (.ok text) :: tcpFrames rest
  | .ok .close :: rest => none :: tcpFrames rest
  | .ok (.ping _) :: rest => tcpFrames rest
  | .ok (.pong _) :: rest => tcpFrames rest

/-- No text message of more than one byte is still to come. -/
def NoLongText (messages : List (Except String WsMessage)) : Prop :=
  ∀ text, .ok (.text text) ∈ messages → text.length ≤ 1

theorem NoLongText.tail
    {message : Except String WsMessage}
    {rest : List (Except String WsMessage)}
    (noLongText : NoLongText (message :: rest)) :
    NoLongText rest :=
  fun text member => noLongText text (List.mem_cons_of_mem message member)

namespace WsFramedStream

variable {Key : Type} {box : SecretBox Key}

/-- Without long text messages a keyed stream returns only what it opened. -/
theorem returnsOpened_of_noLongText
    {stream : WsFramedStream Key}
    {encrypt : Encrypt Key}
    (keyed : stream.encrypt = some encrypt)
    {messages : List (Except String WsMessage)}
    (noLongText : NoLongText messages) :
    ReturnsOpened box encrypt.key (stream, messages) := by
  intro bytes returned long
  -- `next` recurses only over pings and pongs, so the induction follows it.
  induction messages with
  | nil => simp [result, next] at returned
  | cons message rest inductionHypothesis =>
      rcases message with cause | message
      · simp [result, next] at returned
      cases message with
      | text text =>
          simp only [result, next, Option.some.injEq, Except.ok.injEq]
            at returned
          subst returned
          have short := noLongText text List.mem_cons_self
          omega
      | binary data =>
          simp only [result, next, keyed, Option.some.injEq] at returned
          refine ⟨encrypt, [], .binary data, data, keyed, rfl, ?_, rfl, ?_⟩
          · simp [advance, next, keyed]
          · rcases Nat.lt_or_ge 1 data.length with longFrame | shortFrame
            · exact (Encrypt.dec_long_fst_ok encrypt longFrame).mp returned
            · rw [Encrypt.dec_short encrypt shortFrame] at returned
              cases returned
              omega
      | close => simp [result, next] at returned
      | ping payload =>
          obtain ⟨found, before, current, frame, keyed', key_eq, taken,
            payload_eq, opened⟩ := inductionHypothesis noLongText.tail returned
          exact ⟨found, .ok (.ping payload) :: before, current, frame, keyed',
            key_eq, congrArg (List.cons _) taken, payload_eq, opened⟩
      | pong payload =>
          obtain ⟨found, before, current, frame, keyed', key_eq, taken,
            payload_eq, opened⟩ := inductionHypothesis noLongText.tail returned
          exact ⟨found, .ok (.pong payload) :: before, current, frame, keyed',
            key_eq, congrArg (List.cons _) taken, payload_eq, opened⟩

/-- One call leaves a keyed stream keyed with the same key. -/
theorem advance_keyed
    (box : SecretBox Key)
    {stream : WsFramedStream Key}
    {encrypt : Encrypt Key}
    (keyed : stream.encrypt = some encrypt)
    (messages : List (Except String WsMessage)) :
    ∃ after, (advance box (stream, messages)).1.encrypt = some after ∧
      after.key = encrypt.key := by
  induction messages with
  | nil => exact ⟨encrypt, keyed, rfl⟩
  | cons message rest inductionHypothesis =>
      rcases message with cause | message
      · exact ⟨encrypt, keyed, rfl⟩
      cases message with
      | text text => exact ⟨encrypt, keyed, rfl⟩
      | binary data =>
          refine ⟨(encrypt.dec box data).2, by simp [advance, next, keyed], ?_⟩
          exact (Encrypt.dec_snd_frame encrypt data).1
      | close => exact ⟨encrypt, keyed, rfl⟩
      | ping payload => exact inductionHypothesis
      | pong payload => exact inductionHypothesis

/-- One call leaves a suffix of the messages. -/
theorem advance_suffix
    (stream : WsFramedStream Key)
    (messages : List (Except String WsMessage)) :
    (advance box (stream, messages)).2 <:+ messages := by
  induction messages with
  | nil => exact List.suffix_refl []
  | cons message rest inductionHypothesis =>
      rcases message with cause | message
      · exact List.suffix_cons _ rest
      cases message with
      | text text => exact List.suffix_cons _ rest
      | binary data =>
          simp only [advance, next]
          split <;> exact List.suffix_cons _ rest
      | close => exact List.suffix_cons _ rest
      | ping payload => exact inductionHypothesis.trans (List.suffix_cons _ rest)
      | pong payload => exact inductionHypothesis.trans (List.suffix_cons _ rest)

/-- Any number of calls leaves a keyed stream keyed and a suffix of the
messages. -/
theorem iterate_advance_keyed
    (box : SecretBox Key)
    {stream : WsFramedStream Key}
    {encrypt : Encrypt Key}
    (keyed : stream.encrypt = some encrypt)
    (messages : List (Except String WsMessage))
    (calls : Nat) :
    (∃ after, ((advance box)^[calls] (stream, messages)).1.encrypt =
        some after ∧ after.key = encrypt.key) ∧
      ((advance box)^[calls] (stream, messages)).2 <:+ messages := by
  induction calls with
  | zero => exact ⟨⟨encrypt, keyed, rfl⟩, List.suffix_refl messages⟩
  | succ calls inductionHypothesis =>
      obtain ⟨⟨before, keyedBefore, keyBefore⟩, suffix⟩ := inductionHypothesis
      obtain ⟨after, keyedAfter, keyAfter⟩ := advance_keyed box keyedBefore
        ((advance box)^[calls] (stream, messages)).2
      rw [Function.iterate_succ_apply']
      exact ⟨⟨after, keyedAfter, keyAfter.trans keyBefore⟩,
        (advance_suffix _ _).trans suffix⟩

/-- Some later call returns a text message just as it came. -/
def ReturnsText (box : SecretBox Key) (text : Bytes) (inbox : Inbox Key) : Prop :=
  ∃ calls before,
    result box ((advance box)^[calls] inbox) = some (.ok text) ∧
    ((advance box)^[calls] inbox).2 =
      before ++ .ok (.text text) ::
        (advance box ((advance box)^[calls] inbox)).2

/-- A head that ends a call shifts the number of calls by one. -/
theorem ReturnsText.of_advance
    {text : Bytes}
    {inbox : Inbox Key}
    (returns : ReturnsText box text (advance box inbox)) :
    ReturnsText box text inbox := by
  obtain ⟨calls, before, returned, taken⟩ := returns
  refine ⟨calls + 1, before, ?_, ?_⟩
  · rw [Function.iterate_succ_apply]
    exact returned
  · rw [Function.iterate_succ_apply]
    exact taken

/-- A skipped head only lengthens what the first call reads over. -/
theorem ReturnsText.of_skipped
    {text : Bytes}
    {stream : WsFramedStream Key}
    {message : Except String WsMessage}
    {rest : List (Except String WsMessage)}
    (sameNext : stream.next box (message :: rest) = stream.next box rest)
    (returns : ReturnsText box text (stream, rest)) :
    ReturnsText box text (stream, message :: rest) := by
  obtain ⟨calls, before, returned, taken⟩ := returns
  cases calls with
  | zero =>
      refine ⟨0, message :: before, ?_, ?_⟩
      · simpa [result, sameNext] using returned
      · simpa [advance, sameNext] using taken
  | succ calls =>
      have sameAdvance : advance box (stream, message :: rest) =
          advance box (stream, rest) := by
        simp only [advance, sameNext]
      refine ⟨calls + 1, before, ?_, ?_⟩
      · rw [Function.iterate_succ_apply, sameAdvance]
        exact returned
      · rw [Function.iterate_succ_apply, sameAdvance]
        exact taken

/-- A text message to come is returned as it is by some later call. -/
theorem returnsText_of_mem
    {messages : List (Except String WsMessage)}
    {text : Bytes}
    (coming : .ok (.text text) ∈ messages)
    (stream : WsFramedStream Key) :
    ReturnsText box text (stream, messages) := by
  induction messages generalizing stream with
  | nil => simp at coming
  | cons message rest inductionHypothesis =>
      rcases List.mem_cons.mp coming with rfl | member
      · exact ⟨0, [], rfl, rfl⟩
      rcases message with cause | message
      · exact ReturnsText.of_advance (inductionHypothesis member stream)
      cases message with
      | text payload =>
          exact ReturnsText.of_advance (inductionHypothesis member stream)
      | binary data =>
          apply ReturnsText.of_advance
          simp only [advance, next]
          split
          · exact inductionHypothesis member _
          · exact inductionHypothesis member stream
      | close => exact ReturnsText.of_advance (inductionHypothesis member stream)
      | ping payload =>
          exact ReturnsText.of_skipped rfl (inductionHypothesis member stream)
      | pong payload =>
          exact ReturnsText.of_skipped rfl (inductionHypothesis member stream)

/-- Nothing is accepted once no message is to come. -/
theorem accepted_nil (calls : Nat) (stream : WsFramedStream Key) :
    accepted box calls (stream, []) = [] := by
  induction calls with
  | zero => rfl
  | succ calls inductionHypothesis => exact inductionHypothesis

/-- Without long text messages, enough calls accept what the TCP stream accepts
from the same frames. -/
theorem accepted_eq_tcp
    {messages : List (Except String WsMessage)}
    (noLongText : NoLongText messages)
    (raw : Bool)
    (encrypt : Encrypt Key)
    {calls : Nat}
    (enough : messages.length ≤ calls) :
    accepted box calls (⟨some encrypt⟩, messages) =
      FramedStream.accepted box ⟨raw, some encrypt⟩ (tcpFrames messages) := by
  induction messages generalizing encrypt calls with
  | nil => exact accepted_nil calls _
  | cons message rest inductionHypothesis =>
      have remaining : ∃ fewer, calls = fewer + 1 ∧ rest.length ≤ fewer := by
        simp only [List.length_cons] at enough
        exact ⟨calls - 1, by omega, by omega⟩
      obtain ⟨fewer, rfl, enoughFewer⟩ := remaining
      have after := inductionHypothesis noLongText.tail
      rcases message with cause | message
      · exact after encrypt enoughFewer
      cases message with
      | text text =>
          have short := noLongText text List.mem_cons_self
          have unchanged : encrypt.dec box text = (.ok text, encrypt) :=
            Encrypt.dec_short encrypt short
          simp only [accepted, result, advance, next, tcpFrames,
            FramedStream.accepted, FramedStream.next, unchanged]
          exact congrArg (List.cons text) (after encrypt enoughFewer)
      | binary data =>
          simp only [accepted, result, advance, next, tcpFrames,
            FramedStream.accepted, FramedStream.next]
          cases (encrypt.dec box data).1 with
          | error cause => exact after _ enoughFewer
          | ok plain => exact congrArg (List.cons plain) (after _ enoughFewer)
      | close => exact after encrypt enoughFewer
      | ping payload => exact after encrypt (Nat.le_succ_of_le enoughFewer)
      | pong payload => exact after encrypt (Nat.le_succ_of_le enoughFewer)

/-- No plaintext after keying: every longer payload that any call returns was
opened from its frame, and the stream accepts what its TCP sibling accepts from
the same frames, exactly when no text message of more than one byte comes. -/
theorem opened_and_like_tcp_iff_noLongText
    (lawful : box.Lawful)
    (key : Key)
    (messages : List (Except String WsMessage)) :
    ((∀ calls, ReturnsOpened box key
          ((advance box)^[calls] (new.setKey key, messages))) ∧
        accepted box messages.length (new.setKey key, messages) =
          (FramedStream.new.setKey key).accepted box (tcpFrames messages)) ↔
      NoLongText messages := by
  have keyed : (new.setKey key).encrypt = some (Encrypt.new key) := rfl
  constructor
  · rintro ⟨returnsOpened, -⟩ text coming
    by_contra long
    have returnsText : ReturnsText box text (new.setKey key, messages) :=
      returnsText_of_mem coming (new.setKey key)
    obtain ⟨calls, before, returned, taken⟩ := returnsText
    obtain ⟨encrypt, skipped, message, frame, -, -, taken', payload_eq, opened⟩ :=
      returnsOpened calls text returned (by omega)
    -- Both splits end at the same unread messages, so the call took the text.
    have sameLast : .ok (.text text) = (.ok message : Except String WsMessage) := by
      rw [taken] at taken'
      have reversed := congrArg List.reverse taken'
      simp only [List.reverse_append, List.reverse_cons, List.append_assoc]
        at reversed
      have tails := List.append_cancel_left reversed
      exact (List.cons.inj tails).1
    cases sameLast
    cases payload_eq
    have lengths := lawful.length_open _ _ _ _ opened
    omega
  · intro noLongText
    constructor
    · intro calls
      obtain ⟨⟨after, keyedAfter, key_eq⟩, suffix⟩ :=
        iterate_advance_keyed box keyed messages calls
      have opened : ReturnsOpened box after.key
          ((advance box)^[calls] (new.setKey key, messages)) :=
        returnsOpened_of_noLongText keyedAfter
          fun text member => noLongText text (suffix.subset member)
      have sessionKey : after.key = key := key_eq
      rwa [sessionKey] at opened
    · exact accepted_eq_tcp noLongText false (Encrypt.new key) (le_refl _)

/-- One text message on a keyed stream. -/
def plainText : List (Except String WsMessage) :=
  [.ok (.text [104, 105])]

/-- A keyed stream returns a text message without opening anything. -/
theorem plainText_not_opened :
    nonceTagBox.Lawful ∧
      ¬((∀ calls, ReturnsOpened nonceTagBox ()
            ((advance nonceTagBox)^[calls] (new.setKey (), plainText))) ∧
          accepted nonceTagBox plainText.length (new.setKey (), plainText) =
            (FramedStream.new.setKey ()).accepted nonceTagBox
              (tcpFrames plainText)) := by
  refine ⟨nonceTagBox_lawful, ?_⟩
  rintro ⟨-, sameAccepted⟩
  revert sameAccepted
  decide

/-- The characterisation at one text message. -/
theorem opened_and_like_tcp_iff_noLongText_plainText :
    ((∀ calls, ReturnsOpened nonceTagBox ()
          ((advance nonceTagBox)^[calls] (new.setKey (), plainText))) ∧
        accepted nonceTagBox plainText.length (new.setKey (), plainText) =
          (FramedStream.new.setKey ()).accepted nonceTagBox
            (tcpFrames plainText)) ↔
      NoLongText plainText :=
  opened_and_like_tcp_iff_noLongText nonceTagBox_lawful () plainText

end WsFramedStream

end Stream
end OneDesk
