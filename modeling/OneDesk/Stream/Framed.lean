import OneDesk.Stream.Encrypt

/-!
# Framed streams over TCP and WebSocket

Both streams carry whole frames.  `FramedStream` sits on the length-prefixed
codec, which refuses payloads of more than `0x3FFFFFFF` bytes; `WsFramedStream`
sits on WebSocket messages, of which only binary ones carry frames of the
protocol.  What the network hands over is an argument of `next`.
-/

namespace OneDesk
namespace Stream

/-- Longest payload `BytesCodec::encode` accepts when it is not raw. -/
def maxPayload : Nat := 0x3FFFFFFF

/-- The error of `BytesCodec::encode`. -/
def overflowError : IoError :=
  ⟨.invalidInput, "Overflow"⟩

/-- `FramedStream`: the raw flag of its codec and its optional key. -/
structure FramedStream (Key : Type) where
  raw : Bool
  encrypt : Option (Encrypt Key)
  deriving DecidableEq, Repr

namespace FramedStream

variable {Key : Type} (box : SecretBox Key)

/-- `FramedStream::from`. -/
def new : FramedStream Key :=
  ⟨false, none⟩

/-- `FramedStream::set_key`. -/
def setKey (stream : FramedStream Key) (key : Key) : FramedStream Key :=
  { stream with encrypt := some (Encrypt.new key) }

/-- `FramedStream::set_raw`. -/
def setRaw (stream : FramedStream Key) : FramedStream Key :=
  { stream with raw := true, encrypt := none }

/-- `FramedStream::is_secured`. -/
def isSecured (stream : FramedStream Key) : Bool :=
  stream.encrypt.isSome

/-- `FramedStream::send_bytes`: the frame put on the wire, or the codec's
refusal. -/
def sendBytes (stream : FramedStream Key) (bytes : Bytes) :
    Except IoError Bytes :=
  if stream.raw = false ∧ maxPayload < bytes.length then
    .error overflowError
  else
    .ok bytes

/-- `FramedStream::send_raw`: seal when keyed, then send.  The send counter has
advanced even when the codec refuses the sealed frame. -/
def sendRaw (stream : FramedStream Key) (msg : Bytes) :
    Except IoError Bytes × FramedStream Key :=
  match stream.encrypt with
  | some encrypt =>
      let keyed := { stream with encrypt := some (encrypt.enc box msg).2 }
      (keyed.sendBytes (encrypt.enc box msg).1, keyed)
  | none => (stream.sendBytes msg, stream)

/-- `FramedStream::next` on what the codec yields. -/
def next (stream : FramedStream Key) :
    Option (Except IoError Bytes) →
      Option (Except IoError Bytes) × FramedStream Key
  | some (.ok bytes) =>
      match stream.encrypt with
      | some encrypt =>
          (some (encrypt.dec box bytes).1,
            { stream with encrypt := some (encrypt.dec box bytes).2 })
      | none => (some (.ok bytes), stream)
  | res => (res, stream)

end FramedStream

/-- Messages of the WebSocket layer. -/
inductive WsMessage
  | text (payload : Bytes)
  | binary (payload : Bytes)
  | ping (payload : Bytes)
  | pong (payload : Bytes)
  | close
  deriving DecidableEq, Repr

/-- `WsFramedStream`: only its optional key matters to its frames. -/
structure WsFramedStream (Key : Type) where
  encrypt : Option (Encrypt Key)
  deriving DecidableEq, Repr

namespace WsFramedStream

variable {Key : Type} (box : SecretBox Key)

/-- `WsFramedStream::from_tcp_stream`. -/
def new : WsFramedStream Key :=
  ⟨none⟩

/-- `WsFramedStream::set_key`. -/
def setKey (_stream : WsFramedStream Key) (key : Key) : WsFramedStream Key :=
  ⟨some (Encrypt.new key)⟩

/-- `WsFramedStream::send_raw`: every frame leaves as a binary message. -/
def sendRaw (stream : WsFramedStream Key) (msg : Bytes) :
    WsMessage × WsFramedStream Key :=
  match stream.encrypt with
  | some encrypt =>
      (.binary (encrypt.enc box msg).1, ⟨some (encrypt.enc box msg).2⟩)
  | none => (.binary msg, stream)

/-- The error `WsFramedStream::next` builds from one of the WebSocket layer. -/
def protocolError (cause : String) : IoError :=
  ⟨.other, "WebSocket protocol error: " ++ cause⟩

/-- `WsFramedStream::next` on the messages still to come: what it returns, the
stream after it and the messages it leaves unread. -/
def next (stream : WsFramedStream Key) :
    List (Except String WsMessage) →
      Option (Except IoError Bytes) × WsFramedStream Key ×
        List (Except String WsMessage)
  | [] => (none, stream, [])
  | .error cause :: rest => (some (.error (protocolError cause)), stream, rest)
  | .ok (.binary data) :: rest =>
      match stream.encrypt with
      | some encrypt =>
          (some (encrypt.dec box data).1, ⟨some (encrypt.dec box data).2⟩, rest)
      | none => (some (.ok data), stream, rest)
  | .ok (.text text) :: rest => (some (.ok text), stream, rest)
  | .ok .close :: rest => (none, stream, rest)
  | .ok (.ping _) :: rest => stream.next rest
  | .ok (.pong _) :: rest => stream.next rest

end WsFramedStream

/-- `Stream`: the transports a session may run over. -/
inductive AnyStream (Key : Type)
  | tcp (stream : FramedStream Key)
  | webSocket (stream : WsFramedStream Key)
  deriving DecidableEq, Repr

namespace AnyStream

variable {Key : Type} (box : SecretBox Key)

/-- The keyed half of a stream. -/
def encrypt : AnyStream Key → Option (Encrypt Key)
  | .tcp stream => stream.encrypt
  | .webSocket stream => stream.encrypt

/-- `Stream::set_key`. -/
def setKey (key : Key) : AnyStream Key → AnyStream Key
  | .tcp stream => .tcp (stream.setKey key)
  | .webSocket stream => .webSocket (stream.setKey key)

/-- `Stream::send_raw`, without what it returns. -/
def sendRaw (msg : Bytes) : AnyStream Key → AnyStream Key
  | .tcp stream => .tcp (stream.sendRaw box msg).2
  | .webSocket stream => .webSocket (stream.sendRaw box msg).2

@[simp] theorem encrypt_setKey (key : Key) (stream : AnyStream Key) :
    (stream.setKey key).encrypt = some (Encrypt.new key) := by
  cases stream <;> rfl

/-- Whatever the transport, sending seals once and advances the counter. -/
@[simp] theorem encrypt_sendRaw (msg : Bytes) (stream : AnyStream Key) :
    (stream.sendRaw box msg).encrypt =
      stream.encrypt.map fun encrypt => (encrypt.enc box msg).2 := by
  cases stream with
  | tcp stream =>
      simp only [sendRaw, encrypt, FramedStream.sendRaw]
      split
      · next keyed => simp [keyed]
      · next unkeyed => simp [unkeyed]
  | webSocket stream =>
      simp only [sendRaw, encrypt, WsFramedStream.sendRaw]
      split
      · next keyed => simp [keyed]
      · next unkeyed => simp [unkeyed]

end AnyStream

end Stream
end OneDesk
