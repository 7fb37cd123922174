import OneDesk.Stream.Session

/-!
# Nonces of one session key

Each end numbers the frames it seals from one, so the nonces of one end are
distinct.  Both ends number theirs alike and seal under the same key: the
nonces of the session are distinct only while one end stays silent.
-/

namespace OneDesk
namespace Stream

/-- Both ends of a session, over any transport, with the nonces of the seal
calls made so far. -/
structure Sealing (Key : Type) where
  stream : Side → AnyStream Key
  nonces : List (Side × Nonce)

namespace Sealing

variable {Key : Type} (box : SecretBox Key)

/-- Both ends right after `set_key` with the same key. -/
def start (transport : Side → AnyStream Key) (key : Key) : Sealing Key where
  stream := fun side => (transport side).setKey key
  nonces := []

/-- The nonce under which `send_raw` seals at an end. -/
def sealNonce (sealing : Sealing Key) (side : Side) : Option Nonce :=
  (sealing.stream side).encrypt.map fun encrypt => getNonce (encrypt.sent + 1)

/-- One end sends one message with `send_raw`. -/
def step (sealing : Sealing Key) (send : Side × Bytes) : Sealing Key where
  stream := Function.update sealing.stream send.1
    ((sealing.stream send.1).sendRaw box send.2)
  nonces := sealing.nonces ++
    ((sealing.sealNonce send.1).map fun nonce => (send.1, nonce)).toList

/-- How many messages an end has sent. -/
def sendCount (sends : List (Side × Bytes)) (side : Side) : Nat :=
  sends.countP fun send => send.1 = side

/-- The nonces one end uses for its first messages. -/
def firstNonces (count : Nat) : List Nonce :=
  (List.range count).map fun index => getNonce (UInt64.ofNat (index + 1))

/-- After some sends an end is keyed, its counter is their number, and its
nonces are the first ones in order. -/
def Counted (key : Key) (count : Side → Nat) (sealing : Sealing Key) : Prop :=
  ∀ side,
    (∃ encrypt, (sealing.stream side).encrypt = some encrypt ∧
      encrypt.key = key ∧ encrypt.sent = UInt64.ofNat (count side)) ∧
    (sealing.nonces.filter fun call => call.1 = side).map Prod.snd =
      firstNonces (count side)

variable {box}

theorem start_counted (transport : Side → AnyStream Key) (key : Key) :
    (start transport key).Counted key fun _ => 0 := by
  intro side
  refine ⟨⟨Encrypt.new key, by simp [start], rfl, rfl⟩, ?_⟩
  simp [start, firstNonces]

/-- One send counts one more message at its end and none at the other. -/
theorem step_counted
    {key : Key}
    {count : Side → Nat}
    {sealing : Sealing Key}
    (counted : sealing.Counted key count)
    (send : Side × Bytes) :
    (step box sealing send).Counted key
      (Function.update count send.1 (count send.1 + 1)) := by
  intro side
  obtain ⟨⟨encrypt, stream_eq, key_eq, sent_eq⟩, nonces_eq⟩ := counted send.1
  have nonce_eq : sealing.sealNonce send.1 =
      some (getNonce (UInt64.ofNat (count send.1 + 1))) := by
    simp [sealNonce, stream_eq, sent_eq]
  by_cases same : side = send.1
  · subst same
    refine ⟨⟨(encrypt.enc box send.2).2, ?_, ?_, ?_⟩, ?_⟩
    · simp [step, stream_eq]
    · simp [key_eq]
    · simp [sent_eq]
    · simp [step, nonce_eq, List.filter_append, nonces_eq, firstNonces,
        List.range_succ]
  · obtain ⟨⟨other, other_eq, otherKey, otherSent⟩, otherNonces⟩ := counted side
    refine ⟨⟨other, ?_, otherKey, ?_⟩, ?_⟩
    · simp [step, same, other_eq]
    · simp [same, otherSent]
    · have different : ¬send.1 = side := fun equal => same equal.symm
      simp [step, nonce_eq, List.filter_append, otherNonces, same, different]

/-- After any interleaving of sends, both ends are counted. -/
theorem run_counted
    (transport : Side → AnyStream Key)
    (key : Key)
    (sends : List (Side × Bytes)) :
    (Lib.run (step box) (start transport key) sends).Counted key
      (sendCount sends) := by
  induction sends using List.reverseRecOn with
  | nil => exact start_counted transport key
  | append_singleton sends send inductionHypothesis =>
      rw [Lib.run_concat]
      convert step_counted inductionHypothesis send using 1
      funext side
      by_cases same : side = send.1
      · subst same
        simp [sendCount, List.countP_append]
      · have different : ¬send.1 = side := fun equal => same equal.symm
        simp [sendCount, List.countP_append, same, different]

/-- Fewer than `2 ^ 64` nonces of one end are pairwise distinct. -/
theorem firstNonces_nodup
    {count : Nat}
    (few : count < 2 ^ 64) :
    (firstNonces count).Nodup := by
  apply List.Nodup.map_on _ List.nodup_range
  intro left leftMember right rightMember equal
  have leftSmall := List.mem_range.mp leftMember
  have rightSmall := List.mem_range.mp rightMember
  have counters := congrArg UInt64.toNat (getNonce_injective equal)
  simp only [UInt64.toNat_ofNat'] at counters
  rw [Nat.mod_eq_of_lt (by omega), Nat.mod_eq_of_lt (by omega)] at counters
  omega

/-- An end that has sent something has used the first nonce. -/
theorem first_mem_nonces
    {key : Key}
    {count : Side → Nat}
    {sealing : Sealing Key}
    (counted : sealing.Counted key count)
    {side : Side}
    (active : count side ≠ 0) :
    (side, getNonce 1) ∈ sealing.nonces := by
  have used : getNonce 1 ∈
      (sealing.nonces.filter fun call => call.1 = side).map Prod.snd := by
    rw [(counted side).2]
    refine List.mem_map.mpr ⟨0, List.mem_range.mpr ?_, rfl⟩
    omega
  obtain ⟨⟨owner, nonce⟩, member, nonce_eq⟩ := List.mem_map.mp used
  obtain ⟨present, owner_eq⟩ := List.mem_filter.mp member
  simp only [decide_eq_true_eq] at owner_eq
  simp only at nonce_eq
  subst owner_eq nonce_eq
  exact present

/-- When the other end is silent, every nonce of the session is one end's. -/
theorem nonces_eq_of_silent
    {key : Key}
    {count : Side → Nat}
    {sealing : Sealing Key}
    (counted : sealing.Counted key count)
    {side : Side}
    (silent : count side = 0) :
    sealing.nonces.map Prod.snd = firstNonces (count side.other) := by
  have none : (sealing.nonces.filter fun call => call.1 = side) = [] := by
    have empty := (counted side).2
    rw [silent] at empty
    simpa [firstNonces] using empty
  have all : (sealing.nonces.filter fun call => call.1 = side.other) =
      sealing.nonces := by
    rw [List.filter_eq_self]
    intro call member
    have owner : call.1 ≠ side := by
      simpa using List.filter_eq_nil_iff.mp none call member
    simpa using Side.eq_other_of_ne owner
  rw [← (counted side.other).2, all]

/-- Nonce uniqueness under one session key: with fewer than `2 ^ 64` sends an
end, no two seal calls share a nonce exactly when one end sends nothing. -/
theorem nonces_nodup_iff
    (transport : Side → AnyStream Key)
    (key : Key)
    (sends : List (Side × Bytes))
    (few : ∀ side, sendCount sends side < 2 ^ 64) :
    ((Lib.run (step box) (start transport key) sends).nonces.map
        Prod.snd).Nodup ↔
      ∃ side, sendCount sends side = 0 := by
  have counted : (Lib.run (step box) (start transport key) sends).Counted key
      (sendCount sends) :=
    run_counted transport key sends
  constructor
  · intro distinct
    by_contra bothActive
    simp only [not_exists] at bothActive
    have sameCall := List.inj_on_of_nodup_map distinct
      (first_mem_nonces counted (bothActive .a))
      (first_mem_nonces counted (bothActive .b)) rfl
    simp at sameCall
  · rintro ⟨side, silent⟩
    rw [nonces_eq_of_silent counted silent]
    exact firstNonces_nodup (few side.other)

/-- One message each way over TCP. -/
def oneEachWay : List (Side × Bytes) :=
  [(.a, [1]), (.b, [2])]

/-- One message each way already repeats a nonce under the session key. -/
theorem oneEachWay_repeats_nonce :
    (∀ side, sendCount oneEachWay side < 2 ^ 64) ∧
      ¬((Lib.run (step nonceTagBox)
          (start (fun _ => .tcp FramedStream.new) ()) oneEachWay).nonces.map
            Prod.snd).Nodup := by
  constructor
  · intro side
    cases side <;> decide
  · decide

/-- The characterisation at one message each way. -/
theorem nonces_nodup_iff_oneEachWay :
    ((Lib.run (step nonceTagBox)
        (start (fun _ => .tcp FramedStream.new) ()) oneEachWay).nonces.map
          Prod.snd).Nodup ↔
      ∃ side, sendCount oneEachWay side = 0 :=
  nonces_nodup_iff (fun _ => .tcp FramedStream.new) () oneEachWay (by
    intro side
    cases side <;> decide)

end Sealing

end Stream
end OneDesk
