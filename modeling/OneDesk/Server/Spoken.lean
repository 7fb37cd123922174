import OneDesk.Server.Connection

/-!
# What a host says to its peer

Among the effects of a handler the messages to the peer are kept in order.  Most
of them introduce the host; two kinds do not: the answer to a login that succeeded,
and bytes that somebody else has prepared.
-/

namespace OneDesk
namespace Server

open OneDesk.Stream

/-- Messages that a peer reads before it is logged in. -/
def Reply.introduces : Reply → Bool
  | .loginPeerInfo => false
  | .raw _ => false
  | _ => true

/-- The message to the peer that an effect is. -/
def Effect.toPeer : Effect → Option Reply
  | .send reply => some reply
  | _ => none

namespace World

variable (world : World)

/-- The messages to the peer among the effects, in order. -/
def said : List Reply := world.out.filterMap Effect.toPeer

@[simp] theorem said_emit (effect : Effect) :
    (world.emit effect).said = world.said ++ effect.toPeer.toList := by
  rw [said, emit, List.filterMap_append, said]
  cases effect <;> rfl

@[simp] theorem said_send (reply : Reply) :
    (world.send reply).said = world.said ++ [reply] :=
  said_emit world (.send reply)

end World

end Server
end OneDesk
