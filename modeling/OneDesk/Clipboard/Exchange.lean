import OneDesk.Clipboard.MultiClipboards
import OneDesk.Common.Version
import OneDesk.Lib.Budget
import Mathlib.Logic.Function.Basic

/-!
# The exchange of clipboards

Machines that are connected send one another what their users copy.  What a machine receives it puts
on its own clipboard, which tells the same listeners as a copy of its user does.  An item of an own
format marks such a clipboard, and a listener that finds the mark sends nothing.

Processes of any number of machines run here: the clipboard service of a host, and the clients, each
with its listener and with what it sent last.  Messages arrive in any order or not at all, because
each is put on the clipboard by a thread of its own.
-/

namespace OneDesk
namespace Clipboard

open OneDesk.Lib OneDesk.Common Multi

/-- `ONEDESK_CLIPBOARD_OWNER_FORMAT` -/
def ownerFormat : List Char := "dyn.com.onedesk.owner".toList

inductive ClipboardSide
  | host
  | client
  deriving DecidableEq

/-- `get_owner_data` -/
def ClipboardSide.ownerData : ClipboardSide → List UInt8
  | .host => [0b01]
  | .client => [0b10]

/-- `is_owner`: the owner may be either side. -/
def ClipboardSide.isOwner (_side : ClipboardSide) : List UInt8 → Bool
  | [] => false
  | first :: _ => first &&& 0b11 != 0

/-- The item by which a listener knows that the clipboard was set by a side. -/
def ClipboardSide.owned (side : ClipboardSide) : ClipboardData → Bool
  | .special name bytes => name == ownerFormat && side.isOwner bytes
  | _ => false

/-- What `get_formats_filter` keeps of the items that it reads. -/
def synced : ClipboardData → Bool
  | .special name _ => name != ownerFormat
  -- empty text is not sent
  | .text text => !text.isEmpty
  | _ => true

/-- `get_formats_filter`, of the items that are read. -/
def getFormatsFilter (board : List ClipboardData) (side : ClipboardSide) (force : Bool) :
    List ClipboardData :=
  if !force && board.any side.owned then []
  else board.filter synced

/-- `ClipboardContext::get`: a clipboard with files is left to another service. -/
def getClipboard (board : List ClipboardData) (side : ClipboardSide) (force : Bool) :
    List ClipboardData :=
  let data := getFormatsFilter board side force
  if data.any (· == .other) then [] else data

/-- A message with a clipboard. -/
inductive ClipboardMessage
  | clipboard (one : ProtoClipboard)
  | multiClipboards (several : List ProtoClipboard)
  deriving DecidableEq

/-- What a message has `update_clipboard` put on the clipboard. -/
def ClipboardMessage.clipboards : ClipboardMessage → List ProtoClipboard
  | .clipboard one => [one]
  | .multiClipboards several => several

/-- What a peer says of itself when it connects. -/
structure ClipboardPeer where
  version : String
  platform : String

/-- `is_support_multi_clipboard`; `ios` is the name that `whoami` gives the platform. -/
def isSupportMultiClipboard (ios : String) (peer : ClipboardPeer) : Bool :=
  if getVersionNumber peer.version < getVersionNumber "1.3.0" then false
  else if ["", ios].contains peer.platform then false
  else if "Android" == peer.platform && getVersionNumber peer.version < getVersionNumber "1.3.3"
    then false
  else true

/-- The first text of the clipboards. -/
def firstText (clipboards : List ProtoClipboard) : Option ProtoClipboard :=
  clipboards.find? fun clipboard => enumValue clipboard.format == some .text

/-- `get_msg_if_not_support_multi_clip` -/
def getMsgIfNotSupportMultiClip (ios : String) (peer : ClipboardPeer)
    (clipboards : List ProtoClipboard) : Option ClipboardMessage :=
  if isSupportMultiClipboard ios peer then none
  else (firstText clipboards).map .clipboard

/-- What a connection or a session sends to a peer for the clipboards of a listener. -/
def outgoing (ios : String) (clipboards : List ProtoClipboard) (peer : ClipboardPeer) :
    ClipboardMessage :=
  -- a peer that does not support them is sent all of them where none is a text
  (getMsgIfNotSupportMultiClip ios peer clipboards).getD (.multiClipboards clipboards)

/-- What `get_current_clipboard_msg` makes of the clipboards that it found. -/
def getCurrentClipboardMsg (ios : String) (clipboards : List ProtoClipboard)
    (peer : ClipboardPeer) : Option ClipboardMessage :=
  if clipboards.isEmpty then none
  else if isSupportMultiClipboard ios peer then some (.multiClipboards clipboards)
  else (firstText clipboards).map .clipboard

/-- What `handle_screenshot_` puts on the clipboard. -/
def screenshotClipboards (png : Bytes) : List ProtoClipboard :=
  [{ content := png, format := ClipboardFormat.imagePng.value }]

/-- A clipboard of an operating system, by what is read from it after a program has set it. -/
structure Board where
  read : List ClipboardData → List ClipboardData
  /-- The item of the own format is found again. -/
  keepsOwner : ∀ items bytes, (∀ item ∈ items, ∀ other, item ≠ .special ownerFormat other) →
    .special ownerFormat bytes ∈ read (items ++ [.special ownerFormat bytes])

/-- The machines, the processes on them, and what they rest on. -/
structure Exchange (Node Process : Type) where
  home : Process → Node
  side : Process → ClipboardSide
  board : Node → Board
  compressor : Compressor
  ios : String

/-- The clipboards, the listeners, and the messages under way. -/
structure ExchangeWorld (Node Process : Type) where
  /-- What is read from the clipboard of a machine. -/
  board : Node → List ClipboardData
  /-- The changes that a listener has not looked at, if it is subscribed. -/
  waiting : Process → Option Nat
  /-- `LAST_MULTI_CLIPBOARDS` -/
  last : Process → List ProtoClipboard
  flight : List (Process × ClipboardMessage)

/-- Who is sent a message. -/
structure Recipient (Process : Type) where
  process : Process
  peer : ClipboardPeer

inductive ExchangeEvent (Node Process : Type)
  /-- The user of a machine copies. -/
  | copy (node : Node) (items : List ClipboardData)
  /-- A listener takes a change and looks at the clipboard, for the sessions that want it. -/
  | check (process : Process) (readable : Bool) (recipients : List (Recipient Process))
  /-- A client has connected, and sends what there is. -/
  | connected (process : Process) (readable : Bool) (recipient : Recipient Process)
  /-- A message is put on the clipboard, or is refused, or the clipboard cannot be set. -/
  | deliver (index : Nat) (succeeds : Bool)
  /-- The user has a screenshot of the peer put on the clipboard. -/
  | screenshot (process : Process) (png : Bytes)
  | subscribe (process : Process)
  | unsubscribe (process : Process)

variable {Node Process : Type}

/-- What is read from a clipboard on which `do_update_clipboard_` put what a process got. -/
def Exchange.arrived (exchange : Exchange Node Process) (process : Process)
    (clipboards : List ProtoClipboard) : List ClipboardData :=
  (exchange.board (exchange.home process)).read
    (fromMultiClipboards exchange.compressor clipboards ++
      [.special ownerFormat (exchange.side process).ownerData])

namespace ExchangeWorld

variable [DecidableEq Node] [DecidableEq Process]
variable (exchange : Exchange Node Process) (world : ExchangeWorld Node Process)

/-- The clipboard of a machine changes: `on_clipboard_change` tells the listeners. -/
def change (node : Node) (board : List ClipboardData) : ExchangeWorld Node Process :=
  { world with
    board := Function.update world.board node board
    waiting := fun process =>
      if exchange.home process = node then (world.waiting process).map (· + 1)
      else world.waiting process }

/-- `check_clipboard`, with what is sent for it. -/
def checkClipboard (process : Process) (readable : Bool) : Option (List ProtoClipboard) :=
  let content :=
    getClipboard (world.board (exchange.home process)) (exchange.side process) false
  if readable && !content.isEmpty then
    some (createMultiClipboards exchange.compressor content)
  else none

/-- What a step has a listener send. -/
def sends : ExchangeEvent Node Process → Option (Process × List ProtoClipboard)
  | .check process readable _ =>
      match world.waiting process with
      | some (_ + 1) => (world.checkClipboard exchange process readable).map (process, ·)
      | _ => none
  | _ => none

/-- A listener takes a change and looks at the clipboard. -/
def check (process : Process) (readable : Bool) (recipients : List (Recipient Process)) :
    ExchangeWorld Node Process :=
  match world.waiting process with
  | some (waiting + 1) =>
      let world := { world with waiting := Function.update world.waiting process (some waiting) }
      match world.checkClipboard exchange process readable with
      | some clipboards =>
          { world with
            last := Function.update world.last process clipboards
            flight := world.flight ++ recipients.map fun recipient =>
              (recipient.process, outgoing exchange.ios clipboards recipient.peer) }
      | none => world
  | _ => world

/-- `LAST_MULTI_CLIPBOARDS` as `get_current_clipboard_msg` finds it or fills it. -/
def currentClipboards (process : Process) (readable : Bool) : List ProtoClipboard :=
  if (world.last process).isEmpty && readable then
    createMultiClipboards exchange.compressor
      (getClipboard (world.board (exchange.home process)) (exchange.side process) true)
  else world.last process

/-- A client has connected, and sends what there is. -/
def connected (process : Process) (readable : Bool) (recipient : Recipient Process) :
    ExchangeWorld Node Process :=
  let clipboards := world.currentClipboards exchange process readable
  { world with
    last := Function.update world.last process clipboards
    flight := world.flight ++
      ((getCurrentClipboardMsg exchange.ios clipboards recipient.peer).map
        (recipient.process, ·)).toList }

/-- `update_clipboard_`, where the clipboard can be set. -/
def updateClipboard (process : Process) (clipboards : List ProtoClipboard) :
    ExchangeWorld Node Process :=
  if (fromMultiClipboards exchange.compressor clipboards).isEmpty then world
  else world.change exchange (exchange.home process) (exchange.arrived process clipboards)

/-- A message arrives. -/
def deliver (index : Nat) (succeeds : Bool) : ExchangeWorld Node Process :=
  match world.flight[index]? with
  | none => world
  | some (process, message) =>
      let world := { world with flight := world.flight.eraseIdx index }
      if succeeds then world.updateClipboard exchange process message.clipboards else world

/-- One step. -/
def step (world : ExchangeWorld Node Process) :
    ExchangeEvent Node Process → ExchangeWorld Node Process
  | .copy node items => world.change exchange node items
  | .check process readable recipients => world.check exchange process readable recipients
  | .connected process readable recipient => world.connected exchange process readable recipient
  | .deliver index succeeds => world.deliver exchange index succeeds
  | .screenshot process png => world.updateClipboard exchange process (screenshotClipboards png)
  | .subscribe process =>
      { world with waiting := Function.update world.waiting process (some 0) }
  | .unsubscribe process =>
      { world with waiting := Function.update world.waiting process none }

end ExchangeWorld

variable {exchange : Exchange Node Process} {world : ExchangeWorld Node Process}

/-! ## The mark -/

/-- The clipboard bears the mark. -/
def marked (board : List ClipboardData) : Bool := board.any ClipboardSide.host.owned

theorem any_owned (board : List ClipboardData) (side : ClipboardSide) :
    board.any side.owned = marked board := by
  cases side <;> rfl

/-- Nothing is read for a listener from a clipboard with the mark. -/
theorem getClipboard_of_marked
    {board : List ClipboardData}
    (mark : marked board = true)
    (side : ClipboardSide) :
    getClipboard board side false = [] := by
  rw [← any_owned board side] at mark
  simp [getClipboard, getFormatsFilter, mark]

theorem synced_of_mem_getClipboard
    {board : List ClipboardData}
    {side : ClipboardSide}
    {force : Bool}
    {item : ClipboardData}
    (member : item ∈ getClipboard board side force) :
    synced item = true := by
  simp only [getClipboard, getFormatsFilter] at member
  split at member
  · cases member
  · split at member
    · cases member
    · exact (List.mem_filter.mp member).2

/-- Both sides read the same. -/
theorem getClipboard_side
    (board : List ClipboardData)
    (side other : ClipboardSide)
    (force : Bool) :
    getClipboard board side force = getClipboard board other force := by
  simp only [getClipboard, getFormatsFilter, any_owned]

/-- No item of a message is of the own format. -/
def Honest (clipboards : List ProtoClipboard) : Prop :=
  ∀ clipboard ∈ clipboards, clipboard.specialName ≠ ownerFormat

theorem nil_ne_ownerFormat : ([] : List Char) ≠ ownerFormat := by decide

theorem specialName_of_clipboardDataToProto
    {compressor : Compressor}
    {item : ClipboardData}
    {clipboard : ProtoClipboard}
    (sent : clipboardDataToProto compressor item = some clipboard)
    (kept : synced item = true) :
    clipboard.specialName ≠ ownerFormat := by
  cases item with
  | text | rtf | html =>
      obtain rfl := Option.some.inj sent
      exact nil_ne_ownerFormat
  | image image =>
      obtain rfl := Option.some.inj sent
      cases image <;> exact nil_ne_ownerFormat
  | special name bytes =>
      obtain rfl := Option.some.inj sent
      have other : name ≠ ownerFormat := by simpa [synced] using kept
      exact other
  | other => cases sent

/-- What is read from a clipboard makes an honest message. -/
theorem honest_getClipboard
    (compressor : Compressor)
    (board : List ClipboardData)
    (side : ClipboardSide)
    (force : Bool) :
    Honest (createMultiClipboards compressor (getClipboard board side force)) := by
  intro clipboard member
  obtain ⟨item, isRead, sent⟩ := List.mem_filterMap.mp member
  exact specialName_of_clipboardDataToProto sent (synced_of_mem_getClipboard isRead)

theorem honest_screenshotClipboards (png : Bytes) : Honest (screenshotClipboards png) := by
  intro clipboard member
  rw [List.mem_singleton.mp member]
  exact nil_ne_ownerFormat

theorem Honest.firstText
    {clipboards : List ProtoClipboard}
    (honest : Honest clipboards)
    {text : ProtoClipboard}
    (found : firstText clipboards = some text) :
    Honest [text] := by
  intro clipboard member
  rw [List.mem_singleton.mp member]
  exact honest text (List.mem_of_find?_eq_some found)

/-- Nothing of an honest message is of the own format where it arrives. -/
theorem Honest.fromMultiClipboards
    {clipboards : List ProtoClipboard}
    (honest : Honest clipboards)
    (compressor : Compressor) :
    ∀ item ∈ fromMultiClipboards compressor clipboards,
      ∀ other, item ≠ .special ownerFormat other := by
  rintro item member other rfl
  obtain ⟨clipboard, isSent, got⟩ := List.mem_filterMap.mp member
  refine honest clipboard isSent ?_
  unfold fromClipboard at got
  split at got
  case h_7 special => exact (ClipboardData.special.inj (Option.some.inj got)).1
  all_goals simp at got

theorem owned_ownerData (side : ClipboardSide) :
    ClipboardSide.host.owned (.special ownerFormat side.ownerData) = true := by
  cases side <;> decide

/-! ## The messages -/

/-- What arrives bears the mark. -/
theorem marked_arrived
    (exchange : Exchange Node Process)
    (process : Process)
    {clipboards : List ProtoClipboard}
    (honest : Honest clipboards) :
    marked (exchange.arrived process clipboards) = true :=
  List.any_eq_true.mpr
    ⟨_, (exchange.board (exchange.home process)).keepsOwner _ _
      (honest.fromMultiClipboards exchange.compressor), owned_ownerData _⟩

/-- What a listener or a client can send for some clipboards. -/
def messagesFor (clipboards : List ProtoClipboard) : List ClipboardMessage :=
  .multiClipboards clipboards :: ((firstText clipboards).map .clipboard).toList

theorem outgoing_mem
    (ios : String)
    (clipboards : List ProtoClipboard)
    (peer : ClipboardPeer) :
    outgoing ios clipboards peer ∈ messagesFor clipboards := by
  unfold outgoing getMsgIfNotSupportMultiClip messagesFor
  split
  · exact List.mem_cons_self
  · cases (firstText clipboards).map ClipboardMessage.clipboard <;> simp

theorem getCurrentClipboardMsg_mem
    {ios : String}
    {clipboards : List ProtoClipboard}
    {peer : ClipboardPeer}
    {message : ClipboardMessage}
    (sent : getCurrentClipboardMsg ios clipboards peer = some message) :
    message ∈ messagesFor clipboards := by
  unfold getCurrentClipboardMsg at sent
  unfold messagesFor
  split at sent
  · cases sent
  · split at sent
    · rw [← Option.some.inj sent]
      exact List.mem_cons_self
    · rw [sent]
      exact List.mem_cons_of_mem _ (List.mem_singleton_self _)

theorem Honest.messagesFor
    {clipboards : List ProtoClipboard}
    (honest : Honest clipboards)
    {message : ClipboardMessage}
    (member : message ∈ messagesFor clipboards) :
    Honest message.clipboards := by
  rcases List.mem_cons.mp member with rfl | text
  · exact honest
  · obtain ⟨first, found, rfl⟩ := Option.map_eq_some_iff.mp (Option.mem_toList.mp text)
    exact honest.firstText found

/-! ## What a step changes -/

namespace ExchangeWorld

/-- A listener sends what is on a clipboard without the mark, and only for a change that it has not
looked at. -/
theorem sends_eq_some
    {event : ExchangeEvent Node Process}
    {process : Process}
    {clipboards : List ProtoClipboard}
    (sent : world.sends exchange event = some (process, clipboards)) :
    (∃ readable recipients, event = .check process readable recipients) ∧
      (∃ waiting, world.waiting process = some (waiting + 1)) ∧
      marked (world.board (exchange.home process)) = false ∧
      clipboards = createMultiClipboards exchange.compressor
        (getClipboard (world.board (exchange.home process)) (exchange.side process) false) := by
  cases event with
  | check checking readable recipients =>
      simp only [sends] at sent
      split at sent
      case h_1 waiting isWaiting =>
        obtain ⟨found, looked, same⟩ := Option.map_eq_some_iff.mp sent
        obtain ⟨rfl, rfl⟩ := Prod.mk.inj same
        simp only [checkClipboard] at looked
        split at looked
        case isTrue content =>
          refine ⟨⟨_, _, rfl⟩, ⟨waiting, isWaiting⟩, ?_, (Option.some.inj looked).symm⟩
          by_contra mark
          rw [Bool.not_eq_false] at mark
          simp [getClipboard_of_marked mark] at content
        case isFalse => cases looked
      case h_2 => cases sent
  | _ => cases sent

section

variable [DecidableEq Process]

@[simp] theorem board_check
    (process : Process)
    (readable : Bool)
    (recipients : List (Recipient Process)) :
    (world.check exchange process readable recipients).board = world.board := by
  unfold check
  split
  · dsimp only
    split <;> rfl
  · rfl

/-- A listener that looks takes one change. -/
theorem waiting_check
    (process : Process)
    (readable : Bool)
    (recipients : List (Recipient Process)) :
    (world.check exchange process readable recipients).waiting =
      Function.update world.waiting process ((world.waiting process).map (· - 1)) := by
  unfold check
  split
  case h_1 waiting isWaiting =>
    rw [isWaiting]
    dsimp only
    split <;> rfl
  case h_2 nothing =>
    funext other
    by_cases same : other = process
    · subst same
      rw [Function.update_self]
      cases isWaiting : world.waiting other with
      | none => rfl
      | some waiting =>
          cases waiting with
          | zero => rfl
          | succ waiting => exact absurd isWaiting (nothing waiting)
    · rw [Function.update_of_ne same]

/-- A listener that looks puts its messages under way. -/
theorem flight_check
    (process : Process)
    (readable : Bool)
    (recipients : List (Recipient Process)) :
    (world.check exchange process readable recipients).flight = world.flight ++
      match world.sends exchange (.check process readable recipients) with
      | some (_, clipboards) => recipients.map fun recipient =>
          (recipient.process, outgoing exchange.ios clipboards recipient.peer)
      | none => [] := by
  unfold check sends
  split
  case h_1 waiting isWaiting =>
    have same : ({ world with waiting := Function.update world.waiting process (some waiting) } :
        ExchangeWorld Node Process).checkClipboard exchange process readable =
        world.checkClipboard exchange process readable := rfl
    simp only [same, isWaiting]
    cases world.checkClipboard exchange process readable with
    | none => simp
    | some clipboards => simp
  case h_2 => simp

theorem last_check
    (process other : Process)
    (readable : Bool)
    (recipients : List (Recipient Process)) :
    (world.check exchange process readable recipients).last other = world.last other ∨
      ∃ board side, (world.check exchange process readable recipients).last other =
        createMultiClipboards exchange.compressor (getClipboard board side false) := by
  unfold check
  split
  case h_1 waiting isWaiting =>
    dsimp only
    split
    case h_1 clipboards looked =>
      by_cases same : other = process
      · subst same
        simp only [checkClipboard] at looked
        split at looked
        · refine .inr ⟨world.board (exchange.home other), exchange.side other, ?_⟩
          dsimp only
          rw [Function.update_self]
          exact (Option.some.inj looked).symm
        · cases looked
      · exact .inl (Function.update_of_ne same _ _)
    case h_2 => exact .inl rfl
  case h_2 => exact .inl rfl

end

section

variable [DecidableEq Node] (exchange) (world)

/-- What a process got is put on its clipboard, or nothing changes. -/
theorem updateClipboard_cases
    (process : Process)
    (clipboards : List ProtoClipboard) :
    world.updateClipboard exchange process clipboards = world ∨
      world.updateClipboard exchange process clipboards =
        world.change exchange (exchange.home process) (exchange.arrived process clipboards) := by
  unfold updateClipboard
  split
  · exact .inl rfl
  · exact .inr rfl

/-- A message that arrives is taken from those under way; it may change a clipboard. -/
theorem deliver_cases
    (index : Nat)
    (succeeds : Bool) :
    world.deliver exchange index succeeds = world ∨
      ∃ process message, (process, message) ∈ world.flight ∧
        (world.deliver exchange index succeeds =
            { world with flight := world.flight.eraseIdx index } ∨
          world.deliver exchange index succeeds =
            ({ world with flight := world.flight.eraseIdx index } :
              ExchangeWorld Node Process).change exchange (exchange.home process)
                (exchange.arrived process message.clipboards)) := by
  unfold deliver
  split
  · exact .inl rfl
  case h_2 process message found =>
    refine .inr ⟨process, message, List.mem_of_getElem? found, ?_⟩
    dsimp only
    split
    · exact updateClipboard_cases exchange _ process message.clipboards
    · exact .inl rfl

end

end ExchangeWorld

/-! ## The own format is not sent -/

/-- Nothing under way, and nothing kept for a client that connects, is of the own format. -/
structure Sound (world : ExchangeWorld Node Process) : Prop where
  flight : ∀ sent ∈ world.flight, Honest sent.2.clipboards
  last : ∀ process, Honest (world.last process)

namespace Sound

theorem currentClipboards
    (sound : Sound world)
    (process : Process)
    (readable : Bool) :
    Honest (world.currentClipboards exchange process readable) := by
  unfold ExchangeWorld.currentClipboards
  split
  · exact honest_getClipboard _ _ _ _
  · exact sound.last process

section

variable [DecidableEq Process]

theorem check
    (sound : Sound world)
    (process : Process)
    (readable : Bool)
    (recipients : List (Recipient Process)) :
    Sound (world.check exchange process readable recipients) where
  flight := by
    intro sent member
    rw [ExchangeWorld.flight_check] at member
    rcases List.mem_append.mp member with before | new
    · exact sound.flight sent before
    · split at new
      case h_1 sender clipboards sends =>
        obtain ⟨-, -, -, rfl⟩ := ExchangeWorld.sends_eq_some sends
        obtain ⟨recipient, -, rfl⟩ := List.mem_map.mp new
        exact (honest_getClipboard _ _ _ _).messagesFor (outgoing_mem _ _ _)
      case h_2 => cases new
  last := by
    intro other
    rcases ExchangeWorld.last_check process other readable recipients with same | ⟨_, _, read⟩
    · rw [same]
      exact sound.last other
    · rw [read]
      exact honest_getClipboard _ _ _ _

theorem connected
    (sound : Sound world)
    (process : Process)
    (readable : Bool)
    (recipient : Recipient Process) :
    Sound (world.connected exchange process readable recipient) where
  flight := by
    intro sent member
    rcases List.mem_append.mp member with before | new
    · exact sound.flight sent before
    · obtain ⟨message, made, rfl⟩ := Option.map_eq_some_iff.mp (Option.mem_toList.mp new)
      exact (sound.currentClipboards process readable).messagesFor
        (getCurrentClipboardMsg_mem made)
  last := by
    intro other
    by_cases same : other = process
    · subst same
      simp only [ExchangeWorld.connected, Function.update_self]
      exact sound.currentClipboards other readable
    · simp only [ExchangeWorld.connected, Function.update_of_ne same]
      exact sound.last other

end

section

variable [DecidableEq Node]

theorem updateClipboard
    (sound : Sound world)
    (process : Process)
    (clipboards : List ProtoClipboard) :
    Sound (world.updateClipboard exchange process clipboards) := by
  rcases ExchangeWorld.updateClipboard_cases exchange world process clipboards with same | changed
  · rw [same]
    exact sound
  · rw [changed]
    exact ⟨sound.flight, sound.last⟩

theorem deliver
    (sound : Sound world)
    (index : Nat)
    (succeeds : Bool) :
    Sound (world.deliver exchange index succeeds) := by
  have fewer : Sound { world with flight := world.flight.eraseIdx index } :=
    ⟨fun sent member => sound.flight sent (List.mem_of_mem_eraseIdx member), sound.last⟩
  rcases ExchangeWorld.deliver_cases exchange world index succeeds with
    same | ⟨_, _, _, taken | arrived⟩
  · rw [same]
    exact sound
  · rw [taken]
    exact fewer
  · rw [arrived]
    exact ⟨fewer.flight, fewer.last⟩

end

theorem step
    [DecidableEq Node] [DecidableEq Process]
    (sound : Sound world)
    (event : ExchangeEvent Node Process) :
    Sound (world.step exchange event) := by
  cases event with
  | copy => exact ⟨sound.flight, sound.last⟩
  | check process readable recipients => exact sound.check process readable recipients
  | connected process readable recipient => exact sound.connected process readable recipient
  | deliver index succeeds => exact sound.deliver index succeeds
  | screenshot process png =>
      exact sound.updateClipboard process (screenshotClipboards png)
  | subscribe | unsubscribe => exact ⟨sound.flight, sound.last⟩

end Sound

/-! ## What is sent -/

section

variable [DecidableEq Node]

/-- What the user of a machine has copied after an event. -/
def copied (node : Node) (board : List ClipboardData) :
    ExchangeEvent Node Process → List ClipboardData
  | .copy copying items => if copying = node then items else board
  | _ => board

/-- What the user of a machine copied last in some events, or what was on the clipboard before. -/
def lastCopy (node : Node) (board : List ClipboardData)
    (events : List (ExchangeEvent Node Process)) : List ClipboardData :=
  events.foldl (copied node) board

/-- An event is a copy, or it is none. -/
theorem copied_cases (node : Node) (event : ExchangeEvent Node Process) :
    (∀ board, copied node board event = board) ∨
      ∃ items, event = .copy node items ∧ ∀ board, copied node board event = items := by
  cases event with
  | copy copying items =>
      by_cases same : copying = node
      · exact .inr ⟨items, by rw [same], fun _ => if_pos same⟩
      · exact .inl fun _ => if_neg same
  | _ => exact .inl fun _ => rfl

/-- A clipboard on which something arrives bears the mark; the others stay. -/
theorem board_change_arrived
    (world : ExchangeWorld Node Process)
    (process : Process)
    {clipboards : List ProtoClipboard}
    (honest : Honest clipboards)
    (node : Node) :
    (world.change exchange (exchange.home process)
        (exchange.arrived process clipboards)).board node = world.board node ∨
      marked ((world.change exchange (exchange.home process)
        (exchange.arrived process clipboards)).board node) = true := by
  by_cases home : node = exchange.home process
  · subst home
    refine .inr ?_
    simp only [ExchangeWorld.change, Function.update_self]
    exact marked_arrived exchange process honest
  · refine .inl ?_
    simp only [ExchangeWorld.change, Function.update_of_ne home]

end

section

variable [DecidableEq Node] [DecidableEq Process]

/-- A step leaves the clipboard of a machine as its user has it, or puts the mark on it. -/
theorem board_step
    (sound : Sound world)
    (event : ExchangeEvent Node Process)
    (node : Node) :
    (world.step exchange event).board node = copied node (world.board node) event ∨
      marked ((world.step exchange event).board node) = true := by
  cases event with
  | copy copying items =>
      refine .inl ?_
      by_cases same : copying = node
      · subst same
        simp [ExchangeWorld.step, ExchangeWorld.change, copied]
      · simp [ExchangeWorld.step, ExchangeWorld.change, copied, same, Ne.symm same]
  | check process readable recipients =>
      exact .inl (congrFun (ExchangeWorld.board_check process readable recipients) node)
  | connected | subscribe | unsubscribe => exact .inl rfl
  | deliver index succeeds =>
      rcases ExchangeWorld.deliver_cases exchange world index succeeds with
        same | ⟨process, message, member, taken | arrived⟩
      · exact .inl (congrArg (fun after => after.board node) same)
      · exact .inl (congrArg (fun after => after.board node) taken)
      · simp only [ExchangeWorld.step, arrived]
        exact board_change_arrived _ process (sound.flight _ member) node
  | screenshot process png =>
      rcases ExchangeWorld.updateClipboard_cases exchange world process
        (screenshotClipboards png) with same | changed
      · exact .inl (congrArg (fun after => after.board node) same)
      · simp only [ExchangeWorld.step, changed]
        exact board_change_arrived _ process (honest_screenshotClipboards png) node

/-- Without a mark the clipboard of a machine holds what its user copied last. -/
theorem board_run
    {start : ExchangeWorld Node Process}
    (sound : Sound start)
    (events : List (ExchangeEvent Node Process))
    (node : Node) :
    (run (ExchangeWorld.step exchange) start events).board node =
        lastCopy node (start.board node) events ∨
      marked ((run (ExchangeWorld.step exchange) start events).board node) = true := by
  induction events using List.reverseRecOn with
  | nil => exact .inl rfl
  | append_singleton events event inductionHypothesis =>
      have soundBefore : Sound (run (ExchangeWorld.step exchange) start events) :=
        run_invariant_always Sound (fun _ event sound => sound.step event) events sound
      rw [run_concat, lastCopy, List.foldl_concat]
      rcases board_step soundBefore event node with stepped | mark
      · rcases copied_cases node event with keeps | ⟨items, -, copies⟩
        · rw [keeps] at stepped ⊢
          rw [stepped]
          exact inductionHypothesis
        · exact .inl (stepped.trans ((copies _).trans (copies _).symm))
      · exact .inr mark

/-- A host and a client, on clipboards that give back what was set. -/
def twoMachines : Exchange Bool Bool where
  home := id
  side := fun machine => if machine then .client else .host
  board := fun _ => ⟨id, fun _ _ _ => by simp⟩
  compressor := framed
  ios := "iOS"

/-- Both listeners are subscribed, and nothing is on the clipboards. -/
def atRest : ExchangeWorld Bool Bool where
  board := fun _ => []
  waiting := fun _ => some 0
  last := fun _ => []
  flight := []

theorem sound_atRest : Sound atRest := ⟨nofun, fun _ => nofun⟩

/-- The user of the host copies a text. -/
def copiesText : List (ExchangeEvent Bool Bool) := [.copy false [.text ['a']]]

/-- The client gets it, and both look at their clipboards. -/
def reachesClient : List (ExchangeEvent Bool Bool) :=
  [.check false true [⟨true, ⟨"1.4.0", "Windows"⟩⟩], .deliver 0 true,
    .check true true [⟨false, ⟨"1.4.0", "Linux"⟩⟩]]

end

/-! ## How often it is sent -/

/-- The changes for which a listener can still send something. -/
def pending (exchange : Exchange Node Process) (process : Process)
    (world : ExchangeWorld Node Process) : Nat :=
  if marked (world.board (exchange.home process)) then 0
  else (world.waiting process).getD 0

/-- Whether a listener sends something in a step. -/
def sendings [DecidableEq Process] (exchange : Exchange Node Process) (process : Process)
    (world : ExchangeWorld Node Process) (event : ExchangeEvent Node Process) : Nat :=
  if (world.sends exchange event).map Prod.fst = some process then 1 else 0

theorem pending_of_marked
    {process : Process}
    (mark : marked (world.board (exchange.home process)) = true) :
    pending exchange process world = 0 := by
  simp [pending, mark]

/-- A clipboard that changes elsewhere, or gets the mark, leaves nothing more to send. -/
theorem pending_change_le
    [DecidableEq Node]
    (process : Process)
    (world : ExchangeWorld Node Process)
    {node : Node}
    {board : List ClipboardData}
    (harmless : exchange.home process = node → marked board = true) :
    pending exchange process (world.change exchange node board) ≤
      pending exchange process world := by
  by_cases here : exchange.home process = node
  · have none : pending exchange process (world.change exchange node board) = 0 := by
      apply pending_of_marked
      simp [ExchangeWorld.change, here, harmless here]
    omega
  · simp [pending, ExchangeWorld.change, here]

/-- A listener that looks uses up a change, and sends at most one message for it. -/
theorem pending_check_le
    [DecidableEq Process]
    (process : Process)
    (world : ExchangeWorld Node Process)
    (checking : Process)
    (readable : Bool)
    (recipients : List (Recipient Process)) :
    sendings exchange process world (.check checking readable recipients) +
        pending exchange process (world.check exchange checking readable recipients) ≤
      pending exchange process world := by
  unfold sendings pending
  rw [ExchangeWorld.board_check, ExchangeWorld.waiting_check]
  have fewer : (Function.update world.waiting checking
      ((world.waiting checking).map (· - 1)) process).getD 0 ≤
      (world.waiting process).getD 0 := by
    by_cases same : process = checking
    · subst same
      rw [Function.update_self]
      cases world.waiting process <;> simp
    · rw [Function.update_of_ne same]
  by_cases sends :
      (world.sends exchange (.check checking readable recipients)).map Prod.fst = some process
  · obtain ⟨⟨sender, clipboards⟩, sent, rfl⟩ := Option.map_eq_some_iff.mp sends
    obtain ⟨⟨_, _, shape⟩, ⟨waiting, isWaiting⟩, unmarked, -⟩ := ExchangeWorld.sends_eq_some sent
    obtain rfl := (ExchangeEvent.check.inj shape).1
    simp only [if_pos sends, unmarked, Bool.false_eq_true, if_false, Function.update_self,
      isWaiting, Option.map_some, Option.getD_some]
    omega
  · rw [if_neg sends]
    split
    · exact Nat.le_refl _
    · omega

section

variable [DecidableEq Node] [DecidableEq Process]

/-- While a user copies nothing, every message of a listener uses up a change. -/
theorem pending_step
    (honest : ∀ sent ∈ world.flight, Honest sent.2.clipboards)
    (process : Process)
    (event : ExchangeEvent Node Process)
    (uncopied : ∀ items, event ≠ .copy (exchange.home process) items) :
    sendings exchange process world event +
        pending exchange process (world.step exchange event) ≤
      pending exchange process world := by
  have silent (quiet : world.sends exchange event = none) :
      sendings exchange process world event = 0 := by
    simp [sendings, quiet]
  cases event with
  | copy copying items =>
      have elsewhere : exchange.home process ≠ copying := by
        rintro rfl
        exact uncopied items rfl
      rw [silent rfl, Nat.zero_add]
      exact pending_change_le process world fun here => absurd here elsewhere
  | check checking readable recipients =>
      exact pending_check_le process world checking readable recipients
  | connected connecting readable recipient =>
      rw [silent rfl, Nat.zero_add]
      exact Nat.le_refl _
  | deliver index succeeds =>
      rw [silent rfl, Nat.zero_add]
      rcases ExchangeWorld.deliver_cases exchange world index succeeds with
        same | ⟨receiver, message, member, taken | arrived⟩
      · simp only [ExchangeWorld.step, same, Nat.le_refl]
      · simp only [ExchangeWorld.step, taken]
        exact Nat.le_refl _
      · simp only [ExchangeWorld.step, arrived]
        exact pending_change_le process _ fun _ =>
          marked_arrived exchange receiver (honest _ member)
  | screenshot taking png =>
      rw [silent rfl, Nat.zero_add]
      rcases ExchangeWorld.updateClipboard_cases exchange world taking
        (screenshotClipboards png) with same | changed
      · simp only [ExchangeWorld.step, same, Nat.le_refl]
      · simp only [ExchangeWorld.step, changed]
        exact pending_change_le process _ fun _ =>
          marked_arrived exchange taking (honest_screenshotClipboards png)
  | subscribe other | unsubscribe other =>
      rw [silent rfl, Nat.zero_add]
      by_cases same : process = other
      · subst same
        simp [ExchangeWorld.step, pending]
      · simp [ExchangeWorld.step, pending, same]

end

/-! ## One copy -/

/-- A step that is not the user's. -/
def Automatic : ExchangeEvent Node Process → Prop
  | .copy .. | .connected .. | .screenshot .. => False
  | _ => True

/-- What listeners send of the items that a user copied. -/
def Exchange.clipboardsOf (exchange : Exchange Node Process) (items : List ClipboardData) :
    List ProtoClipboard :=
  createMultiClipboards exchange.compressor (getClipboard items .host false)

/-- A clipboard is as it was, or holds what a process there got of some items. -/
def Brought (exchange : Exchange Node Process) (items before : List ClipboardData) (node : Node)
    (board : List ClipboardData) : Prop :=
  board = before ∨
    ∃ process message, exchange.home process = node ∧
      message ∈ messagesFor (exchange.clipboardsOf items) ∧
      board = exchange.arrived process message.clipboards

/-- Only what a user copied on one machine is under way, and the other machines have at most that
and nothing to send. -/
structure Spreads (exchange : Exchange Node Process) (source : Node)
    (items : List ClipboardData) (before : Node → List ClipboardData)
    (world : ExchangeWorld Node Process) : Prop where
  flight : ∀ sent ∈ world.flight, sent.2 ∈ messagesFor (exchange.clipboardsOf items)
  board : ∀ node, Brought exchange items (before node) node (world.board node)
  quiet : ∀ process, exchange.home process ≠ source → pending exchange process world = 0

namespace Spreads

variable {source : Node} {items : List ClipboardData} {before : Node → List ClipboardData}

theorem honest
    (spreads : Spreads exchange source items before world) :
    ∀ sent ∈ world.flight, Honest sent.2.clipboards := fun sent member =>
  (honest_getClipboard _ _ _ _).messagesFor (spreads.flight sent member)

/-- Who sends something sends the copy. -/
theorem sends
    (spreads : Spreads exchange source items before world)
    (isSource : before source = items)
    {event : ExchangeEvent Node Process}
    {process : Process}
    {clipboards : List ProtoClipboard}
    (sent : world.sends exchange event = some (process, clipboards)) :
    clipboards = exchange.clipboardsOf items := by
  obtain ⟨-, ⟨waiting, isWaiting⟩, unmarked, rfl⟩ := ExchangeWorld.sends_eq_some sent
  have here : exchange.home process = source := by
    by_contra elsewhere
    have none := spreads.quiet process elsewhere
    simp [pending, unmarked, isWaiting] at none
  rcases spreads.board source with same | ⟨receiver, message, -, member, arrived⟩
  · rw [Exchange.clipboardsOf, here, same, isSource, getClipboard_side _ _ .host]
  · have mark := marked_arrived exchange receiver
      ((honest_getClipboard exchange.compressor items .host false).messagesFor member)
    rw [here, arrived, mark] at unmarked
    cases unmarked

theorem step
    [DecidableEq Node] [DecidableEq Process]
    (spreads : Spreads exchange source items before world)
    (isSource : before source = items)
    {event : ExchangeEvent Node Process}
    (automatic : Automatic event) :
    Spreads exchange source items before (world.step exchange event) := by
  have quiet : ∀ process, exchange.home process ≠ source →
      pending exchange process (world.step exchange event) = 0 := by
    intro process elsewhere
    have uncopied : ∀ items, event ≠ .copy (exchange.home process) items := by
      rintro copying rfl
      exact automatic
    have less := pending_step spreads.honest process event uncopied
    have none := spreads.quiet process elsewhere
    omega
  cases event with
  | copy | connected | screenshot => exact automatic.elim
  | check checking readable recipients =>
      refine ⟨?_, ?_, quiet⟩
      · intro sent member
        simp only [ExchangeWorld.step, ExchangeWorld.flight_check] at member
        rcases List.mem_append.mp member with earlier | new
        · exact spreads.flight sent earlier
        · split at new
          case h_1 sender clipboards sends =>
            obtain ⟨recipient, -, rfl⟩ := List.mem_map.mp new
            rw [spreads.sends isSource sends]
            exact outgoing_mem _ _ _
          case h_2 => cases new
      · simp only [ExchangeWorld.step, ExchangeWorld.board_check]
        exact spreads.board
  | deliver index succeeds =>
      rcases ExchangeWorld.deliver_cases exchange world index succeeds with
        same | ⟨receiver, message, member, taken | arrived⟩
      · simp only [ExchangeWorld.step, same]
        exact spreads
      · refine ⟨?_, ?_, quiet⟩
        · simp only [ExchangeWorld.step, taken]
          exact fun sent remains => spreads.flight sent (List.mem_of_mem_eraseIdx remains)
        · simp only [ExchangeWorld.step, taken]
          exact spreads.board
      · refine ⟨?_, ?_, quiet⟩
        · simp only [ExchangeWorld.step, arrived]
          exact fun sent remains => spreads.flight sent (List.mem_of_mem_eraseIdx remains)
        · intro node
          simp only [ExchangeWorld.step, arrived, ExchangeWorld.change]
          by_cases here : node = exchange.home receiver
          · subst here
            rw [Function.update_self]
            exact .inr ⟨receiver, message, rfl, spreads.flight _ member, rfl⟩
          · rw [Function.update_of_ne here]
            exact spreads.board node
  | subscribe | unsubscribe => exact ⟨spreads.flight, spreads.board, quiet⟩

end Spreads

end Clipboard
end OneDesk
