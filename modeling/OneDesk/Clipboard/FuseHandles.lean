import OneDesk.Clipboard.FuseTree
import OneDesk.Lib.BinarySearch
import OneDesk.Lib.Run
import OneDesk.Lib.Since

/-!
# The handles of the file system

A file of the tree is opened under a handle, which is the next number of a counter of the
server.  Each node keeps the handles it is open under, in the order they were given out, and
looks them up by a binary search.  A new list of files comes with new nodes, and the counter goes
on.
-/

namespace OneDesk
namespace Clipboard
namespace Fuse

open OneDesk.Lib

/-! ## The handles of a node -/

namespace FileHandles

/-- `FileHandles::add_handler`.  Nothing marks the handles of a node. -/
def addHandler (handlers : List Nat) (fh : Nat) : List Nat :=
  handlers ++ [fh]

/-- `FileHandles::have_handler` -/
def haveHandler (handlers : List Nat) (handler : Nat) : Bool :=
  (binarySearch handlers handler).isSome

/-- `FileHandles::unregister`; nothing for a handle that is not found. -/
def unregister (handlers : List Nat) (handler : Nat) : Option (List Nat) :=
  (binarySearch handlers handler).map handlers.eraseIdx

end FileHandles

/-- The errors of the calls that take or give handles. -/
inductive HandleErrno
  | noEntry
  | notDirectory
  | tooManyFiles
  | badHandle
  deriving DecidableEq

/-- `FuseServer`, with the counter of its handles. -/
structure HandleServer extends FuseServer where
  fileHandleCounter : UInt64
  deriving DecidableEq

namespace HandleServer

/-- `FuseServer::new` -/
def new : HandleServer := ⟨⟨0, []⟩, 0⟩

variable (server : HandleServer)

/-- `FuseServer::alloc_fd` -/
def allocFd : Nat × HandleServer :=
  (server.fileHandleCounter.toNat,
    { server with fileHandleCounter := server.fileHandleCounter + 1 })

/-- The handles of a node are changed. -/
def withHandlers (ino : Nat) (change : List Nat → List Nat) : HandleServer :=
  { server with
    files := server.files.modify (ino - 1) fun node =>
      { node with fileHandlers := change node.fileHandlers } }

/-- A node of one kind is opened; `wrong` is the error for the other kinds. -/
def openAs (kind : FileType) (wrong : HandleErrno) (ino : Nat) :
    Except HandleErrno Nat × HandleServer :=
  match server.get ino with
  | none => (.error .noEntry, server)
  | some entry =>
      if entry.attributes.kind ≠ kind then (.error wrong, server)
      else
        let (fh, server) := server.allocFd
        (.ok fh, server.withHandlers ino fun handlers => FileHandles.addHandler handlers fh)

/-- `open` -/
def openFile (ino : Nat) : Except HandleErrno Nat × HandleServer :=
  server.openAs .file .tooManyFiles ino

/-- `opendir` -/
def opendir (ino : Nat) : Except HandleErrno Nat × HandleServer :=
  server.openAs .directory .notDirectory ino

/-- `release` -/
def release (ino fh : Nat) : Except HandleErrno Unit × HandleServer :=
  match server.get ino with
  | none => (.error .noEntry, server)
  | some entry =>
      match FileHandles.unregister entry.fileHandlers fh with
      | none => (.error .badHandle, server)
      | some handlers => (.ok (), server.withHandlers ino fun _ => handlers)

/-- `releasedir` -/
def releasedir (ino fh : Nat) : Except HandleErrno Unit × HandleServer :=
  match server.get ino with
  | none => (.error .noEntry, server)
  | some entry =>
      if entry.attributes.kind ≠ .directory then (.error .notDirectory, server)
      else if FileHandles.haveHandler entry.fileHandlers fh = false then
        (.error .badHandle, server)
      else
        match FileHandles.unregister entry.fileHandlers fh with
        | none => (.ok (), server)
        | some handlers => (.ok (), server.withHandlers ino fun _ => handlers)

/-- `init`, at some time. -/
def init (now : Int) : HandleServer :=
  if server.files = [] then { server with files := [.newRoot now] } else server

/-- `load_file_list`, with the counter going on. -/
def load (now : Int) (files : List FileDescription) : Except CliprdrError Unit × HandleServer :=
  let (result, tree) := server.toFuseServer.loadFileList now files
  (result, { server with toFuseServer := tree })

/-- The checks of `read`: the node that is read. -/
def read (ino fh : Nat) : Except HandleErrno FuseNode :=
  match server.get ino with
  | none => .error .noEntry
  | some entry =>
      if FileHandles.haveHandler entry.fileHandlers fh = false then .error .badHandle
      else if entry.attributes.kind ≠ .file then .error .tooManyFiles
      else .ok entry

end HandleServer

/-! ## Calls and replies -/

inductive FuseCall
  | init (now : Int)
  | openFile (ino : Nat)
  | opendir (ino : Nat)
  | release (ino fh : Nat)
  | releasedir (ino fh : Nat)
  | loadFileList (now : Int) (files : List FileDescription)
  deriving DecidableEq

inductive FuseReply
  | done
  | opened (fh : Nat)
  | loaded
  | error (errno : HandleErrno)
  | failed (error : CliprdrError)
  deriving DecidableEq

namespace FuseReply

/-- The reply to an opening call. -/
def ofOpen : Except HandleErrno Nat → FuseReply
  | .ok fh => .opened fh
  | .error errno => .error errno

/-- The reply to a releasing call. -/
def ofRelease : Except HandleErrno Unit → FuseReply
  | .ok () => .done
  | .error errno => .error errno

/-- How a list of files was loaded. -/
def ofLoad : Except CliprdrError Unit → FuseReply
  | .ok () => .loaded
  | .error cause => .failed cause

end FuseReply

/-- The calls of a server with their replies, and the server. -/
structure Served where
  log : List (FuseCall × FuseReply)
  server : HandleServer

namespace HandleServer

/-- A call is answered. -/
def answer (server : HandleServer) : FuseCall → FuseReply × HandleServer
  | .init now => (.done, server.init now)
  | .openFile ino => (server.openFile ino).map .ofOpen id
  | .opendir ino => (server.opendir ino).map .ofOpen id
  | .release ino fh => (server.release ino fh).map .ofRelease id
  | .releasedir ino fh => (server.releasedir ino fh).map .ofRelease id
  | .loadFileList now files => (server.load now files).map .ofLoad id

end HandleServer

/-- One more call. -/
def Served.step (served : Served) (call : FuseCall) : Served where
  log := served.log ++ [(call, (served.server.answer call).1)]
  server := (served.server.answer call).2

/-- The calls of a new server. -/
def served (calls : List FuseCall) : Served :=
  run Served.step ⟨[], .new⟩ calls

/-! ## What the handles name -/

/-- A node was opened under a handle. -/
def Opens (ino fh : Nat) (entry : FuseCall × FuseReply) : Prop :=
  (entry.1 = .openFile ino ∨ entry.1 = .opendir ino) ∧ entry.2 = .opened fh

/-- A handle of a node was released. -/
def Releases (ino fh : Nat) (entry : FuseCall × FuseReply) : Prop :=
  (entry.1 = .release ino fh ∨ entry.1 = .releasedir ino fh) ∧ entry.2 = .done

/-- A list of files was loaded. -/
def Loads (entry : FuseCall × FuseReply) : Prop :=
  entry.2 = .loaded

/-- A handle was given out for a node since the last list, and has not been released since. -/
def HeldBy (log : List (FuseCall × FuseReply)) (ino fh : Nat) : Prop :=
  Since (Opens ino fh) (fun entry => Loads entry ∨ Releases ino fh entry) log

/-- The handle that a reply gives out. -/
def FuseReply.handle : FuseReply → Option Nat
  | .opened fh => some fh
  | _ => none

/-- The handles that were given out. -/
def handlesOf (log : List (FuseCall × FuseReply)) : List Nat :=
  log.filterMap fun entry => entry.2.handle

/-- The handles name their files. -/
structure NamesFiles (served : Served) : Prop where
  increasing : ∀ node ∈ served.server.files, node.fileHandlers.Pairwise (· < ·)
  held : ∀ ino node, served.server.get ino = some node → ∀ fh,
    FileHandles.haveHandler node.fileHandlers fh = true ↔ HeldBy served.log ino fh
  /-- What was opened on one list never reads from a later one. -/
  apart : ∀ before entry after, served.log = before ++ entry :: after → Loads entry →
    ∀ fh ∈ handlesOf before, ∀ ino node, served.server.read ino fh ≠ .ok node

/-! ## What a call does -/

variable {server next : HandleServer} {call : FuseCall} {reply : FuseReply}

/-- Everything that a call can do. -/
inductive Turn (server : HandleServer) : FuseCall → FuseReply → HandleServer → Prop
  | quiet
      (call : FuseCall)
      (reply : FuseReply)
      (noHandle : reply.handle = none)
      (noList : ¬Loads (call, reply))
      (noRelease : ∀ ino fh, ¬Releases ino fh (call, reply)) :
      Turn server call reply server
  | mounted
      (now : Int)
      (empty : server.files = []) :
      Turn server (.init now) .done { server with files := [.newRoot now] }
  | opened
      (call : FuseCall)
      (ino : Nat)
      (node : FuseNode)
      (isOpen : call = .openFile ino ∨ call = .opendir ino)
      (found : server.get ino = some node) :
      Turn server call (.opened server.fileHandleCounter.toNat)
        ({ server with fileHandleCounter := server.fileHandleCounter + 1 }.withHandlers ino
          fun handlers => FileHandles.addHandler handlers server.fileHandleCounter.toNat)
  | released
      (call : FuseCall)
      (ino fh : Nat)
      (node : FuseNode)
      (handlers : List Nat)
      (isRelease : call = .release ino fh ∨ call = .releasedir ino fh)
      (found : server.get ino = some node)
      (left : FileHandles.unregister node.fileHandlers fh = some handlers) :
      Turn server call .done (server.withHandlers ino fun _ => handlers)
  | loaded
      (now : Int)
      (files : List FileDescription)
      (tree : List FuseNode)
      (built : FuseNode.buildTree now files = .ok tree) :
      Turn server (.loadFileList now files) .loaded
        { server with files := tree, generation := server.generation + 1 }

/-- A call that ends in an error changes nothing. -/
theorem Turn.failure (call : FuseCall) (errno : HandleErrno) :
    Turn server call (.error errno) server := by
  refine .quiet call (.error errno) rfl ?_ ?_
  · rintro ⟨⟩
  · rintro ino fh ⟨_, ⟨⟩⟩

theorem turn_openAs
    (kind : FileType)
    (wrong : HandleErrno)
    {ino : Nat}
    (isOpen : call = .openFile ino ∨ call = .opendir ino) :
    Turn server call (.ofOpen (server.openAs kind wrong ino).1)
      (server.openAs kind wrong ino).2 := by
  unfold HandleServer.openAs
  cases found : server.get ino with
  | none => exact .failure call .noEntry
  | some node =>
      dsimp only
      split
      · exact .failure call wrong
      · exact .opened call ino node isOpen found

theorem turn_release (ino fh : Nat) :
    Turn server (.release ino fh) (.ofRelease (server.release ino fh).1)
      (server.release ino fh).2 := by
  unfold HandleServer.release
  cases found : server.get ino with
  | none => exact .failure _ .noEntry
  | some node =>
      dsimp only
      cases left : FileHandles.unregister node.fileHandlers fh with
      | none => exact .failure _ .badHandle
      | some handlers => exact .released _ ino fh node handlers (.inl rfl) found left

theorem turn_releasedir (ino fh : Nat) :
    Turn server (.releasedir ino fh) (.ofRelease (server.releasedir ino fh).1)
      (server.releasedir ino fh).2 := by
  unfold HandleServer.releasedir
  cases found : server.get ino with
  | none => exact .failure _ .noEntry
  | some node =>
      dsimp only
      split
      · exact .failure _ .notDirectory
      · split
        · exact .failure _ .badHandle
        · next has =>
            cases left : FileHandles.unregister node.fileHandlers fh with
            | none =>
                -- The handle was found just before.
                rw [FileHandles.unregister, Option.map_eq_none_iff] at left
                rw [FileHandles.haveHandler, left] at has
                exact absurd rfl has
            | some handlers => exact .released _ ino fh node handlers (.inr rfl) found left

theorem turn_load (now : Int) (files : List FileDescription) :
    Turn server (.loadFileList now files) (.ofLoad (server.load now files).1)
      (server.load now files).2 := by
  unfold HandleServer.load FuseServer.loadFileList
  cases built : FuseNode.buildTree now files with
  | error cause =>
      refine .quiet _ (.failed cause) rfl ?_ ?_
      · rintro ⟨⟩
      · rintro ino fh ⟨_, ⟨⟩⟩
  | ok tree => exact .loaded now files tree built

theorem turn_init (now : Int) : Turn server (.init now) .done (server.init now) := by
  unfold HandleServer.init
  split
  · next empty => exact .mounted now empty
  · refine .quiet _ .done rfl ?_ ?_
    · rintro ⟨⟩
    · rintro ino fh ⟨isRelease | isRelease, _⟩
      · cases isRelease
      · cases isRelease

theorem turn_answer (server : HandleServer) (call : FuseCall) :
    Turn server call (server.answer call).1 (server.answer call).2 := by
  cases call with
  | init now => exact turn_init now
  | openFile ino => exact turn_openAs .file .tooManyFiles (.inl rfl)
  | opendir ino => exact turn_openAs .directory .notDirectory (.inr rfl)
  | release ino fh => exact turn_release ino fh
  | releasedir ino fh => exact turn_releasedir ino fh
  | loadFileList now files => exact turn_load now files

/-! ## The invariant -/

theorem get_withHandlers
    {ino : Nat}
    {node : FuseNode}
    (found : server.get ino = some node)
    (change : List Nat → List Nat)
    (other : Nat) :
    (server.withHandlers ino change).get other =
      if other = ino then some { node with fileHandlers := change node.fileHandlers }
      else server.get other := by
  unfold FuseServer.get at found ⊢
  dsimp only [HandleServer.withHandlers]
  split at found
  · cases found
  · next nonzero =>
      rw [List.getElem?_modify]
      by_cases same : other = ino
      · subst same
        simp [nonzero, found]
      · rw [if_neg same]
        split
        · rfl
        · next otherNonzero =>
            have apart : ¬ino - 1 = other - 1 := by omega
            simp [apart]

/-- The nodes of a list are those behind its inodes. -/
theorem mem_files_iff (node : FuseNode) :
    node ∈ server.files ↔ ∃ ino, server.get ino = some node := by
  constructor
  · intro member
    obtain ⟨place, isNode⟩ := List.mem_iff_getElem?.mp member
    exact ⟨place + 1, by rwa [FuseServer.get, if_neg (Nat.succ_ne_zero place)]⟩
  · rintro ⟨ino, found⟩
    exact FuseServer.get_mem found

/-- The nodes of a new tree are not open. -/
theorem fileHandlers_of_buildTree
    {now : Int}
    {files : List FileDescription}
    {tree : List FuseNode}
    (built : FuseNode.buildTree now files = .ok tree) :
    ∀ node ∈ tree, node.fileHandlers = [] := by
  obtain ⟨_, rfl⟩ := (FuseNode.buildTree_eq_ok_iff now files tree).mp built
  intro node member
  rcases List.mem_cons.mp member with rfl | inner
  · rfl
  · obtain ⟨file, _, rfl⟩ := List.mem_map.mp inner
    rfl

/-- What holds of a server and its calls while the counter has not come around. -/
structure Kept (served : Served) : Prop where
  counted : served.server.fileHandleCounter = UInt64.ofNat (handlesOf served.log).length
  numbered : handlesOf served.log = List.range (handlesOf served.log).length
  increasing : ∀ ino node, served.server.get ino = some node →
    node.fileHandlers.Pairwise (· < ·)
  given : ∀ ino node, served.server.get ino = some node →
    ∀ fh ∈ node.fileHandlers, fh < (handlesOf served.log).length
  holds : ∀ ino fh, HeldBy served.log ino fh ↔
    ∃ node, served.server.get ino = some node ∧ fh ∈ node.fileHandlers

theorem handlesOf_concat
    (log : List (FuseCall × FuseReply))
    (call : FuseCall)
    (reply : FuseReply) :
    handlesOf (log ++ [(call, reply)]) = handlesOf log ++ reply.handle.toList := by
  rw [handlesOf, List.filterMap_append, ← handlesOf]
  cases reply <;> rfl

theorem heldBy_concat
    (log : List (FuseCall × FuseReply))
    (call : FuseCall)
    (reply : FuseReply)
    (ino fh : Nat) :
    HeldBy (log ++ [(call, reply)]) ino fh ↔
      Opens ino fh (call, reply) ∨
        HeldBy log ino fh ∧ ¬(Loads (call, reply) ∨ Releases ino fh (call, reply)) :=
  since_concat _ _ log (call, reply)

/-- A reply that gives out no handle opens nothing. -/
theorem not_opens (noHandle : reply.handle = none) (ino fh : Nat) :
    ¬Opens ino fh (call, reply) := by
  rintro ⟨_, isReply⟩
  dsimp only at isReply
  rw [isReply] at noHandle
  cases noHandle

theorem Kept.new : Kept ⟨[], .new⟩ where
  counted := rfl
  numbered := rfl
  increasing := by
    intro ino node found
    cases FuseServer.get_mem found
  given := by
    intro ino node found
    cases FuseServer.get_mem found
  holds := by
    intro ino fh
    constructor
    · intro held
      exact absurd held (not_since_nil _ _)
    · rintro ⟨node, found, _⟩
      cases FuseServer.get_mem found

/-- A call with no part in the handles. -/
theorem Kept.quiet
    {served : Served}
    (kept : Kept served)
    (noHandle : reply.handle = none)
    (noList : ¬Loads (call, reply))
    (noRelease : ∀ ino fh, ¬Releases ino fh (call, reply)) :
    Kept ⟨served.log ++ [(call, reply)], served.server⟩ := by
  have same : handlesOf (served.log ++ [(call, reply)]) = handlesOf served.log := by
    rw [handlesOf_concat, noHandle, Option.toList_none, List.append_nil]
  refine ⟨?_, ?_, kept.increasing, ?_, fun ino fh => ?_⟩
  · rw [same]
    exact kept.counted
  · rw [same]
    exact kept.numbered
  · rw [same]
    exact kept.given
  · rw [heldBy_concat, ← kept.holds]
    simp [not_opens noHandle, noList, noRelease]

/-- New nodes have no handles. -/
theorem Kept.renewed
    {served : Served}
    (kept : Kept served)
    {tree : List FuseNode}
    {generation : UInt64}
    (noHandle : reply.handle = none)
    (unheld : Loads (call, reply) ∨ served.server.files = [])
    (unopened : ∀ node ∈ tree, node.fileHandlers = []) :
    Kept ⟨served.log ++ [(call, reply)],
      { served.server with files := tree, generation := generation }⟩ := by
  have same : handlesOf (served.log ++ [(call, reply)]) = handlesOf served.log := by
    rw [handlesOf_concat, noHandle, Option.toList_none, List.append_nil]
  refine ⟨?_, ?_, ?_, ?_, fun ino fh => ?_⟩
  · rw [same]
    exact kept.counted
  · rw [same]
    exact kept.numbered
  · intro ino node found
    rw [unopened node (FuseServer.get_mem found)]
    exact List.Pairwise.nil
  · intro ino node found fh member
    rw [unopened node (FuseServer.get_mem found)] at member
    cases member
  · rw [heldBy_concat]
    constructor
    · rintro (opens | ⟨held, goesOn⟩)
      · exact absurd opens (not_opens noHandle ino fh)
      · rcases unheld with loads | empty
        · exact absurd (.inl loads) goesOn
        · obtain ⟨node, found, _⟩ := (kept.holds ino fh).mp held
          have member := FuseServer.get_mem found
          rw [empty] at member
          cases member
    · rintro ⟨node, found, member⟩
      rw [unopened node (FuseServer.get_mem found)] at member
      cases member

theorem opens_opened_iff
    {ino other given fh : Nat}
    (isOpen : call = .openFile ino ∨ call = .opendir ino) :
    Opens other fh (call, .opened given) ↔ other = ino ∧ fh = given := by
  unfold Opens
  dsimp only
  rcases isOpen with rfl | rfl
  · simp [eq_comm]
  · simp [eq_comm]

theorem releases_done_iff
    {ino other given fh : Nat}
    (isRelease : call = .release ino given ∨ call = .releasedir ino given) :
    Releases other fh (call, .done) ↔ other = ino ∧ fh = given := by
  unfold Releases
  dsimp only
  rcases isRelease with rfl | rfl
  · simp [eq_comm]
  · simp [eq_comm]

/-- A new handle is greater than all that were given out. -/
theorem Kept.opened
    {served : Served}
    (kept : Kept served)
    {ino : Nat}
    {node : FuseNode}
    (isOpen : call = .openFile ino ∨ call = .opendir ino)
    (found : served.server.get ino = some node)
    (few : (handlesOf served.log).length < 2 ^ 64) :
    Kept ⟨served.log ++ [(call, .opened served.server.fileHandleCounter.toNat)],
      { served.server with
        fileHandleCounter := served.server.fileHandleCounter + 1 }.withHandlers ino
          fun handlers =>
            FileHandles.addHandler handlers served.server.fileHandleCounter.toNat⟩ := by
  have number : served.server.fileHandleCounter.toNat = (handlesOf served.log).length := by
    rw [kept.counted, UInt64.toNat_ofNat_of_lt' few]
  have counter : served.server.fileHandleCounter + 1 =
      UInt64.ofNat ((handlesOf served.log).length + 1) := by
    rw [kept.counted, UInt64.ofNat_add]
    rfl
  have more : handlesOf (served.log ++
        [(call, .opened served.server.fileHandleCounter.toNat)]) =
      handlesOf served.log ++ [(handlesOf served.log).length] := by
    rw [handlesOf_concat, number]
    rfl
  have present : ({ served.server with
      fileHandleCounter := served.server.fileHandleCounter + 1 } : HandleServer).get ino =
        some node := found
  have nodes := get_withHandlers present fun handlers =>
    FileHandles.addHandler handlers served.server.fileHandleCounter.toNat
  refine ⟨?_, ?_, ?_, ?_, fun other fh => ?_⟩
  · rw [more, List.length_append, List.length_singleton]
    exact counter
  · rw [more, List.length_append, List.length_singleton, List.range_succ, ← kept.numbered]
  · intro other changed isChanged
    rw [nodes] at isChanged
    split at isChanged
    · cases isChanged
      rw [FileHandles.addHandler, List.pairwise_append, number]
      refine ⟨kept.increasing ino node found, List.pairwise_singleton _ _, ?_⟩
      intro fh member last isLast
      rw [List.mem_singleton.mp isLast]
      exact kept.given ino node found fh member
    · exact kept.increasing other changed isChanged
  · intro other changed isChanged fh member
    rw [more, List.length_append, List.length_singleton]
    rw [nodes] at isChanged
    split at isChanged
    · cases isChanged
      rw [FileHandles.addHandler, number] at member
      rcases List.mem_append.mp member with earlier | isLast
      · exact (kept.given ino node found fh earlier).trans (Nat.lt_succ_self _)
      · rw [List.mem_singleton.mp isLast]
        exact Nat.lt_succ_self _
    · exact (kept.given other changed isChanged fh member).trans (Nat.lt_succ_self _)
  · have goesOn : ¬(Loads (call, .opened served.server.fileHandleCounter.toNat) ∨
        Releases other fh (call, .opened served.server.fileHandleCounter.toNat)) := by
      rintro (⟨⟨⟩⟩ | ⟨_, ⟨⟩⟩)
    rw [heldBy_concat, opens_opened_iff isOpen, kept.holds, nodes]
    by_cases same : other = ino
    · subst same
      simp [found, goesOn, FileHandles.addHandler, or_comm]
    · simp [same, goesOn]

/-- What is left of some handles after one was released. -/
theorem FileHandles.unregister_spec
    {handlers rest : List Nat}
    {fh : Nat}
    (increasing : handlers.Pairwise (· < ·))
    (left : unregister handlers fh = some rest) :
    rest.Pairwise (· < ·) ∧ ∀ other, other ∈ rest ↔ other ∈ handlers ∧ other ≠ fh := by
  obtain ⟨place, isPlace, rfl⟩ := Option.map_eq_some_iff.mp left
  obtain ⟨inside, isThere⟩ := List.getElem?_eq_some_iff.mp
    ((binarySearch_eq_some_iff increasing place).mp isPlace)
  refine ⟨increasing.eraseIdx place, fun other => ?_⟩
  have distinct : handlers.Nodup := increasing.imp fun less => less.ne
  rw [← isThere, List.mem_eraseIdx_iff_getElem, List.mem_iff_getElem]
  constructor
  · rintro ⟨spot, isInside, apart, rfl⟩
    exact ⟨⟨spot, isInside, rfl⟩, fun same => apart (distinct.getElem_inj_iff.mp same)⟩
  · rintro ⟨⟨spot, isInside, rfl⟩, apart⟩
    exact ⟨spot, isInside, fun same => apart (by simp only [same]), rfl⟩

/-- A released handle is gone from its node. -/
theorem Kept.released
    {served : Served}
    (kept : Kept served)
    {ino fh : Nat}
    {node : FuseNode}
    {handlers : List Nat}
    (isRelease : call = .release ino fh ∨ call = .releasedir ino fh)
    (found : served.server.get ino = some node)
    (left : FileHandles.unregister node.fileHandlers fh = some handlers) :
    Kept ⟨served.log ++ [(call, .done)], served.server.withHandlers ino fun _ => handlers⟩ := by
  obtain ⟨increasing, isLeft⟩ :=
    FileHandles.unregister_spec (kept.increasing ino node found) left
  have same : handlesOf (served.log ++ [(call, .done)]) = handlesOf served.log := by
    rw [handlesOf_concat]
    exact List.append_nil _
  have nodes := get_withHandlers found fun _ => handlers
  refine ⟨?_, ?_, ?_, ?_, fun other given => ?_⟩
  · rw [same]
    exact kept.counted
  · rw [same]
    exact kept.numbered
  · intro other changed isChanged
    rw [nodes] at isChanged
    split at isChanged
    · cases isChanged
      exact increasing
    · exact kept.increasing other changed isChanged
  · intro other changed isChanged given member
    rw [same]
    rw [nodes] at isChanged
    split at isChanged
    · cases isChanged
      exact kept.given ino node found given ((isLeft given).mp member).1
    · exact kept.given other changed isChanged given member
  · have noOpen : ¬Opens other given (call, .done) := not_opens rfl other given
    have noList : ¬Loads (call, .done) := by rintro ⟨⟩
    rw [heldBy_concat, releases_done_iff isRelease, kept.holds, nodes]
    by_cases here : other = ino
    · subst here
      simp [found, noOpen, noList, isLeft]
    · simp [here, noOpen, noList]

/-! ## Every run -/

theorem Kept.step
    {served : Served}
    (kept : Kept served)
    (call : FuseCall)
    (few : (handlesOf (served.step call).log).length ≤ 2 ^ 64) :
    Kept (served.step call) := by
  have turn := turn_answer served.server call
  unfold Served.step at few ⊢
  generalize (served.server.answer call).1 = reply at turn few ⊢
  generalize (served.server.answer call).2 = next at turn few ⊢
  cases turn with
  | quiet _ _ noHandle noList noRelease => exact kept.quiet noHandle noList noRelease
  | mounted now empty =>
      refine kept.renewed rfl (.inr empty) fun node member => ?_
      rw [List.mem_singleton.mp member]
      rfl
  | opened _ ino node isOpen found =>
      refine kept.opened isOpen found ?_
      rw [handlesOf_concat, List.length_append] at few
      exact few
  | released _ ino fh node handlers isRelease found left =>
      exact kept.released isRelease found left
  | loaded now files tree built =>
      exact kept.renewed rfl (.inl rfl) (fileHandlers_of_buildTree built)

theorem served_concat (calls : List FuseCall) (call : FuseCall) :
    served (calls ++ [call]) = (served calls).step call :=
  run_concat Served.step _ calls call

theorem length_handlesOf_le (served : Served) (call : FuseCall) :
    (handlesOf served.log).length ≤ (handlesOf (served.step call).log).length := by
  rw [Served.step, handlesOf_concat, List.length_append]
  exact Nat.le_add_right _ _

/-- The invariant holds until the counter comes around. -/
theorem kept_served
    (calls : List FuseCall)
    (few : (handlesOf (served calls).log).length ≤ 2 ^ 64) :
    Kept (served calls) := by
  induction calls using List.reverseRecOn with
  | nil => exact .new
  | append_singleton calls call inductionHypothesis =>
      rw [served_concat] at few ⊢
      exact (inductionHypothesis ((length_handlesOf_le _ call).trans few)).step call few

theorem Kept.haveHandler_iff
    {served : Served}
    (kept : Kept served)
    {ino : Nat}
    {node : FuseNode}
    (found : served.server.get ino = some node)
    (fh : Nat) :
    FileHandles.haveHandler node.fileHandlers fh = true ↔ HeldBy served.log ino fh := by
  rw [FileHandles.haveHandler, isSome_binarySearch_iff (kept.increasing ino node found),
    kept.holds]
  simp [found]

/-- What is read is a node under a handle that it has. -/
theorem read_eq_ok
    {ino fh : Nat}
    {node : FuseNode}
    (isRead : server.read ino fh = .ok node) :
    server.get ino = some node ∧ FileHandles.haveHandler node.fileHandlers fh = true := by
  unfold HandleServer.read at isRead
  split at isRead
  · cases isRead
  · next entry found =>
      split at isRead
      · cases isRead
      · next has =>
          split at isRead
          · cases isRead
          · cases isRead
            exact ⟨found, Bool.eq_true_of_not_eq_false has⟩

/-- A handle that is held was given out. -/
theorem HeldBy.mem_handlesOf
    {log : List (FuseCall × FuseReply)}
    {ino fh : Nat}
    (held : HeldBy log ino fh) :
    fh ∈ handlesOf log := by
  obtain ⟨entry, member, _, isReply⟩ := held.exists_mem
  refine List.mem_filterMap.mpr ⟨entry, member, ?_⟩
  rw [isReply]
  rfl

/-- No handle is given out twice, so none from before a list is held after it. -/
theorem Kept.apart
    {served : Served}
    (kept : Kept served)
    {before after : List (FuseCall × FuseReply)}
    {entry : FuseCall × FuseReply}
    (split : served.log = before ++ entry :: after)
    (loads : Loads entry)
    {fh : Nat}
    (given : fh ∈ handlesOf before)
    (ino : Nat) :
    ¬HeldBy served.log ino fh := by
  intro held
  have noOpen : ¬Opens ino fh entry := by
    rintro ⟨_, isReply⟩
    cases loads.symm.trans isReply
  rw [split] at held
  have behind : HeldBy after ino fh := (since_append_cons before after (.inl loads) noOpen).mp held
  have distinct : (handlesOf served.log).Nodup := by
    rw [kept.numbered]
    exact List.nodup_range
  rw [split, handlesOf, List.filterMap_append] at distinct
  refine List.disjoint_of_nodup_append distinct given ?_
  exact ((List.sublist_cons_self entry after).filterMap _).subset
    behind.mem_handlesOf

/-- While at most as many handles were given out as the counter has values, the handles of each
node are increasing, a node has those that it was opened under and that were not released, and
none of them reads from a later list. -/
theorem served_namesFiles
    (calls : List FuseCall)
    (few : (handlesOf (served calls).log).length ≤ 2 ^ 64) :
    NamesFiles (served calls) := by
  have kept := kept_served calls few
  refine ⟨?_, fun ino node found => kept.haveHandler_iff found, ?_⟩
  · intro node member
    obtain ⟨ino, found⟩ := (mem_files_iff node).mp member
    exact kept.increasing ino node found
  · intro before entry after split loads fh given ino node isRead
    obtain ⟨found, has⟩ := read_eq_ok isRead
    exact kept.apart split loads given ino ((kept.haveHandler_iff found fh).mp has)

/-- The handles of two calls for the root. -/
theorem served_namesFiles_twice : NamesFiles (served [.init 0, .opendir 1, .opendir 1]) :=
  served_namesFiles [.init 0, .opendir 1, .opendir 1] (by decide)

/-! ## When the counter comes around -/

/-- The root is opened and released as often as that. -/
def reopened (count : Nat) : List FuseCall :=
  .init 0 :: (List.range count).flatMap fun fh => [.opendir 1, .releasedir 1 fh]

/-- A server with only a root. -/
def rooted (counter : UInt64) (handlers : List Nat) : HandleServer :=
  ⟨⟨0, [{ FuseNode.newRoot 0 with fileHandlers := handlers }]⟩, counter⟩

theorem opendir_rooted (counter : UInt64) (handlers : List Nat) :
    (rooted counter handlers).opendir 1 =
      (.ok counter.toNat, rooted (counter + 1) (handlers ++ [counter.toNat])) := rfl

theorem releasedir_rooted (counter : UInt64) (fh : Nat) :
    (rooted counter [fh]).releasedir 1 fh = (.ok (), rooted counter []) := by
  have isThere : binarySearch [fh] fh = some 0 :=
    (binarySearch_eq_some_iff (List.pairwise_singleton _ fh) 0).mpr rfl
  have found : (rooted counter [fh]).get 1 =
      some { FuseNode.newRoot 0 with fileHandlers := [fh] } := rfl
  rw [HandleServer.releasedir, found]
  simp [FileHandles.haveHandler, FileHandles.unregister, isThere, FuseNode.newRoot, rooted,
    HandleServer.withHandlers]

theorem served_reopened {count : Nat} (few : count < 2 ^ 64) :
    (served (reopened count)).server = rooted (UInt64.ofNat count) [] := by
  induction count with
  | zero => rfl
  | succ count inductionHypothesis =>
      have number : (UInt64.ofNat count).toNat = count :=
        UInt64.toNat_ofNat_of_lt' (by omega : count < 2 ^ 64)
      have calls : reopened (count + 1) =
          (reopened count ++ [.opendir 1]) ++ [.releasedir 1 count] := by
        simp [reopened, List.range_succ]
      rw [calls, served_concat, served_concat]
      simp only [Served.step, HandleServer.answer, inductionHypothesis (by omega : count < 2 ^ 64),
        opendir_rooted, number, Prod.map_snd, id_eq, List.nil_append, releasedir_rooted,
        UInt64.ofNat_add]
      rfl

/-- After the counter has come around, a node that was open gets a smaller handle than it has. -/
theorem handles_come_around :
    ¬NamesFiles (served (reopened (2 ^ 64 - 1) ++ [.opendir 1] ++ [.opendir 1])) := by
  intro names
  have state : (served (reopened (2 ^ 64 - 1) ++ [.opendir 1] ++ [.opendir 1])).server =
      rooted (UInt64.ofNat (2 ^ 64 - 1) + 1 + 1)
        [(UInt64.ofNat (2 ^ 64 - 1)).toNat, (UInt64.ofNat (2 ^ 64 - 1) + 1).toNat] := by
    rw [served_concat, served_concat]
    simp only [Served.step, HandleServer.answer, served_reopened (by omega : 2 ^ 64 - 1 < 2 ^ 64),
      opendir_rooted, Prod.map_snd, id_eq, List.nil_append, List.singleton_append]
  have increasing := names.increasing
  rw [state] at increasing
  have less := increasing _ List.mem_cons_self
  exact absurd less (by decide)

end Fuse
end Clipboard
end OneDesk
