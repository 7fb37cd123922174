import OneDesk.Lib.Disk
import OneDesk.Lib.Run

/-!
# Downloads

`src/hbbs_http/downloader.rs` keeps the downloads in a table under their urls, one thread for
each.  A thread takes the lock of the table for a moment at a time and looks its entry up again
every time.  The module follows the entry of one url, with all threads that were ever started
for it.
-/

namespace OneDesk
namespace Http

open Lib

abbrev Bytes := List UInt8

/-- Why a download failed. -/
inductive DownloadError
  | bail (text : String)
  /-- An error of the HTTP client. -/
  | request (error : String)
  | io (operation : Operation String)
  deriving DecidableEq

/-- `Downloader` -/
structure Downloader where
  data : Bytes := []
  path : Option String
  totalSize : Option Nat := none
  downloadedSize : Nat := 0
  error : Option DownloadError := none
  finished : Bool := false
  /-- The thread that holds the receiver of `tx_cancel`. -/
  txCancel : Nat
  deriving DecidableEq

/-- What `get_download_data` returns of an entry. -/
structure DownloadData where
  data : Bytes
  path : Option String
  totalSize : Option Nat
  downloadedSize : Nat
  error : Option DownloadError
  deriving DecidableEq

/-- How far a call of `download_file` has come. -/
inductive CallStage
  /-- The url was not in the table. -/
  | checked
  /-- The path is free, and its folder is there. -/
  | prepared
  | returned (result : Except DownloadError Unit)
  deriving DecidableEq

/-- A call of `download_file`. -/
structure Call where
  path : Option String
  stage : CallStage
  deriving DecidableEq

/-- Where a thread stands in `do_download`, and behind it. -/
inductive Phase
  | head
  | get
  | loop
  /-- Before the lock that sets `finished`. -/
  | leaving (isAllDownloaded : Bool)
  /-- `do_download` has returned, and the sizes are looked up for the log. -/
  | returned (isAllDownloaded : Bool)
  /-- Before the lock that removes a cancelled download. -/
  | removing
  /-- Before the lock that stores the error. -/
  | failed (error : DownloadError)
  | ended
  deriving DecidableEq

/-- The thread of a download. -/
structure Thread where
  path : Option String
  phase : Phase := .head
  /-- Its channel brings a message or is closed. -/
  cancelled : Bool := false
  /-- The content length of the HEAD response. -/
  contentLength : Option Nat := none
  /-- The body of the GET response. -/
  body : Bytes := []
  /-- How much of the body has come. -/
  received : Nat := 0
  dest : Option Handle := none
  deriving DecidableEq

/-- The answer to a HEAD request. -/
inductive HeadResponse
  | success (contentLength : Option Nat)
  | refused (status : String)
  | failed (error : String)
  deriving DecidableEq

/-- The content length, or the error that ends the download. -/
def HeadResponse.totalSize : HeadResponse → Except DownloadError Nat
  | .success (some contentLength) => .ok contentLength
  | .success none => .error (.bail "Failed to get content length")
  | .refused status => .error (.bail ("Failed to get content length: " ++ status))
  | .failed error => .error (.request error)

/-- What a thread does next. -/
inductive Action
  /-- `select!` takes the branch of `rx_cancel`. -/
  | cancelled
  | head (response : HeadResponse)
  | response (result : Except String Bytes)
  | chunk (size : Nat)
  | eof
  | broken (error : String)
  /-- It takes the lock that it stands before. -/
  | advance
  deriving DecidableEq

/-- One step of a caller or of a thread. -/
inductive Event
  /-- `download_file` looks the url up. -/
  | check (path : Option String)
  | prepare (call : Nat)
  | insert (call : Nat)
  | cancel
  | remove
  | thread (index : Nat) (action : Action)
  deriving DecidableEq

/-- The entry of one url in `DOWNLOADERS`, and who works on it. -/
structure Downloads (Location : Type) where
  entry : Option Downloader := none
  calls : List Call := []
  threads : List Thread := []
  volume : Volume String Location

/-- `get_download_data` -/
def getDownloadData {Location : Type} (state : Downloads Location) :
    Except DownloadError DownloadData :=
  match state.entry with
  | none => .error (.bail "Downloader not found")
  | some downloader =>
      .ok
        { data :=
            if downloader.totalSize.getD 0 = downloader.downloadedSize ∧ downloader.path = none then
              downloader.data
            else []
          path := downloader.path
          totalSize := downloader.totalSize
          downloadedSize := downloader.downloadedSize
          error := downloader.error }

/-- A channel brings a message, or its sender is dropped. -/
def fire (index : Nat) (threads : List Thread) : List Thread :=
  threads.modify index fun thread => { thread with cancelled := true }

namespace Downloads

variable {Location : Type}

/-- Take the entry out; its sender goes with it. -/
def removeEntry (state : Downloads Location) : Downloads Location :=
  match state.entry with
  | none => state
  | some downloader =>
      { state with entry := none, threads := fire downloader.txCancel state.threads }

/-- Change the entry that is found under the url. -/
def modifyEntry (change : Downloader → Downloader) (state : Downloads Location) :
    Downloads Location :=
  { state with entry := state.entry.map change }

def setThread (index : Nat) (thread : Thread) (state : Downloads Location) :
    Downloads Location :=
  { state with threads := state.threads.set index thread }

def setStage (call : Nat) (stage : CallStage) (state : Downloads Location) :
    Downloads Location :=
  { state with calls := state.calls.modify call fun found => { found with stage := stage } }

/-- Insert a new entry, dropping one that is there, and start its thread. -/
def insert (call : Nat) (path : Option String) (state : Downloads Location) :
    Downloads Location :=
  let dropped := (state.setStage call (.returned (.ok ()))).removeEntry
  { dropped with
    entry := some { path := path, txCancel := state.threads.length }
    threads := dropped.threads ++ [{ path := path }] }

variable [DecidableEq Location] (host : Host String Location)

/-- Between the two locks of `download_file`. -/
def prepare (call : Nat) (path : Option String) (state : Downloads Location) :
    Downloads Location :=
  match path with
  | none => state.setStage call .prepared
  | some path =>
      let found := perform host state.volume (.stat path)
      if found.1 then
        { state.setStage call (.returned (.error (.bail ("File " ++ path ++ " already exists")))) with
          volume := found.2 }
      else
        let made := perform host found.2 (.makeParent path)
        { state.setStage call (if made.1 then .prepared
            else .returned (.error (.io (.makeParent path)))) with
          volume := made.2 }

/-- The response has come: create the file it goes to. -/
def openDest (index : Nat) (thread : Thread) (body : Bytes) (state : Downloads Location) :
    Downloads Location :=
  match thread.path with
  | none => state.setThread index { thread with phase := .loop, body := body }
  | some path =>
      let created := perform host state.volume (.create path)
      { state.setThread index
          (if created.1 then
            { thread with
              phase := .loop
              body := body
              dest := openedAt host created.2 path true }
          else { thread with phase := .failed (.io (.create path)) }) with
        volume := created.2 }

/-- A chunk of the body is written, or kept in the entry. -/
def chunk (index : Nat) (thread : Thread) (size : Nat) (state : Downloads Location) :
    Downloads Location :=
  let chunk := (thread.body.drop thread.received).take size
  match thread.dest with
  | some dest =>
      let written := perform host state.volume (.write dest chunk)
      if written.1 then
        { (state.setThread index
            { thread with
              received := thread.received + chunk.length
              dest := some { dest with position := dest.position + chunk.length } }).modifyEntry
            fun downloader =>
              { downloader with downloadedSize := downloader.downloadedSize + chunk.length } with
          volume := written.2 }
      else
        { state.setThread index { thread with phase := .failed (.io (.write dest chunk)) } with
          volume := written.2 }
  | none =>
      (state.setThread index { thread with received := thread.received + chunk.length }).modifyEntry
        fun downloader =>
          { downloader with
            data := downloader.data ++ chunk
            downloadedSize := downloader.downloadedSize + chunk.length }

/-- A cancelled thread removes the entry that it finds, and the file of this entry. -/
def clear (state : Downloads Location) : Downloads Location :=
  match state.entry.bind Downloader.path with
  | none => state.removeEntry
  | some path =>
      let found := perform host state.volume (.stat path)
      { state.removeEntry with
        volume := if found.1 then (perform host found.2 (.remove path)).2 else found.2 }

/-- One step of a thread.  The task that would remove the entry after `auto_del_dur` is spawned on
the runtime of `do_download`, which is dropped as `do_download` returns, and the task with it. -/
def threadStep (index : Nat) (thread : Thread) (state : Downloads Location) :
    Action → Downloads Location
  | .cancelled =>
      if thread.cancelled then
        match thread.phase with
        | .head | .get => state.setThread index { thread with phase := .returned false }
        | .loop => state.setThread index { thread with phase := .leaving false }
        | _ => state
      else state
  | .head response =>
      if thread.phase = .head then
        match response.totalSize with
        | .error error => state.setThread index { thread with phase := .failed error }
        | .ok totalSize =>
            (state.setThread index
              { thread with phase := .get, contentLength := some totalSize }).modifyEntry
              fun downloader => { downloader with totalSize := some totalSize }
      else state
  | .response result =>
      if thread.phase = .get then
        match result with
        | .error error => state.setThread index { thread with phase := .failed (.request error) }
        | .ok body => state.openDest host index thread body
      else state
  | .chunk size => if thread.phase = .loop then state.chunk host index thread size else state
  | .eof =>
      if thread.phase = .loop ∧ thread.body.length ≤ thread.received then
        state.setThread index { thread with phase := .leaving true }
      else state
  | .broken error =>
      if thread.phase = .loop then
        state.setThread index { thread with phase := .failed (.request error) }
      else state
  | .advance =>
      match thread.phase with
      | .leaving isAllDownloaded =>
          (state.setThread index { thread with phase := .returned isAllDownloaded }).modifyEntry
            fun downloader => { downloader with finished := true }
      | .returned isAllDownloaded =>
          state.setThread index
            { thread with phase := if isAllDownloaded then .ended else .removing }
      | .removing => (state.setThread index { thread with phase := .ended }).clear host
      | .failed error =>
          (state.setThread index { thread with phase := .ended }).modifyEntry
            fun downloader => { downloader with error := some error }
      | _ => state

/-- One step of a caller or of a thread. -/
def step (state : Downloads Location) : Event → Downloads Location
  | .check path =>
      { state with
        calls := state.calls ++
          [⟨path, if state.entry.isSome then .returned (.ok ()) else .checked⟩] }
  | .prepare call =>
      match state.calls[call]? with
      | some ⟨path, .checked⟩ => state.prepare host call path
      | _ => state
  | .insert call =>
      match state.calls[call]? with
      | some ⟨path, .prepared⟩ => state.insert call path
      | _ => state
  | .cancel =>
      match state.entry with
      | none => state
      | some downloader => { state with threads := fire downloader.txCancel state.threads }
  | .remove => state.removeEntry
  | .thread index action =>
      match state.threads[index]? with
      | none => state
      | some thread => state.threadStep host index thread action

end Downloads

/-! ## One download at a time -/

section Single

variable {Location : Type}

/-- What `get_download_data` shows belongs to the download of the entry. -/
structure OneDownload (state : Downloads Location) : Prop where
  /-- Data that is returned is the whole body of one response. -/
  whole : ∀ found, getDownloadData state = .ok found → found.data ≠ [] →
    ∃ thread ∈ state.threads, found.data = thread.body
  /-- The entry counts what its own thread has received. -/
  counted : ∀ downloader, state.entry = some downloader →
    ∃ thread, state.threads[downloader.txCancel]? = some thread ∧
      downloader.downloadedSize = thread.received

/-- An entry is inserted only when all threads of the url have ended, and no body that is kept in
an entry is longer than the content length that was announced for it. -/
def Apart (state : Downloads Location) : Event → Prop
  | .insert call =>
      state.calls[call]?.map Call.stage = some .prepared →
        ∀ thread ∈ state.threads, thread.phase = .ended
  | .thread index (.response (.ok body)) =>
      ∀ thread ∈ state.threads[index]?, thread.path = none →
        ∀ contentLength ∈ thread.contentLength, body.length ≤ contentLength
  | _ => True

/-- What a thread has read fits to what was announced. -/
structure Fits (thread : Thread) : Prop where
  unread : thread.phase = .head ∨ thread.phase = .get →
    thread.body = [] ∧ thread.received = 0
  announced : thread.path = none →
    ∀ contentLength ∈ thread.contentLength, thread.body.length ≤ contentLength
  dest : thread.path = none → thread.dest = none

/-- An entry shows the state of its thread. -/
structure Shows (downloader : Downloader) (thread : Thread) : Prop where
  path : downloader.path = thread.path
  totalSize : downloader.totalSize = thread.contentLength
  downloadedSize : downloader.downloadedSize = thread.received
  data : downloader.path = none → downloader.data = thread.body.take thread.received

/-- All threads but the last have ended, and an entry belongs to the last. -/
structure Single (state : Downloads Location) : Prop where
  ended : ∀ index thread, state.threads[index]? = some thread →
    index + 1 < state.threads.length → thread.phase = .ended
  fits : ∀ thread ∈ state.threads, Fits thread
  shows : ∀ downloader, state.entry = some downloader →
    ∃ thread, state.threads[downloader.txCancel]? = some thread ∧
      downloader.txCancel + 1 = state.threads.length ∧ Shows downloader thread

variable {state : Downloads Location}

theorem Single.oneDownload (single : Single state) : OneDownload state := by
  constructor
  · intro found isFound nonempty
    cases isEntry : state.entry with
    | none => simp [getDownloadData, isEntry] at isFound
    | some downloader =>
        obtain ⟨thread, isThread, _, shows⟩ := single.shows downloader isEntry
        have member := List.mem_of_getElem? isThread
        refine ⟨thread, member, ?_⟩
        simp only [getDownloadData, isEntry, Except.ok.injEq] at isFound
        subst isFound
        by_cases complete : downloader.totalSize.getD 0 = downloader.downloadedSize ∧
            downloader.path = none
        · simp only [if_pos complete, shows.data complete.2] at nonempty ⊢
          rw [shows.totalSize, shows.downloadedSize] at complete
          refine List.take_of_length_le ?_
          cases announced : thread.contentLength with
          | none =>
              rw [announced, Option.getD_none] at complete
              simp [← complete.1] at nonempty
          | some contentLength =>
              rw [announced, Option.getD_some] at complete
              rw [← complete.1]
              exact (single.fits thread member).announced (shows.path ▸ complete.2) _ announced
        · simp [if_neg complete] at nonempty
  · intro downloader isEntry
    obtain ⟨thread, isThread, _, shows⟩ := single.shows downloader isEntry
    exact ⟨thread, isThread, shows.downloadedSize⟩

/-- What holds depends on the entry and the threads only. -/
theorem Single.congr
    {after : Downloads Location}
    (single : Single state)
    (sameEntry : after.entry = state.entry)
    (sameThreads : after.threads = state.threads) :
    Single after := by
  refine ⟨?_, ?_, ?_⟩
  · rw [sameThreads]
    exact single.ended
  · rw [sameThreads]
    exact single.fits
  · rw [sameEntry, sameThreads]
    exact single.shows

/-- The last thread takes a step, and the entry follows it. -/
theorem Single.advance
    {after : Downloads Location}
    {index : Nat}
    {thread next : Thread}
    (single : Single state)
    (isThread : state.threads[index]? = some thread)
    (running : thread.phase ≠ .ended)
    (threads : after.threads = state.threads.set index next)
    (fits : Fits thread → Fits next)
    (entry : ∀ downloader, after.entry = some downloader →
      ∃ before, state.entry = some before ∧ downloader.txCancel = before.txCancel ∧
        (Shows before thread → Shows downloader next)) :
    Single after := by
  have inside := (List.getElem?_eq_some_iff.mp isThread).1
  have isLast : index + 1 = state.threads.length := by
    by_contra early
    exact running (single.ended index thread isThread (by omega))
  refine ⟨?_, ?_, ?_⟩
  · intro other found isFound early
    rw [threads, List.length_set] at early
    rw [threads, List.getElem?_set_ne (by omega)] at isFound
    exact single.ended other found isFound early
  · intro found member
    rw [threads] at member
    rcases List.mem_or_eq_of_mem_set member with old | rfl
    · exact single.fits found old
    · exact fits (single.fits thread (List.mem_of_getElem? isThread))
  · intro downloader isEntry
    obtain ⟨before, wasEntry, sameOwner, follows⟩ := entry downloader isEntry
    obtain ⟨owner, isOwner, ownerLast, shows⟩ := single.shows before wasEntry
    obtain rfl : before.txCancel = index := by omega
    obtain rfl := Option.some.inj (isThread.symm.trans isOwner)
    refine ⟨next, ?_, ?_, follows shows⟩
    · rw [threads, sameOwner, List.getElem?_set_self inside]
    · rw [threads, List.length_set, sameOwner]
      exact ownerLast

/-- The last thread takes a step of its own. -/
theorem Single.advanceThread
    {after : Downloads Location}
    {index : Nat}
    {thread next : Thread}
    (single : Single state)
    (isThread : state.threads[index]? = some thread)
    (running : thread.phase ≠ .ended)
    (threads : after.threads = state.threads.set index next)
    (fits : Fits thread → Fits next)
    (entry : after.entry = state.entry)
    (follows : ∀ downloader, Shows downloader thread → Shows downloader next) :
    Single after := by
  refine single.advance isThread running threads fits ?_
  intro downloader isEntry
  exact ⟨downloader, entry.symm.trans isEntry, rfl, follows downloader⟩

/-- An entry shows nothing yet of a body that nothing was read of. -/
theorem Shows.unread
    {downloader : Downloader}
    {thread next : Thread}
    (shows : Shows downloader thread)
    (unread : thread.received = 0)
    (path : next.path = thread.path)
    (contentLength : next.contentLength = thread.contentLength)
    (received : next.received = thread.received) :
    Shows downloader next := by
  refine ⟨shows.path.trans path.symm, shows.totalSize.trans contentLength.symm,
    shows.downloadedSize.trans received.symm, fun here => ?_⟩
  rw [shows.data here, received, unread, List.take_zero, List.take_zero]

/-- A message on a channel changes nothing else. -/
theorem fire_getElem?
    {threads : List Thread}
    {index other : Nat}
    {found : Thread}
    (isFound : (fire index threads)[other]? = some found) :
    ∃ thread, threads[other]? = some thread ∧
      found = { thread with cancelled := found.cancelled } := by
  rw [fire, List.getElem?_modify] at isFound
  obtain ⟨thread, isThread, rfl⟩ := Option.map_eq_some_iff.mp isFound
  refine ⟨thread, isThread, ?_⟩
  split <;> rfl

@[simp] theorem length_fire (index : Nat) (threads : List Thread) :
    (fire index threads).length = threads.length :=
  List.length_modify ..

theorem Single.fire (single : Single state) (index : Nat) :
    Single { state with threads := fire index state.threads } := by
  refine ⟨?_, ?_, ?_⟩
  · intro other found isFound early
    obtain ⟨thread, isThread, same⟩ := fire_getElem? isFound
    rw [same]
    exact single.ended other thread isThread (by simpa using early)
  · intro found member
    obtain ⟨other, isFound⟩ := List.mem_iff_getElem?.mp member
    obtain ⟨thread, isThread, same⟩ := fire_getElem? isFound
    obtain ⟨unread, announced, dest⟩ := single.fits thread (List.mem_of_getElem? isThread)
    rw [same]
    exact ⟨unread, announced, dest⟩
  · intro downloader isEntry
    obtain ⟨thread, isThread, isLast, path, totalSize, downloadedSize, data⟩ :=
      single.shows downloader isEntry
    have inside : downloader.txCancel < (Http.fire index state.threads).length := by
      rw [length_fire]
      omega
    have isFound := List.getElem?_eq_getElem inside
    obtain ⟨other, isOther, same⟩ := fire_getElem? isFound
    obtain rfl := Option.some.inj (isThread.symm.trans isOther)
    refine ⟨_, isFound, by simpa using isLast, ?_⟩
    rw [same]
    exact ⟨path, totalSize, downloadedSize, data⟩

theorem Single.removeEntry (single : Single state) : Single state.removeEntry := by
  unfold Downloads.removeEntry
  split
  · exact single
  · next downloader _ =>
      have fired := single.fire downloader.txCancel
      exact ⟨fired.ended, fired.fits, by intros; contradiction⟩

/-- Nobody goes on because an entry is taken out. -/
theorem removeEntry_ended
    (ended : ∀ thread ∈ state.threads, thread.phase = .ended) :
    state.removeEntry.threads.length = state.threads.length ∧
      ∀ thread ∈ state.removeEntry.threads, thread.phase = .ended := by
  unfold Downloads.removeEntry
  split
  · exact ⟨rfl, ended⟩
  · refine ⟨length_fire .., ?_⟩
    intro found member
    obtain ⟨index, isFound⟩ := List.mem_iff_getElem?.mp member
    obtain ⟨thread, isThread, same⟩ := fire_getElem? isFound
    rw [same]
    exact ended thread (List.mem_of_getElem? isThread)

/-- A new entry belongs to the thread that is started for it. -/
theorem Single.insert
    (single : Single state)
    (ended : ∀ thread ∈ state.threads, thread.phase = .ended)
    (call : Nat)
    (path : Option String) :
    Single (state.insert call path) := by
  let staged := state.setStage call (.returned (.ok ()))
  have removed : Single staged.removeEntry := Single.removeEntry (single.congr rfl rfl)
  obtain ⟨sameLength, allEnded⟩ := @removeEntry_ended _ staged ended
  refine ⟨?_, ?_, ?_⟩
  · intro index thread isThread early
    have before : index < staged.removeEntry.threads.length := by
      simpa [Downloads.insert] using early
    have isOld : staged.removeEntry.threads[index]? = some thread := by
      rw [← isThread]
      exact (List.getElem?_append_left before).symm
    exact allEnded thread (List.mem_of_getElem? isOld)
  · intro thread member
    rcases List.mem_append.mp member with old | new
    · exact removed.fits thread old
    · obtain rfl := List.mem_singleton.mp new
      exact ⟨fun _ => ⟨rfl, rfl⟩, by simp, fun _ => rfl⟩
  · intro downloader isEntry
    obtain rfl := Option.some.inj isEntry
    refine ⟨{ path := path }, ?_, ?_, ⟨rfl, rfl, rfl, fun _ => rfl⟩⟩
    · show (staged.removeEntry.threads ++ [{ path := path }])[state.threads.length]? = _
      rw [← show staged.removeEntry.threads.length = state.threads.length from sameLength]
      exact List.getElem?_concat_length
    · show state.threads.length + 1 = (staged.removeEntry.threads ++ [_]).length
      rw [List.length_append, sameLength]
      rfl

/-- The last thread goes on, past the start of its response. -/
theorem Single.setPhase
    {index : Nat}
    {thread : Thread}
    (single : Single state)
    (isThread : state.threads[index]? = some thread)
    (running : thread.phase ≠ .ended)
    {phase : Phase}
    (notHead : phase ≠ .head)
    (notGet : phase ≠ .get) :
    Single (state.setThread index { thread with phase := phase }) := by
  refine single.advanceThread isThread running rfl ?_ rfl ?_
  · rintro ⟨_, announced, dest⟩
    exact ⟨by simp [notHead, notGet], announced, dest⟩
  · rintro downloader ⟨path, totalSize, downloadedSize, data⟩
    exact ⟨path, totalSize, downloadedSize, data⟩

/-- The end of a download leaves what was received alone. -/
theorem Single.modifyEntry
    (single : Single state)
    {change : Downloader → Downloader}
    (keeps : ∀ downloader, change downloader =
      { downloader with
        error := (change downloader).error
        finished := (change downloader).finished }) :
    Single (state.modifyEntry change) := by
  refine ⟨single.ended, single.fits, ?_⟩
  intro downloader isEntry
  obtain ⟨before, wasEntry, rfl⟩ := Option.map_eq_some_iff.mp isEntry
  obtain ⟨thread, isThread, isLast, path, totalSize, downloadedSize, data⟩ :=
    single.shows before wasEntry
  rw [keeps before]
  exact ⟨thread, isThread, isLast, path, totalSize, downloadedSize, data⟩

end Single

section Runs

variable {Location : Type} [DecidableEq Location]

/-- The file that a path names. -/
def fileAt (host : Host String Location) (state : Downloads Location) (path : String) :
    Option File :=
  (host.locate path).bind state.volume.disk.file

/-- A step of a thread leaves an entry that another thread works on alone, and its file. -/
def SparesOthers
    (host : Host String Location)
    (state : Downloads Location)
    (event : Event) : Prop :=
  ∀ index action downloader, event = .thread index action → state.entry = some downloader →
    downloader.txCancel ≠ index →
      (state.step host event).entry = some downloader ∧
        ∀ path ∈ downloader.path,
          fileAt host (state.step host event) path = fileAt host state path

variable {host : Host String Location} {state : Downloads Location}

/-- A thread that has ended does nothing more. -/
theorem threadStep_ended
    {thread : Thread}
    (ended : thread.phase = .ended)
    (index : Nat)
    (action : Action) :
    state.threadStep host index thread action = state := by
  cases action <;> simp [Downloads.threadStep, ended]

/-- Only the last thread may still run. -/
theorem Single.sparesOthers (single : Single state) (event : Event) :
    SparesOthers host state event := by
  rintro index action downloader rfl isEntry other
  have still : state.step host (.thread index action) = state := by
    cases isThread : state.threads[index]? with
    | none => simp only [Downloads.step, isThread]
    | some thread =>
        obtain ⟨_, _, isLast, _⟩ := single.shows downloader isEntry
        have inside := (List.getElem?_eq_some_iff.mp isThread).1
        simp only [Downloads.step, isThread]
        exact threadStep_ended (single.ended index thread isThread (by omega)) index action
  rw [still]
  exact ⟨isEntry, fun _ _ => rfl⟩

theorem Single.clear (single : Single state) : Single (state.clear host) := by
  have removed := single.removeEntry
  unfold Downloads.clear
  split
  · exact removed
  · exact removed.congr rfl rfl

theorem Single.prepare (single : Single state) (call : Nat) (path : Option String) :
    Single (state.prepare host call path) := by
  unfold Downloads.prepare
  split
  · exact single.congr rfl rfl
  · dsimp only
    split
    · exact single.congr rfl rfl
    · exact single.congr rfl rfl

/-- The body of a response starts with nothing received. -/
theorem Single.openDest
    {index : Nat}
    {thread : Thread}
    {body : Bytes}
    (single : Single state)
    (isThread : state.threads[index]? = some thread)
    (getting : thread.phase = .get)
    (announced : thread.path = none →
      ∀ contentLength ∈ thread.contentLength, body.length ≤ contentLength) :
    Single (state.openDest host index thread body) := by
  have running : thread.phase ≠ .ended := by rw [getting]; simp
  have fits := single.fits thread (List.mem_of_getElem? isThread)
  obtain ⟨isEmpty, isUnread⟩ := fits.unread (.inr getting)
  unfold Downloads.openDest
  split
  · next noPath =>
      exact single.advanceThread isThread running rfl
        (fun _ => ⟨by simp, announced, fun _ => fits.dest noPath⟩) rfl
        fun _ shows => shows.unread isUnread rfl rfl rfl
  · next path isPath =>
      dsimp only
      split
      · exact single.advanceThread isThread running rfl
          (fun _ => ⟨by simp, announced, fun here => by simp [isPath] at here⟩) rfl
          fun _ shows => shows.unread isUnread rfl rfl rfl
      · exact (single.setPhase isThread running (by simp) (by simp)).congr rfl rfl

/-- What has been received is taken over by the entry. -/
theorem Single.chunk
    {index : Nat}
    {thread : Thread}
    (single : Single state)
    (isThread : state.threads[index]? = some thread)
    (looping : thread.phase = .loop)
    (size : Nat) :
    Single (state.chunk host index thread size) := by
  have running : thread.phase ≠ .ended := by rw [looping]; simp
  have fits := single.fits thread (List.mem_of_getElem? isThread)
  unfold Downloads.chunk
  dsimp only
  split
  · next dest streaming =>
      split
      · refine single.advance isThread running rfl
          (fun _ => ⟨by simp [looping], fits.announced,
            fun noPath => by simp [fits.dest noPath] at streaming⟩) ?_
        intro downloader isEntry
        obtain ⟨before, wasEntry, rfl⟩ := Option.map_eq_some_iff.mp isEntry
        refine ⟨before, wasEntry, rfl, ?_⟩
        rintro ⟨path, totalSize, downloadedSize, data⟩
        refine ⟨path, totalSize, by rw [← downloadedSize], fun here => ?_⟩
        simp [fits.dest (path ▸ here)] at streaming
      · exact (single.setPhase isThread running (by simp) (by simp)).congr rfl rfl
  · refine single.advance isThread running rfl
      (fun _ => ⟨by simp [looping], fits.announced, fits.dest⟩) ?_
    intro downloader isEntry
    obtain ⟨before, wasEntry, rfl⟩ := Option.map_eq_some_iff.mp isEntry
    refine ⟨before, wasEntry, rfl, ?_⟩
    rintro ⟨path, totalSize, downloadedSize, data⟩
    refine ⟨path, totalSize, by rw [← downloadedSize], fun here => ?_⟩
    dsimp only
    rw [data here, List.take_add]
    congr 1
    simp

theorem Single.threadStep
    {index : Nat}
    {thread : Thread}
    (single : Single state)
    (isThread : state.threads[index]? = some thread)
    {action : Action}
    (apart : Apart state (.thread index action)) :
    Single (state.threadStep host index thread action) := by
  have goes : ∀ {phase}, thread.phase ≠ .ended → phase ≠ .head → phase ≠ .get →
      Single (state.setThread index { thread with phase := phase }) :=
    fun running notHead notGet => single.setPhase isThread running notHead notGet
  cases action with
  | cancelled =>
      simp only [Downloads.threadStep]
      split
      · split
        · next here => exact goes (by simp [here]) (by simp) (by simp)
        · next here => exact goes (by simp [here]) (by simp) (by simp)
        · next here => exact goes (by simp [here]) (by simp) (by simp)
        · exact single
      · exact single
  | head response =>
      simp only [Downloads.threadStep]
      split
      · next here =>
          have running : thread.phase ≠ .ended := by simp [here]
          split
          · exact goes running (by simp) (by simp)
          · next totalSize _ =>
              refine single.advance isThread running rfl ?_ ?_
              · rintro ⟨unread, _, dest⟩
                refine ⟨fun _ => unread (.inl here), ?_, dest⟩
                simp [(unread (.inl here)).1]
              · intro downloader isEntry
                obtain ⟨before, wasEntry, rfl⟩ := Option.map_eq_some_iff.mp isEntry
                refine ⟨before, wasEntry, rfl, ?_⟩
                rintro ⟨path, _, downloadedSize, data⟩
                exact ⟨path, rfl, downloadedSize, data⟩
      · exact single
  | response result =>
      simp only [Downloads.threadStep]
      split
      · next here =>
          cases result with
          | error error => exact goes (by simp [here]) (by simp) (by simp)
          | ok body => exact single.openDest isThread here (apart thread isThread)
      · exact single
  | chunk size =>
      simp only [Downloads.threadStep]
      split
      · next here => exact single.chunk isThread here size
      · exact single
  | eof =>
      simp only [Downloads.threadStep]
      split
      · next here => exact goes (by simp [here.1]) (by simp) (by simp)
      · exact single
  | broken error =>
      simp only [Downloads.threadStep]
      split
      · next here => exact goes (by simp [here]) (by simp) (by simp)
      · exact single
  | advance =>
      simp only [Downloads.threadStep]
      split
      · next here =>
          exact (goes (by simp [here]) (by simp) (by simp)).modifyEntry fun _ => rfl
      · next isAllDownloaded here =>
          cases isAllDownloaded with
          | true => exact goes (by simp [here]) (by simp) (by simp)
          | false => exact goes (by simp [here]) (by simp) (by simp)
      · next here => exact (goes (by simp [here]) (by simp) (by simp)).clear
      · next here =>
          exact (goes (by simp [here]) (by simp) (by simp)).modifyEntry fun _ => rfl
      · exact single

/-- One step keeps the threads apart. -/
theorem Single.step
    (single : Single state)
    {event : Event}
    (apart : Apart state event) :
    Single (state.step host event) := by
  cases event with
  | check path => exact single.congr rfl rfl
  | prepare call =>
      simp only [Downloads.step]
      split
      · exact single.prepare ..
      · exact single
  | insert call =>
      simp only [Downloads.step]
      split
      · next path isCall => exact single.insert (apart (by simp [isCall])) call path
      · exact single
  | cancel =>
      simp only [Downloads.step]
      split
      · exact single
      · exact single.fire _
  | remove => exact single.removeEntry
  | thread index action =>
      cases isThread : state.threads[index]? with
      | none =>
          simp only [Downloads.step, isThread]
          exact single
      | some thread =>
          simp only [Downloads.step, isThread]
          exact single.threadStep isThread apart

/-- Where no entry is inserted beside a thread that still runs, and no body is longer than was
announced, every entry stays with its thread, and what is returned is one whole body. -/
theorem one_download_of_apart
    (host : Host String Location)
    (volume : Volume String Location)
    (events : List Event)
    (apart : Along (Downloads.step host) Apart { volume := volume } events) :
    (∀ before, before <+: events →
        OneDownload (run (Downloads.step host) { volume := volume } before)) ∧
      Along (Downloads.step host) (SparesOthers host) { volume := volume } events := by
  have single : ∀ before, before <+: events →
      Single (run (Downloads.step host) { volume := volume } before) := by
    intro before isPrefix
    exact run_invariant Single (fun _ _ single apart => single.step apart)
      ⟨by simp, by simp, by simp⟩ (apart.restrict isPrefix)
  refine ⟨fun before isPrefix => (single before isPrefix).oneDownload, ?_⟩
  rw [along_iff_forall_split]
  rintro before event after rfl
  exact (single before ⟨event :: after, rfl⟩).sparesOthers event

/-- A system that takes paths as they are and lets every operation through. -/
def plainHost : Host String String :=
  ⟨some, fun _ _ => true, fun _ => 0⟩

/-- A download of two bytes to memory, removed by the caller when it is there. -/
def oneByOne : List Event :=
  [.check none, .prepare 0, .insert 0, .thread 0 (.head (.success (some 2))),
    .thread 0 (.response (.ok [1, 2])), .thread 0 (.chunk 2), .thread 0 .eof, .thread 0 .advance,
    .thread 0 .advance, .remove, .check none, .prepare 1, .insert 1]

theorem one_download_of_apart_oneByOne :
    (∀ before, before <+: oneByOne →
        OneDownload (run (Downloads.step plainHost) { volume := ⟨Disk.empty, []⟩ } before)) ∧
      Along (Downloads.step plainHost) (SparesOthers plainHost) { volume := ⟨Disk.empty, []⟩ }
        oneByOne := by
  refine one_download_of_apart plainHost ⟨Disk.empty, []⟩ oneByOne ?_
  refine ⟨trivial, trivial, ?_, trivial, ?_, trivial, trivial, trivial, trivial, trivial, trivial,
    trivial, ?_, trivial⟩
  · show _ → ∀ thread ∈ ([] : List Thread), thread.phase = .ended
    simp
  · intro thread isThread _ contentLength announced
    obtain rfl := Option.some.inj isThread
    obtain rfl := Option.some.inj announced
    decide
  · intro _ thread member
    obtain rfl := List.mem_singleton.mp member
    rfl

/-- A download is removed and started again while its first thread still reads. -/
def tooSoon : List Event :=
  [.check none, .prepare 0, .insert 0, .thread 0 (.head (.success (some 2))),
    .thread 0 (.response (.ok [1, 2])), .thread 0 (.chunk 1), .remove, .check none, .prepare 1,
    .insert 1, .thread 1 (.head (.success (some 2))), .thread 1 (.response (.ok [3, 4])),
    .thread 1 (.chunk 1), .thread 0 (.chunk 1)]

/-- The second entry gets the second half of the first body and returns it with the first half of
its own.  The first thread then removes it. -/
theorem mixed_download :
    (∃ found, getDownloadData (run (Downloads.step plainHost)
        { volume := ⟨Disk.empty, []⟩ } tooSoon) = .ok found ∧ found.data = [3, 2]) ∧
      ¬OneDownload (run (Downloads.step plainHost) { volume := ⟨Disk.empty, []⟩ } tooSoon) ∧
      (run (Downloads.step plainHost) { volume := ⟨Disk.empty, []⟩ }
        (tooSoon ++ [.thread 0 .cancelled, .thread 0 .advance, .thread 0 .advance,
          .thread 0 .advance])).entry = none := by
  have returned : getDownloadData (run (Downloads.step plainHost)
      { volume := ⟨Disk.empty, []⟩ } tooSoon) = .ok ⟨[3, 2], none, some 2, 2, none⟩ := by
    decide
  refine ⟨⟨_, returned, rfl⟩, fun sound => ?_, by decide⟩
  obtain ⟨thread, member, same⟩ := sound.whole _ returned (by simp)
  have bodies : ∀ thread ∈ (run (Downloads.step plainHost)
      { volume := ⟨Disk.empty, []⟩ } tooSoon).threads, thread.body ≠ [3, 2] := by
    decide
  exact bodies thread member same.symm

end Runs

end Http
end OneDesk
