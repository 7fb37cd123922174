import OneDesk.Lib.Run
import OneDesk.Stream.Encrypt

/-!
# From the connection to the decoder

The frames of one display reach its video thread in two ways.  Key frames travel
in the channel.  Other frames wait in a bounded queue, and the channel carries a
marker for each of them, except when the queue is full: then the oldest frame is
given up for the new one, which takes over the marker of another.
-/

namespace OneDesk
namespace Client

open OneDesk.Stream

/-- `EncodedVideoFrame`. -/
structure EncodedVideoFrame where
  data : Bytes
  key : Bool
  pts : Int
  deriving DecidableEq

/-- `video_frame::Union`. -/
inductive VideoFrameUnion
  | vp8s (frames : List EncodedVideoFrame)
  | vp9s (frames : List EncodedVideoFrame)
  | av1s (frames : List EncodedVideoFrame)
  | h264s (frames : List EncodedVideoFrame)
  | h265s (frames : List EncodedVideoFrame)
  | rgb
  | yuv
  deriving DecidableEq

/-- `VideoFrame`. -/
structure VideoFrame where
  union : Option VideoFrameUnion
  display : Int
  deriving DecidableEq

/-- `contains_key_frame`. -/
def containsKeyFrame (vf : VideoFrame) : Bool :=
  match vf.union with
  | some (.vp8s frames) | some (.vp9s frames) | some (.av1s frames)
  | some (.h264s frames) | some (.h265s frames) => frames.any (·.key)
  | some .rgb | some .yuv => false
  | none => false

/-- `VIDEO_QUEUE_SIZE`. -/
def videoQueueSize : Nat := 120

/-- A frame and how many frames of the display arrived before it. -/
structure Arrival where
  number : Nat
  frame : VideoFrame
  deriving DecidableEq

/-- `MediaData`, as far as a video thread is sent it. -/
inductive MediaData
  | videoQueue
  | videoFrame (arrival : Arrival)
  | reset
  | recordScreen (start : Bool)
  deriving DecidableEq

/-- What a video thread is about to do. -/
inductive VideoThread
  /-- It receives from the channel. -/
  | receiving
  /-- It has received a marker and pops from the queue. -/
  | popping
  /-- It has popped a frame and looks whether the queue is discarded. -/
  | popped (arrival : Arrival)
  /-- It has received a key frame and ends the discarding. -/
  | keyFrame (arrival : Arrival)
  deriving DecidableEq

/-- One display of a session. -/
structure Display where
  channel : List MediaData
  videoQueue : List Arrival
  discardQueue : Bool
  /-- A frame has been pushed and its marker is not yet sent. -/
  marking : Bool
  thread : VideoThread
  /-- How often `refresh_video` was called. -/
  refreshed : Nat
  /-- The frames received from the peer. -/
  received : List Arrival
  /-- The frames given to `VideoHandler::handle_frame`. -/
  handled : List Arrival
  deriving DecidableEq

/-- Steps of the two threads. -/
inductive DisplayEvent
  /-- The connection receives a frame. -/
  | arrive (vf : VideoFrame)
  /-- The connection sends the marker of the frame it has pushed. -/
  | mark
  /-- The connection sends something else to the video thread. -/
  | control (data : MediaData)
  /-- `*discard_queue.write().unwrap() = true`. -/
  | discard
  /-- The video thread takes its next step. -/
  | videoThread
  deriving DecidableEq

namespace Display

/-- `new_video_thread`. -/
def new : Display where
  channel := []
  videoQueue := []
  discardQueue := false
  marking := false
  thread := .receiving
  refreshed := 0
  received := []
  handled := []

variable (display : Display)

/-- A frame is received by `handle_msg_from_peer`, up to the marker. -/
def arrive (vf : VideoFrame) : Display :=
  let arrival : Arrival := ⟨display.received.length, vf⟩
  let display := { display with received := display.received ++ [arrival] }
  if containsKeyFrame vf then
    { display with channel := display.channel ++ [.videoFrame arrival] }
  else if display.videoQueue.length < videoQueueSize then
    { display with videoQueue := display.videoQueue ++ [arrival], marking := true }
  else
    -- `force_push` gives up the oldest frame.
    { display with
      videoQueue := display.videoQueue.tail ++ [arrival]
      refreshed := display.refreshed + 1 }

/-- A step of the loop in `start_video_thread`. -/
def advance : Display :=
  match display.thread, display.channel with
  | .receiving, [] => display
  | .receiving, .videoQueue :: rest =>
      { display with channel := rest, thread := .popping }
  | .receiving, .videoFrame arrival :: rest =>
      { display with channel := rest, thread := .keyFrame arrival }
  | .receiving, _ :: rest => { display with channel := rest }
  | .popping, _ =>
      match display.videoQueue with
      | [] => { display with thread := .receiving }
      | arrival :: rest => { display with videoQueue := rest, thread := .popped arrival }
  | .popped arrival, _ =>
      if display.discardQueue then { display with thread := .receiving }
      else { display with thread := .receiving, handled := display.handled ++ [arrival] }
  | .keyFrame arrival, _ =>
      { display with
        discardQueue := false
        thread := .receiving
        handled := display.handled ++ [arrival] }

/-- One step.  While the connection owes a marker, it does nothing else. -/
def step : DisplayEvent → Display
  | .arrive vf => if display.marking then display else display.arrive vf
  | .mark =>
      if display.marking then
        { display with channel := display.channel ++ [.videoQueue], marking := false }
      else display
  | .control data =>
      match data with
      | .reset | .recordScreen _ =>
          if display.marking then display
          else { display with channel := display.channel ++ [data] }
      | .videoQueue | .videoFrame _ => display
  | .discard => { display with discardQueue := true }
  | .videoThread => display.advance

/-! ## What is due -/

/-- The frames the video thread will hand over for what is in the channel and in
the queue. -/
def due : Bool → List MediaData → List Arrival → List Arrival
  | _, [], _ => []
  | discard, .videoQueue :: channel, [] => due discard channel []
  | true, .videoQueue :: channel, _ :: queue => due true channel queue
  | false, .videoQueue :: channel, arrival :: queue =>
      arrival :: due false channel queue
  | _, .videoFrame arrival :: channel, queue => arrival :: due false channel queue
  | discard, .reset :: channel, queue => due discard channel queue
  | discard, .recordScreen _ :: channel, queue => due discard channel queue

/-- No marker of a frame that will be shown is followed by a key frame. -/
def Clear : Bool → List MediaData → Prop
  | _, [] => True
  | true, .videoQueue :: channel => Clear true channel
  | false, .videoQueue :: channel => ∀ arrival, .videoFrame arrival ∉ channel
  | _, .videoFrame _ :: channel => Clear false channel
  | discard, .reset :: channel => Clear discard channel
  | discard, .recordScreen _ :: channel => Clear discard channel

/-- How many markers are in a channel. -/
def markers (channel : List MediaData) : Nat :=
  channel.count .videoQueue

@[simp] theorem markers_nil : markers [] = 0 := rfl

@[simp] theorem markers_cons_videoQueue (channel : List MediaData) :
    markers (.videoQueue :: channel) = markers channel + 1 := by
  simp [markers]

@[simp] theorem markers_cons_videoFrame (arrival : Arrival) (channel : List MediaData) :
    markers (.videoFrame arrival :: channel) = markers channel := by
  simp [markers]

@[simp] theorem markers_cons_reset (channel : List MediaData) :
    markers (.reset :: channel) = markers channel := by
  simp [markers]

@[simp] theorem markers_cons_recordScreen (start : Bool) (channel : List MediaData) :
    markers (.recordScreen start :: channel) = markers channel := by
  simp [markers]

@[simp] theorem markers_append (channel other : List MediaData) :
    markers (channel ++ other) = markers channel + markers other :=
  List.count_append

/-- Media that neither carries nor announces a frame. -/
def Quiet : MediaData → Prop
  | .reset | .recordScreen _ => True
  | .videoQueue | .videoFrame _ => False

theorem due_append_quiet
    {data : MediaData}
    (quiet : Quiet data)
    (discard : Bool)
    (channel : List MediaData)
    (queue : List Arrival) :
    due discard (channel ++ [data]) queue = due discard channel queue := by
  fun_induction due discard channel queue with
  | case1 =>
      cases data with
      | reset => rfl
      | recordScreen start => rfl
      | videoQueue => exact quiet.elim
      | videoFrame arrival => exact quiet.elim
  | case2 => simpa [due]
  | case3 => simpa [due]
  | case4 => simpa [due]
  | case5 => simpa [due]
  | case6 => simpa [due]
  | case7 => simpa [due]

theorem due_append_videoFrame
    (arrival : Arrival)
    (discard : Bool)
    (channel : List MediaData)
    (queue : List Arrival) :
    due discard (channel ++ [.videoFrame arrival]) queue =
      due discard channel queue ++ [arrival] := by
  fun_induction due discard channel queue with
  | case1 => simp [due]
  | case2 => simpa [due]
  | case3 => simpa [due]
  | case4 => simpa [due]
  | case5 => simpa [due]
  | case6 => simpa [due]
  | case7 => simpa [due]

/-- A frame that is pushed with its marker comes last. -/
theorem due_push
    (arrival : Arrival)
    {discard : Bool}
    {channel : List MediaData}
    {queue : List Arrival}
    (paired : markers channel = queue.length) :
    (due discard (channel ++ [.videoQueue]) (queue ++ [arrival])).Sublist
      (due discard channel queue ++ [arrival]) := by
  fun_induction due discard channel queue with
  | case1 discard queue =>
      obtain rfl : queue = [] := List.length_eq_zero_iff.mp paired.symm
      cases discard <;> simp [due]
  | case2 => simp at paired
  | case3 channel _ queue inductionHypothesis =>
      simpa [due] using inductionHypothesis (by simpa using paired)
  | case4 channel head queue inductionHypothesis =>
      simpa [due] using inductionHypothesis (by simpa using paired)
  | case5 discard head channel queue inductionHypothesis =>
      simpa [due] using inductionHypothesis (by simpa using paired)
  | case6 discard channel queue inductionHypothesis =>
      simpa [due] using inductionHypothesis (by simpa using paired)
  | case7 discard start channel queue inductionHypothesis =>
      simpa [due] using inductionHypothesis (by simpa using paired)

/-- To discard the queue only takes frames away. -/
theorem due_discard
    (discard : Bool)
    (channel : List MediaData)
    (queue : List Arrival) :
    (due true channel queue).Sublist (due discard channel queue) := by
  fun_induction due discard channel queue with
  | case1 => simp [due]
  | case2 => simpa [due]
  | case3 => simp [due]
  | case4 channel head queue inductionHypothesis =>
      simpa [due] using inductionHypothesis.trans (List.sublist_cons_self _ _)
  | case5 => simp [due]
  | case6 => simpa [due]
  | case7 => simpa [due]

/-- Without key frames the channel shows what is in the queue. -/
theorem due_of_no_videoFrame
    {channel : List MediaData}
    {queue : List Arrival}
    (noKey : ∀ arrival, .videoFrame arrival ∉ channel)
    (paired : markers channel = queue.length) :
    due false channel queue = queue := by
  induction channel generalizing queue with
  | nil =>
      obtain rfl : queue = [] := List.length_eq_zero_iff.mp paired.symm
      rfl
  | cons data channel inductionHypothesis =>
      have rest : ∀ arrival, .videoFrame arrival ∉ channel := by
        intro arrival member
        exact noKey arrival (List.mem_cons_of_mem data member)
      cases data with
      | videoQueue =>
          cases queue with
          | nil => simp at paired
          | cons arrival queue =>
              rw [due, inductionHypothesis rest (by simpa using paired)]
      | videoFrame arrival => exact absurd List.mem_cons_self (noKey arrival)
      | reset => exact inductionHypothesis rest (by simpa using paired)
      | recordScreen start => exact inductionHypothesis rest (by simpa using paired)

/-- Where no shown frame is followed by a key frame, the new frame of a full queue
comes last. -/
theorem due_shift
    (arrival : Arrival)
    {discard : Bool}
    {channel : List MediaData}
    {queue : List Arrival}
    (clear : Clear discard channel)
    (paired : markers channel = queue.length) :
    (due discard channel (queue.tail ++ [arrival])).Sublist
      (due discard channel queue ++ [arrival]) := by
  fun_induction due discard channel queue with
  | case1 discard queue => simp [due]
  | case2 => simp at paired
  | case3 channel head queue inductionHypothesis =>
      have shifted := inductionHypothesis clear (by simpa using paired)
      cases queue with
      | nil => simp [due]
      | cons next queue => simpa [due] using shifted
  | case4 channel head queue inductionHypothesis =>
      have noKey : ∀ arrival, .videoFrame arrival ∉ channel := clear
      have all : due false (.videoQueue :: channel) (queue ++ [arrival]) =
          queue ++ [arrival] := by
        apply due_of_no_videoFrame
        · intro other
          simp [noKey other]
        · simpa using paired
      rw [List.tail_cons, all, due_of_no_videoFrame noKey (by simpa using paired)]
      exact List.sublist_cons_self _ _
  | case5 discard head channel queue inductionHypothesis =>
      have rest : Clear false channel := by
        cases discard <;> exact clear
      simpa [due] using inductionHypothesis rest (by simpa using paired)
  | case6 discard channel queue inductionHypothesis =>
      have rest : Clear discard channel := by
        cases discard <;> exact clear
      simpa [due] using inductionHypothesis rest (by simpa using paired)
  | case7 discard start channel queue inductionHypothesis =>
      have rest : Clear discard channel := by
        cases discard <;> exact clear
      simpa [due] using inductionHypothesis rest (by simpa using paired)

/-! ## The order of a display -/

/-- What the video thread has taken from the channel and not yet worked on. -/
def taken : List MediaData :=
  match display.thread with
  | .receiving | .popped _ => []
  | .popping => [.videoQueue]
  | .keyFrame arrival => [.videoFrame arrival]

/-- What the video thread still has to work on, with the marker the connection
owes. -/
def pending : List MediaData :=
  display.taken ++ display.channel ++ if display.marking then [.videoQueue] else []

/-- The frame the video thread has popped, unless the queue is discarded. -/
def held : List Arrival :=
  match display.thread with
  | .popped arrival => if display.discardQueue then [] else [arrival]
  | .receiving | .popping | .keyFrame _ => []

/-- The frames that will be handed over if nothing more happens. -/
def upcoming : List Arrival :=
  display.held ++ due display.discardQueue display.pending display.videoQueue

/-- Every frame in the queue has its marker, and what was and will be handed over
came in this order. -/
structure Ordered : Prop where
  numbered : display.received.map (·.number) = List.range display.received.length
  paired : markers display.pending = display.videoQueue.length
  inOrder : (display.handled ++ display.upcoming).Sublist display.received

/-- The next step does not shift the markers below a key frame: no frame arrives at
a full queue while a marker of a frame that will be shown waits before a key
frame. -/
def Careful : DisplayEvent → Prop
  | .arrive vf =>
      display.marking = false → containsKeyFrame vf = false →
        videoQueueSize ≤ display.videoQueue.length →
        Clear display.discardQueue display.pending
  | .mark | .control _ | .discard | .videoThread => True

theorem ordered_new : new.Ordered where
  numbered := rfl
  paired := rfl
  inOrder := List.Sublist.refl []

variable {display}

/-- With a new arrival at the end of what is received, what comes before it may be
followed by it. -/
theorem Ordered.extend
    (ordered : display.Ordered)
    {later : List Arrival}
    {arrival : Arrival}
    (last : later.Sublist (display.upcoming ++ [arrival])) :
    (display.handled ++ later).Sublist (display.received ++ [arrival]) :=
  calc (display.handled ++ later).Sublist
        (display.handled ++ (display.upcoming ++ [arrival])) :=
          last.append_left display.handled
    _ = display.handled ++ display.upcoming ++ [arrival] :=
          (List.append_assoc _ _ _).symm
    List.Sublist _ _ := ordered.inOrder.append_right [arrival]

theorem numbered_append
    {received : List Arrival}
    (numbered : received.map (·.number) = List.range received.length)
    (vf : VideoFrame) :
    (received ++ [(⟨received.length, vf⟩ : Arrival)]).map (·.number) =
      List.range (received ++ [(⟨received.length, vf⟩ : Arrival)]).length := by
  simp [numbered, List.range_succ]

theorem ordered_arrive
    (ordered : display.Ordered)
    (idle : display.marking = false)
    {vf : VideoFrame}
    (careful : display.Careful (.arrive vf)) :
    (display.arrive vf).Ordered := by
  have numbered := numbered_append ordered.numbered vf
  have paired := ordered.paired
  have pending_eq : display.pending = display.taken ++ display.channel := by
    simp [pending, idle]
  rw [pending_eq] at paired
  unfold arrive
  dsimp only
  split
  · -- A key frame goes into the channel.
    refine ⟨numbered, ?_, ordered.extend ?_⟩
    · simpa [pending, taken, idle] using paired
    · have last := due_append_videoFrame ⟨display.received.length, vf⟩
        display.discardQueue display.pending display.videoQueue
      rw [pending_eq, List.append_assoc] at last
      simp only [upcoming, pending, idle, Bool.false_eq_true, if_false, List.append_nil,
        List.append_assoc]
      exact (List.Sublist.refl display.held).append (last ▸ List.Sublist.refl _)
  · next noKey =>
      split
      · -- The queue has room for the frame, and its marker will follow.
        refine ⟨numbered, ?_, ordered.extend ?_⟩
        · simpa [pending, taken, ← Nat.add_assoc] using paired
        · have last := @due_push ⟨display.received.length, vf⟩ display.discardQueue _ _ paired
          simp only [upcoming, pending, idle, Bool.false_eq_true, if_false, if_true,
            List.append_nil, List.append_assoc] at last ⊢
          exact last.append_left display.held
      · next full =>
          -- The oldest frame makes room, and its marker is for the next one.
          have clear := careful idle (by simpa using noKey) (by omega)
          rw [pending_eq] at clear
          have positive : 0 < display.videoQueue.length := by
            have : videoQueueSize ≤ display.videoQueue.length := by omega
            exact Nat.lt_of_lt_of_le (by decide) this
          refine ⟨numbered, ?_, ordered.extend ?_⟩
          · have size : (display.videoQueue.tail ++
                [(⟨display.received.length, vf⟩ : Arrival)]).length =
                display.videoQueue.length := by
              simp only [List.length_append, List.length_tail, List.length_singleton]
              omega
            simpa [pending, taken, idle, size] using paired
          · have last := due_shift ⟨display.received.length, vf⟩ clear paired
            simp only [upcoming, pending, idle, Bool.false_eq_true, if_false,
              List.append_nil, List.append_assoc] at last ⊢
            exact last.append_left display.held

theorem ordered_advance
    (ordered : display.Ordered) :
    display.advance.Ordered := by
  have paired := ordered.paired
  have inOrder := ordered.inOrder
  unfold advance
  split
  · exact ordered
  · next receiving channel =>
      refine ⟨ordered.numbered, ?_, ?_⟩
      · simpa [pending, taken, receiving, channel] using paired
      · simpa [pending, taken, receiving, channel, upcoming, held] using inOrder
  · next arrival rest receiving channel =>
      refine ⟨ordered.numbered, ?_, ?_⟩
      · simpa [pending, taken, receiving, channel] using paired
      · simpa [pending, taken, receiving, channel, upcoming, held] using inOrder
  · next data rest noMarker noKey receiving channel =>
      cases data with
      | videoQueue => exact absurd rfl noMarker
      | videoFrame arrival => exact absurd rfl (noKey arrival)
      | reset =>
          refine ⟨ordered.numbered, ?_, ?_⟩
          · simpa [pending, taken, receiving, channel] using paired
          · simpa [pending, taken, receiving, channel, upcoming, held, due] using inOrder
      | recordScreen start =>
          refine ⟨ordered.numbered, ?_, ?_⟩
          · simpa [pending, taken, receiving, channel] using paired
          · simpa [pending, taken, receiving, channel, upcoming, held, due] using inOrder
  · next popping =>
      split
      · next empty =>
          simp [pending, taken, popping, empty] at paired
      · next arrival rest queue =>
          refine ⟨ordered.numbered, ?_, ?_⟩
          · simpa [pending, taken, popping, queue] using paired
          · rcases discard : display.discardQueue with _ | _ <;>
              simpa [pending, taken, popping, queue, upcoming, held, due, discard]
                using inOrder
  · next arrival popped =>
      split
      · next discard =>
          refine ⟨ordered.numbered, ?_, ?_⟩
          · simpa [pending, taken, popped] using paired
          · simpa [pending, taken, popped, upcoming, held, discard] using inOrder
      · next discard =>
          refine ⟨ordered.numbered, ?_, ?_⟩
          · simpa [pending, taken, popped] using paired
          · simpa [pending, taken, popped, upcoming, held, discard] using inOrder
  · next arrival keyFrame =>
      refine ⟨ordered.numbered, ?_, ?_⟩
      · simpa [pending, taken, keyFrame] using paired
      · simpa [pending, taken, keyFrame, upcoming, held, due] using inOrder

theorem ordered_step
    (ordered : display.Ordered)
    {event : DisplayEvent}
    (careful : display.Careful event) :
    (display.step event).Ordered := by
  cases event with
  | arrive vf =>
      rw [step]
      split
      · exact ordered
      · next idle => exact ordered_arrive ordered (by simpa using idle) careful
  | mark =>
      rw [step]
      split
      · next marking =>
          have same : ({ display with
              channel := display.channel ++ [.videoQueue], marking := false } :
                Display).pending = display.pending := by
            simp [pending, taken, marking]
          refine ⟨ordered.numbered, ?_, ?_⟩
          · rw [same]
            exact ordered.paired
          · rw [upcoming, same]
            exact ordered.inOrder
      · exact ordered
  | control data =>
      have idle : ∀ data, Quiet data → display.marking = false →
          ({ display with channel := display.channel ++ [data] } : Display).Ordered := by
        intro data quiet idle
        have pending_eq : ({ display with channel := display.channel ++ [data] } :
            Display).pending = display.pending ++ [data] := by
          simp [pending, taken, idle]
        refine ⟨ordered.numbered, ?_, ?_⟩
        · rw [pending_eq, markers_append, ordered.paired]
          cases data with
          | reset => rfl
          | recordScreen start => rfl
          | videoQueue => exact quiet.elim
          | videoFrame arrival => exact quiet.elim
        · rw [upcoming, pending_eq, due_append_quiet quiet]
          exact ordered.inOrder
      cases data with
      | reset =>
          rw [step]
          split
          · exact ordered
          · next notMarking => exact idle _ trivial (by simpa using notMarking)
      | recordScreen start =>
          rw [step]
          split
          · exact ordered
          · next notMarking => exact idle _ trivial (by simpa using notMarking)
      | videoQueue => exact ordered
      | videoFrame arrival => exact ordered
  | discard =>
      refine ⟨ordered.numbered, ordered.paired, ?_⟩
      refine List.Sublist.trans (List.Sublist.append_left ?_ _) ordered.inOrder
      refine List.Sublist.append ?_ (due_discard _ _ _)
      rcases thread : display.thread with _ | _ | arrival | arrival <;>
        simp [step, held, thread]
  | videoThread => exact ordered_advance ordered

theorem Ordered.nodup (ordered : display.Ordered) : display.received.Nodup := by
  apply List.Nodup.of_map (·.number)
  rw [ordered.numbered]
  exact List.nodup_range

/-- As long as no frame arrives at a full queue while a frame that will be shown
waits before a key frame, the frames are handed over in the order they arrived, and
each at most once. -/
theorem handled_in_order
    {events : List DisplayEvent}
    (careful : Lib.Along step Careful new events) :
    (Lib.run step new events).handled.Sublist (Lib.run step new events).received ∧
      (Lib.run step new events).handled.Nodup := by
  have ordered : (Lib.run step new events).Ordered :=
    Lib.run_invariant Ordered (fun _ _ before meets => ordered_step before meets)
      ordered_new careful
  have inOrder := (List.sublist_append_left _ _).trans ordered.inOrder
  exact ⟨inOrder, inOrder.nodup ordered.nodup⟩

/-- A frame of a display, encoded with VP9. -/
def vp9Frame (key : Bool) : VideoFrame :=
  ⟨some (.vp9s [⟨[], key, 0⟩]), 0⟩

/-- A frame and a key frame reach the decoder in the order they arrived. -/
theorem handled_in_order_two_frames :
    (Lib.run step new [.arrive (vp9Frame false), .mark, .arrive (vp9Frame true),
        .videoThread, .videoThread, .videoThread, .videoThread,
        .videoThread]).handled.Sublist
      (Lib.run step new [.arrive (vp9Frame false), .mark, .arrive (vp9Frame true),
        .videoThread, .videoThread, .videoThread, .videoThread,
        .videoThread]).received ∧
      (Lib.run step new [.arrive (vp9Frame false), .mark, .arrive (vp9Frame true),
        .videoThread, .videoThread, .videoThread, .videoThread,
        .videoThread]).handled.Nodup := by
  apply handled_in_order
  refine ⟨?_, trivial, ?_, trivial, trivial, trivial, trivial, trivial, trivial⟩
  · intro idle noKey full
    exact absurd full (by decide)
  · intro idle noKey full
    exact absurd full (by decide)

/-- A frame, a key frame and as many frames again as fill the queue and overflow it
once, then five steps of the video thread. -/
def overtakingRun : List DisplayEvent :=
  [.arrive (vp9Frame false), .mark, .arrive (vp9Frame true)] ++
    (List.replicate 119 [.arrive (vp9Frame false), .mark]).flatten ++
    [.arrive (vp9Frame false)] ++ List.replicate 5 .videoThread

/-- A frame that arrived after a key frame is handed over before it. -/
theorem frame_overtakes_key_frame :
    (Lib.run step new overtakingRun).handled.map (·.number) = [2, 1] ∧
      ¬(Lib.run step new overtakingRun).handled.Sublist
        (Lib.run step new overtakingRun).received := by
  decide +kernel

end Display

end Client
end OneDesk
