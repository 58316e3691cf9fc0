/-
LamcoRdp/Server/GraphicsDrain.lean

The graphics drain task and the streams of the clients.

The pipeline queues frames, the drain task takes as many as it finds and passes the
last of them on to the update channel.  It holds the lock of `update_sender` while it
waits for room.  A client reads the channel through the stream that `updates()` gave
it; when it drops the stream the channel has no receiver, and a send into it fails.
The next `updates()` puts a new channel in the place of the old one.

Frames are numbered in the order in which they entered the queue.  `Accounted` says
where each of those that were queued since the newest `updates()` is: in the queue,
in the hands of the drain task (with those it replaces), or in the channel of that
call.  All goes well (`Serves`) exactly as long as the drain task never sends into a
channel whose stream has been dropped: the failed send ends the task, and nobody
starts another one.
-/
import LamcoRdp.Lib.Runs
import Mathlib.Logic.Function.Basic
import Mathlib.Order.Basic

namespace LamcoRdp

open Runs

/-- Where the drain task is.  Beside the latest frame stand those coalesced into it. -/
inductive DrainLoop
  /-- in `graphics_rx.recv()` -/
  | waiting
  | coalescing (frames : List ℕ)
  /-- in `update_sender.lock()` -/
  | locking (frames : List ℕ)
  /-- in `send`, with the lock -/
  | sending (frames : List ℕ)
  | terminated
  deriving DecidableEq

/-- The frames in the hands of the drain task. -/
def DrainLoop.held : DrainLoop → List ℕ
  | .coalescing frames => frames
  | .locking frames => frames
  | .sending frames => frames
  | .waiting => []
  | .terminated => []

/-- An update channel; an update stands for all frames coalesced into it. -/
structure UpdateChannel where
  buffer : List (List ℕ)
  /-- what the client has read -/
  delivered : List (List ℕ)
  /-- the receiver has not been dropped -/
  alive : Bool

/-- A channel that nobody has used. -/
def UpdateChannel.new : UpdateChannel := ⟨[], [], true⟩

/-- The graphics queue, its drain task and the update channels. -/
structure GraphicsDrain where
  /-- `graphics_tx` has not been dropped -/
  queueOpen : Bool
  queue : List ℕ
  /-- how many frames have entered the queue -/
  accepted : ℕ
  drain : DrainLoop
  /-- the channels made so far, the last one is `current` -/
  channels : ℕ → UpdateChannel
  /-- the channel of `update_sender` -/
  current : ℕ
  /-- `update_receiver` still holds the receiver of the current channel -/
  receiver : Bool
  /-- `accepted` when the current channel was made -/
  mark : ℕ

/-- A step of the pipeline, of the drain task or of a client. -/
inductive DrainEvent
  /-- the pipeline queues a frame -/
  | queueFrame
  | closeQueue
  | recv
  /-- the queue is closed and empty -/
  | recvClosed
  | tryRecv
  | tryRecvEmpty
  | lock
  | send
  /-- `updates()` makes a new channel, if the receiver was taken -/
  | install
  /-- `updates()` takes the receiver for its stream -/
  | take
  /-- the client reads from the stream of a channel -/
  | deliver (c : ℕ)
  | dropStream (c : ℕ)
  deriving DecidableEq

namespace GraphicsDrain

/-- The room in the graphics queue, and in an update channel. -/
def room : ℕ := 64

/-- One channel, and nothing queued. -/
def init : GraphicsDrain where
  queueOpen := true
  queue := []
  accepted := 0
  drain := .waiting
  channels := fun _ => .new
  current := 0
  receiver := true
  mark := 0

/-- Another content for a channel. -/
def setChannel (s : GraphicsDrain) (c : ℕ) (channel : UpdateChannel) : GraphicsDrain :=
  { s with channels := Function.update s.channels c channel }

theorem current_setChannel (s : GraphicsDrain) (channel : UpdateChannel) :
    (s.setChannel s.current channel).channels (s.setChannel s.current channel).current =
      channel :=
  Function.update_self ..

/-- The stream of channel `c` is in the hands of a client. -/
def streamed (s : GraphicsDrain) (c : ℕ) : Bool :=
  (decide (c < s.current) || decide (c = s.current) && !s.receiver) && (s.channels c).alive

/-- One event, `none` where it cannot happen. -/
def step? (s : GraphicsDrain) (e : DrainEvent) : Option GraphicsDrain :=
  match e, s.drain, s.queue with
  | .queueFrame, _, _ =>
      if s.queueOpen then
        -- a full queue drops the frame
        if s.queue.length < room then
          some { s with queue := s.queue ++ [s.accepted], accepted := s.accepted + 1 }
        else some s
      else none
  | .closeQueue, _, _ => some { s with queueOpen := false }
  | .recv, .waiting, n :: queue => some { s with queue, drain := .coalescing [n] }
  | .recvClosed, .waiting, [] =>
      if s.queueOpen then none else some { s with drain := .terminated }
  | .tryRecv, .coalescing frames, n :: queue =>
      some { s with queue, drain := .coalescing (frames ++ [n]) }
  | .tryRecvEmpty, .coalescing frames, [] => some { s with drain := .locking frames }
  | .lock, .locking frames, _ => some { s with drain := .sending frames }
  | .send, .sending frames, _ =>
      if (s.channels s.current).alive = false then some { s with drain := .terminated }
      else if (s.channels s.current).buffer.length < room then
        some ({ s with drain := .waiting }.setChannel s.current
          { s.channels s.current with buffer := (s.channels s.current).buffer ++ [frames] })
      else none
  | .install, drain, _ =>
      match s.receiver, drain with
      | false, .sending _ => none
      | false, _ =>
          some ({ s with current := s.current + 1, receiver := true, mark := s.accepted }.setChannel
            (s.current + 1) .new)
      | true, _ => none
  | .take, _, _ => if s.receiver then some { s with receiver := false } else none
  | .deliver c, _, _ =>
      match (s.channels c).buffer with
      | [] => none
      | update :: buffer =>
          if s.streamed c then
            some (s.setChannel c { s.channels c with
              buffer, delivered := (s.channels c).delivered ++ [update] })
          else none
  | .dropStream c, _, _ =>
      if s.streamed c then some (s.setChannel c { s.channels c with alive := false }) else none
  | _, _, _ => none

/-- One event; one that cannot happen is passed over. -/
def step (s : GraphicsDrain) (e : DrainEvent) : GraphicsDrain := (s.step? e).getD s

/-! ### Where the frames are -/

/-- The frame is in the current channel, read or not. -/
def InChannel (s : GraphicsDrain) (n : ℕ) : Prop :=
  ∃ frames ∈ (s.channels s.current).delivered ++ (s.channels s.current).buffer, n ∈ frames

/-- The frame is in the queue, in the hands of the drain task, or in the channel. -/
def Has (s : GraphicsDrain) (n : ℕ) : Prop :=
  n ∈ s.queue ∨ n ∈ s.drain.held ∨ s.InChannel n

/-- No frame queued since the newest `updates()` is lost. -/
def Accounted (s : GraphicsDrain) : Prop := ∀ n, s.mark ≤ n → n < s.accepted → s.Has n

/-- The client of the newest stream has read the frame, or one it was coalesced into. -/
def Delivered (s : GraphicsDrain) (n : ℕ) : Prop :=
  ∃ frames ∈ (s.channels s.current).delivered, n ∈ frames

/-- While the queue is open the drain task is there, and no frame queued since the newest
`updates()` is lost: if that call's stream has not been dropped, all of them can be
brought to its client. -/
def Serves (s : GraphicsDrain) : Prop :=
  s.queueOpen = true → s.drain ≠ .terminated ∧ s.Accounted ∧
    ((s.channels s.current).alive = true →
      ∃ es : List DrainEvent, ∀ n, s.mark ≤ n → n < s.accepted →
        (es.foldl step s).Delivered n)

/-- The drain task does not send into a channel without a receiver, unless the queue
has been closed. -/
def Received (s : GraphicsDrain) : DrainEvent → Prop
  | .send =>
      ∀ frames, s.drain = .sending frames → s.queueOpen = true →
        (s.channels s.current).alive = true
  | _ => True

/-! ### What a step can do -/

/-- The steps, one by one. -/
inductive Moves (s : GraphicsDrain) : DrainEvent → GraphicsDrain → Prop
  | queued (hopen : s.queueOpen = true) :
      Moves s .queueFrame { s with queue := s.queue ++ [s.accepted], accepted := s.accepted + 1 }
  | dropped : Moves s .queueFrame s
  | closed : Moves s .closeQueue { s with queueOpen := false }
  | received {n : ℕ} {queue : List ℕ} (hdrain : s.drain = .waiting) (hqueue : s.queue = n :: queue) :
      Moves s .recv { s with queue, drain := .coalescing [n] }
  | finished (hclosed : s.queueOpen = false) : Moves s .recvClosed { s with drain := .terminated }
  | coalesced {n : ℕ} {queue frames : List ℕ} (hdrain : s.drain = .coalescing frames)
      (hqueue : s.queue = n :: queue) :
      Moves s .tryRecv { s with queue, drain := .coalescing (frames ++ [n]) }
  | emptied {frames : List ℕ} (hdrain : s.drain = .coalescing frames) :
      Moves s .tryRecvEmpty { s with drain := .locking frames }
  | locked {frames : List ℕ} (hdrain : s.drain = .locking frames) :
      Moves s .lock { s with drain := .sending frames }
  | failed {frames : List ℕ} (hdrain : s.drain = .sending frames)
      (halive : (s.channels s.current).alive = false) :
      Moves s .send { s with drain := .terminated }
  | sent {frames : List ℕ} (hdrain : s.drain = .sending frames)
      (halive : (s.channels s.current).alive = true) :
      Moves s .send ({ s with drain := .waiting }.setChannel s.current
        { s.channels s.current with buffer := (s.channels s.current).buffer ++ [frames] })
  | installed (hreceiver : s.receiver = false) (hdrain : ∀ frames, s.drain ≠ .sending frames) :
      Moves s .install ({ s with
        current := s.current + 1, receiver := true, mark := s.accepted }.setChannel
          (s.current + 1) .new)
  | taken : Moves s .take { s with receiver := false }
  | delivered {c : ℕ} {update : List ℕ} {buffer : List (List ℕ)}
      (hbuffer : (s.channels c).buffer = update :: buffer) :
      Moves s (.deliver c) (s.setChannel c { s.channels c with
        buffer, delivered := (s.channels c).delivered ++ [update] })
  | gone {c : ℕ} : Moves s (.dropStream c) (s.setChannel c { s.channels c with alive := false })

theorem moves_of_step? {s t : GraphicsDrain} {e : DrainEvent} (h : s.step? e = some t) :
    Moves s e t := by
  unfold step? at h
  split at h
  · -- a frame is put into the queue, or dropped when it is full
    split_ifs at h with hopen hroom
    · obtain rfl := Option.some.inj h
      exact .queued hopen
    · obtain rfl := Option.some.inj h
      exact .dropped
  · obtain rfl := Option.some.inj h
    exact .closed
  · obtain rfl := Option.some.inj h
    exact .received ‹_› ‹_›
  · -- the drain ends only on a closed queue
    obtain ⟨hclosed, h⟩ := Option.ite_none_left_eq_some.mp h
    obtain rfl := Option.some.inj h
    exact .finished (Bool.eq_false_iff.mpr hclosed)
  · obtain rfl := Option.some.inj h
    exact .coalesced ‹_› ‹_›
  · obtain rfl := Option.some.inj h
    exact .emptied ‹_›
  · obtain rfl := Option.some.inj h
    exact .locked ‹_›
  · -- the send fails for good when the client is gone
    split_ifs at h with halive hroom
    · obtain rfl := Option.some.inj h
      exact .failed ‹_› halive
    · obtain rfl := Option.some.inj h
      exact .sent ‹_› ((Bool.not_eq_false _).mp halive)
  · -- a new client installs its channel
    split at h
    · cases h
    · next hdrain =>
        obtain rfl := Option.some.inj h
        exact .installed ‹_› hdrain
    · cases h
  · obtain ⟨-, h⟩ := Option.ite_none_right_eq_some.mp h
    obtain rfl := Option.some.inj h
    exact .taken
  · split at h
    · cases h
    · obtain ⟨-, h⟩ := Option.ite_none_right_eq_some.mp h
      obtain rfl := Option.some.inj h
      exact .delivered ‹_›
  · obtain ⟨-, h⟩ := Option.ite_none_right_eq_some.mp h
    obtain rfl := Option.some.inj h
    exact .gone
  · cases h

/-! ### No frame is lost while the task is there -/

/-- What the run keeps: an open queue has its drain task, and a drain task loses
nothing. -/
structure Sound (s : GraphicsDrain) : Prop where
  alive : s.queueOpen = true → s.drain ≠ .terminated
  accounted : s.drain ≠ .terminated → s.Accounted

theorem sound_init : init.Sound where
  alive _ := nofun
  accounted _ := fun _ _ hn => absurd hn (Nat.not_lt_zero _)

/-- A step that moves frames around and loses none. -/
theorem Sound.of_has {s t : GraphicsDrain} (h : s.Sound)
    (hopen : t.queueOpen = true → s.queueOpen = true)
    (hdrain : s.drain = .terminated ↔ t.drain = .terminated) (hmark : t.mark = s.mark)
    (haccepted : t.accepted = s.accepted) (hhas : ∀ n, s.Has n → t.Has n) : t.Sound where
  alive ht hterminated := h.alive (hopen ht) (hdrain.mpr hterminated)
  accounted hne n hm hn := by
    rw [hmark] at hm
    rw [haccepted] at hn
    exact hhas n (h.accounted (fun hterminated => hne (hdrain.mp hterminated)) n hm hn)

/-- Another content for a channel that keeps what went into it. -/
theorem has_setChannel {s : GraphicsDrain} {c : ℕ} {channel : UpdateChannel}
    (hsame : channel.delivered ++ channel.buffer =
      (s.channels c).delivered ++ (s.channels c).buffer) {n : ℕ} (h : s.Has n) :
    (s.setChannel c channel).Has n := by
  rcases h with hqueue | hheld | ⟨frames, hframes, hn⟩
  · exact .inl hqueue
  · exact .inr (.inl hheld)
  · refine .inr (.inr ⟨frames, ?_, hn⟩)
    show frames ∈ (Function.update s.channels c channel s.current).delivered ++
      (Function.update s.channels c channel s.current).buffer
    rcases eq_or_ne s.current c with hc | hc
    · rw [hc] at hframes ⊢
      rwa [Function.update_self, hsame]
    · rwa [Function.update_of_ne hc]

/-- What the drain task sends is in the channel. -/
theorem has_sent {s : GraphicsDrain} {frames : List ℕ} (hdrain : s.drain = .sending frames)
    {n : ℕ} (h : s.Has n) :
    ({ s with drain := .waiting }.setChannel s.current
      { s.channels s.current with
        buffer := (s.channels s.current).buffer ++ [frames] }).Has n := by
  have hchannel : ∀ update,
      update ∈ (s.channels s.current).delivered ++ ((s.channels s.current).buffer ++ [frames]) →
        n ∈ update → ({ s with drain := .waiting }.setChannel s.current
          { s.channels s.current with
            buffer := (s.channels s.current).buffer ++ [frames] }).Has n := by
    intro update hupdate hn
    refine .inr (.inr ⟨update, ?_, hn⟩)
    show update ∈ (Function.update s.channels s.current _ s.current).delivered ++
      (Function.update s.channels s.current _ s.current).buffer
    rwa [Function.update_self]
  rw [Has, hdrain] at h
  rcases h with hqueue | hheld | ⟨update, hupdate, hn⟩
  · exact .inl hqueue
  · exact hchannel frames (by simp) hheld
  · refine hchannel update ?_ hn
    rw [← List.append_assoc]
    exact List.mem_append_left _ hupdate

/-- Every step keeps it, unless the drain task sends into a channel without a
receiver while the queue is open. -/
theorem Sound.moves {s t : GraphicsDrain} {e : DrainEvent} (h : s.Sound)
    (hok : s.Received e) (hmoves : s.Moves e t) : t.Sound := by
  cases hmoves with
  | queued hopen =>
      refine ⟨fun _ => h.alive hopen, fun _ n hmark hn => ?_⟩
      rcases Nat.lt_succ_iff_lt_or_eq.mp hn with hn | rfl
      · rcases h.accounted (h.alive hopen) n hmark hn with hqueue | hrest
        · exact .inl (List.mem_append_left _ hqueue)
        · exact .inr hrest
      · exact .inl (List.mem_append_right _ (List.mem_singleton_self _))
  | dropped => exact h
  | closed => exact h.of_has nofun Iff.rfl rfl rfl fun _ hn => hn
  | received hdrain hqueue =>
      refine h.of_has id (by rw [hdrain]; exact ⟨nofun, nofun⟩) rfl rfl fun n hn => ?_
      rw [Has, hqueue, hdrain, List.mem_cons] at hn
      rcases hn with (rfl | hrest) | hheld | hchannel
      · exact .inr (.inl (List.mem_singleton_self _))
      · exact .inl hrest
      · cases hheld
      · exact .inr (.inr hchannel)
  | finished hclosed =>
      refine ⟨fun hopen => ?_, fun hne => absurd rfl hne⟩
      rw [hclosed] at hopen
      cases hopen
  | coalesced hdrain hqueue =>
      refine h.of_has id (by rw [hdrain]; exact ⟨nofun, nofun⟩) rfl rfl fun n hn => ?_
      rw [Has, hqueue, hdrain, List.mem_cons] at hn
      rcases hn with (rfl | hrest) | hheld | hchannel
      · exact .inr (.inl (List.mem_append_right _ (List.mem_singleton_self _)))
      · exact .inl hrest
      · exact .inr (.inl (List.mem_append_left _ hheld))
      · exact .inr (.inr hchannel)
  | emptied hdrain =>
      refine h.of_has id (by rw [hdrain]; exact ⟨nofun, nofun⟩) rfl rfl fun n hn => ?_
      rw [Has, hdrain] at hn
      exact hn
  | locked hdrain =>
      refine h.of_has id (by rw [hdrain]; exact ⟨nofun, nofun⟩) rfl rfl fun n hn => ?_
      rw [Has, hdrain] at hn
      exact hn
  | failed hdrain halive =>
      refine ⟨fun hopen => ?_, fun hne => absurd rfl hne⟩
      rw [hok _ hdrain hopen] at halive
      cases halive
  | sent hdrain halive =>
      exact h.of_has id (by rw [hdrain]; exact ⟨nofun, nofun⟩) rfl rfl fun n hn =>
        has_sent hdrain hn
  | installed hreceiver hdrain =>
      -- nothing has been queued since
      exact ⟨h.alive, fun _ n hmark hn => absurd hn (Nat.not_lt.mpr hmark)⟩
  | taken => exact h.of_has id Iff.rfl rfl rfl fun _ hn => hn
  | delivered hbuffer =>
      refine h.of_has id Iff.rfl rfl rfl fun n hn => has_setChannel ?_ hn
      rw [hbuffer, List.append_assoc, List.singleton_append]
  | gone =>
      refine h.of_has id Iff.rfl rfl rfl fun n hn => has_setChannel ?_ hn
      rfl

theorem Sound.step {s : GraphicsDrain} {e : DrainEvent} (h : s.Sound) (hok : s.Received e) :
    (s.step e).Sound := by
  unfold GraphicsDrain.step
  rcases hstep : s.step? e with - | t
  · exact h
  · exact h.moves hok (moves_of_step? hstep)

/-- A send into a channel without a receiver ends the task. -/
theorem received_of_serves {s : GraphicsDrain} {e : DrainEvent} (h : (s.step e).Serves) :
    s.Received e := by
  cases e with
  | send =>
      intro frames hdrain hopen
      by_contra halive
      have hstep : s.step .send = { s with drain := .terminated } := by
        simp only [GraphicsDrain.step, step?, hdrain, Bool.eq_false_iff.mpr halive, if_true,
          Option.getD_some]
      rw [hstep] at h
      exact (h hopen).1 rfl
  | _ => trivial

/-! ### Every frame can be delivered -/

/-- How far the frames on their way still have to go. -/
def distance (s : GraphicsDrain) : ℕ :=
  5 * s.queue.length + s.receiver.toNat + (s.channels s.current).buffer.length +
    match s.drain with
    | .coalescing _ => 4
    | .locking _ => 3
    | .sending _ => 2
    | .waiting => 0
    | .terminated => 0

/-- The newest stream, or its receiver, is there and so is the drain task. -/
structure Live (s : GraphicsDrain) : Prop where
  sound : s.Sound
  drain : s.drain ≠ .terminated
  stream : (s.channels s.current).alive = true

/-- The step brings what is on its way nearer, and nothing else happens. -/
def Advances (s : GraphicsDrain) (e : DrainEvent) : Prop :=
  (s.step e).Live ∧ (s.step e).distance < s.distance ∧
    (s.step e).mark = s.mark ∧ (s.step e).accepted = s.accepted

theorem Live.advances {s t : GraphicsDrain} {e : DrainEvent} (h : s.Live)
    (hstep : s.step? e = some t) (hdrain : t.drain ≠ .terminated)
    (hstream : (t.channels t.current).alive = true) (hlt : t.distance < s.distance)
    (hmark : t.mark = s.mark) (haccepted : t.accepted = s.accepted) : s.Advances e := by
  have hok : s.Received e := by
    cases e with
    | send => exact fun _ _ _ => h.stream
    | _ => trivial
  have hsound := h.sound.step hok
  have ht : s.step e = t := by
    rw [GraphicsDrain.step, hstep, Option.getD_some]
  rw [Advances, ht]
  rw [ht] at hsound
  exact ⟨⟨hsound, hdrain, hstream⟩, hlt, hmark, haccepted⟩

/-- While anything is on its way, some step brings it nearer: the stream is handed out,
the client reads, and then it is the drain task's turn. -/
theorem Live.exists_advances {s : GraphicsDrain} (h : s.Live) (hpos : 0 < s.distance) :
    ∃ e, s.Advances e := by
  have hstream := h.stream
  cases hreceiver : s.receiver
  · rcases hbuffer : (s.channels s.current).buffer with - | ⟨update, buffer⟩
    · rcases hdrain : s.drain with - | frames | frames | frames | -
      · rcases hqueue : s.queue with - | ⟨n, queue⟩
        · -- nothing is on its way
          simp only [distance, hqueue, hreceiver, hbuffer, hdrain] at hpos
          cases hpos
        · refine ⟨.recv, h.advances (t := { s with queue, drain := .coalescing [n] }) ?_ nofun
            hstream ?_ rfl rfl⟩
          · simp only [step?, hdrain, hqueue]
          · simp only [distance, hqueue, hdrain, List.length_cons]
            omega
      · rcases hqueue : s.queue with - | ⟨n, queue⟩
        · refine ⟨.tryRecvEmpty, h.advances (t := { s with drain := .locking frames }) ?_ nofun
            hstream ?_ rfl rfl⟩
          · simp only [step?, hdrain, hqueue]
          · simp only [distance, hdrain]
            omega
        · refine ⟨.tryRecv, h.advances
            (t := { s with queue, drain := .coalescing (frames ++ [n]) }) ?_ nofun
            hstream ?_ rfl rfl⟩
          · simp only [step?, hdrain, hqueue]
          · simp only [distance, hqueue, hdrain, List.length_cons]
            omega
      · refine ⟨.lock, h.advances (t := { s with drain := .sending frames }) ?_ nofun
          hstream ?_ rfl rfl⟩
        · simp only [step?, hdrain]
        · simp only [distance, hdrain]
          omega
      · have hcurrent := current_setChannel { s with drain := .waiting }
          { s.channels s.current with buffer := [frames] }
        refine ⟨.send, h.advances (t := { s with drain := .waiting }.setChannel s.current
          { s.channels s.current with buffer := [frames] }) ?_ ?_ ?_ ?_ rfl rfl⟩
        · simp only [step?, hdrain, hstream, hbuffer, Bool.true_eq_false, if_false,
            List.length_nil, List.nil_append, room, Nat.zero_lt_succ, if_true]
        · show DrainLoop.waiting ≠ .terminated
          nofun
        · exact (congrArg UpdateChannel.alive hcurrent).trans hstream
        · have hlen := congrArg (fun c => c.buffer.length) hcurrent
          simp only [List.length_singleton, setChannel] at hlen
          simp only [distance, hdrain, hbuffer, List.length_nil, setChannel, hlen]
          omega
      · exact absurd hdrain h.drain
    · have hcurrent := current_setChannel s { s.channels s.current with
        buffer, delivered := (s.channels s.current).delivered ++ [update] }
      refine ⟨.deliver s.current, h.advances (t := s.setChannel s.current
        { s.channels s.current with
          buffer, delivered := (s.channels s.current).delivered ++ [update] }) ?_ h.drain ?_ ?_
        rfl rfl⟩
      · have hstreamed : s.streamed s.current = true := by
          simp only [streamed, hreceiver, hstream, decide_true, Bool.not_false, Bool.and_true,
            Bool.or_true]
        simp only [step?, hbuffer, hstreamed, if_true]
      · exact (congrArg UpdateChannel.alive hcurrent).trans hstream
      · have hlen := congrArg (fun c => c.buffer.length) hcurrent
        simp only [setChannel] at hlen
        simp only [distance, hbuffer, List.length_cons, setChannel, hlen]
        omega
  · refine ⟨.take, h.advances (t := { s with receiver := false }) ?_ h.drain hstream ?_ rfl rfl⟩
    · simp only [step?, hreceiver, if_true]
    · simp only [distance, hreceiver, Bool.toNat_true, Bool.toNat_false]
      omega

/-- **Every frame can be delivered**: as long as the drain task and the newest stream are
there, they can bring every frame queued since to that stream's client. -/
theorem Live.can_deliver {s : GraphicsDrain} (h : s.Live) :
    ∃ es : List DrainEvent, ∀ n, s.mark ≤ n → n < s.accepted →
      (es.foldl GraphicsDrain.step s).Delivered n := by
  induction hd : s.distance using Nat.strongRecOn generalizing s with
  | ind d ih =>
      rcases Nat.eq_zero_or_pos s.distance with hzero | hpos
      · refine ⟨[], fun n hmark hn => ?_⟩
        have hqueue : s.queue = [] := by
          apply List.length_eq_zero_iff.mp
          rw [distance] at hzero
          omega
        have hbuffer : (s.channels s.current).buffer = [] := by
          apply List.length_eq_zero_iff.mp
          rw [distance] at hzero
          omega
        have hheld : s.drain.held = [] := by
          cases hdrain : s.drain with
          | waiting => rfl
          | terminated => rfl
          | coalescing frames | locking frames | sending frames =>
              simp only [distance, hdrain] at hzero
              omega
        rcases h.sound.accounted h.drain n hmark hn with hn | hn | ⟨frames, hframes, hn⟩
        · rw [hqueue] at hn
          cases hn
        · rw [hheld] at hn
          cases hn
        · rw [hbuffer, List.append_nil] at hframes
          exact ⟨frames, hframes, hn⟩
      · obtain ⟨e, hlive, hlt, hmark, haccepted⟩ := h.exists_advances hpos
        obtain ⟨es, hes⟩ := ih _ (hd ▸ hlt) hlive rfl
        rw [hmark, haccepted] at hes
        exact ⟨e :: es, hes⟩

theorem Sound.serves {s : GraphicsDrain} (h : s.Sound) : s.Serves := by
  intro hopen
  have hdrain := h.alive hopen
  exact ⟨hdrain, h.accounted hdrain, fun hstream => Live.can_deliver ⟨h, hdrain, hstream⟩⟩

end GraphicsDrain

/-- **When the graphics drain survives**: in every schedule of the drain task, the
pipeline, the clients and `updates()`, the task is there as long as the queue is open,
and every frame queued since the newest `updates()` can be brought to that call's
client, exactly if the drain task never sends into a channel whose stream has been
dropped. -/
theorem graphics_drain_serves_iff (es : List DrainEvent) :
    (∀ n, (after GraphicsDrain.step .init es n).Serves) ↔
      ∀ n e, es[n]? = some e → (after GraphicsDrain.step .init es n).Received e :=
  after_property_iff GraphicsDrain.sound_init (fun _ h => h.serves)
    (fun _ _ h hok => h.step hok) (fun _ _ _ h => GraphicsDrain.received_of_serves h) es

/-- A frame is drained between a client's leaving and the next one's `updates()`: the
send fails, the task ends, and the frame queued for the new client stays in the queue. -/
theorem graphics_drain_lost :
    let s := after GraphicsDrain.step .init
      [.take, .queueFrame, .dropStream 0, .recv, .tryRecvEmpty, .lock, .send, .install, .take,
        .queueFrame, .recv] 11
    s.queueOpen = true ∧ s.drain = .terminated ∧ s.current = 1 ∧ s.mark = 1 ∧ s.queue = [1] :=
  ⟨rfl, rfl, rfl, rfl, rfl⟩

end LamcoRdp
