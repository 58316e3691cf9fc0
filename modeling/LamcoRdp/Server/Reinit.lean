/-
LamcoRdp/Server/Reinit.lean

Mid-session re-initialisation.

A client whose decoder lost sync advertises its capabilities again on a channel
that is already ready.  It forgets every frame in flight and acknowledges none
of them.  The callback raises `needs_full_reinit`; the display loop takes the
flag down at the start of its next iteration, re-creates encoder and surface
and should then send a keyframe.

Neither side calls `clear_all_unacked` (only `SharedHandlerState::reset` does),
so the frames the client has forgotten stay in the flow controller.  The
release holds when there were none: `ReinitOk`.
-/
import LamcoRdp.Egfx.Handler
import LamcoRdp.Egfx.FlowRace

namespace LamcoRdp

open Runs FlowController

/-! ### The system -/

/-- Where the display loop stands in its iteration. -/
inductive IterPos
  /-- before `needs_full_reinit` is taken down -/
  | top
  /-- after that, before the throttle check -/
  | beforeThrottle
  /-- the throttle check let the frame pass -/
  | mayEncode
  /-- the send returned this id, `unack_frame` is still to be called -/
  | awaitingUnack (frameId : ℕ)
  deriving DecidableEq, Repr

/-- The loop stands between a send and its `unack_frame`. -/
def IterPos.awaiting : IterPos → Bool
  | .awaitingUnack _ => true
  | _ => false

/-- Channel callbacks and display loop around the shared state.  `sentBefore`
and `sentSince` are the frames of this connection sent before and after its
last re-advertise. -/
structure ReinitState where
  handler : LamcoGraphicsHandler
  shared : SharedHandlerState
  pos : IterPos
  sentBefore : List ℕ
  sentSince : List ℕ
  now : ℕ
  deriving DecidableEq, Repr

/-- A step of the channel thread or of the display loop, or a new client. -/
inductive ReinitEvent
  /-- DVC thread: any callback but the acknowledgement -/
  | callback (cb : Callback)
  /-- DVC thread: `on_frame_ack`; the client acknowledges no forgotten frame -/
  | frameAck (frameId queueDepth totalFramesDecoded : ℕ) (clock : Clock)
  /-- `build_server_with_handle`: a new client -/
  | newConnection (forceAvc420Only : Bool) (maxFramesInFlight : ℕ)
  /-- the reset in `updates` -/
  | updates
  /-- NetworkAutoDetect -/
  | autodetectRtt (value : Option ℕ)
  /-- display loop: `needs_full_reinit.swap(false)` -/
  | consumeReinit
  /-- display loop: any `continue` before a frame is sent -/
  | continueLoop
  /-- display loop: the throttle check -/
  | checkThrottle
  /-- display loop: the send returned this id -/
  | sendFrame (frameId : ℕ)
  /-- display loop: `unack_frame` -/
  | unackFrame (frameId : ℕ) (clock : Clock)
  deriving DecidableEq, Repr

namespace ReinitState

/-- A new handler, and no frame sent. -/
def init (forceAvc420Only : Bool) (maxFramesInFlight : ℕ) : ReinitState where
  handler := .withConfig forceAvc420Only maxFramesInFlight
  shared := .new
  pos := .top
  sentBefore := []
  sentSince := []
  now := 0

/-- A callback; a re-advertise makes the client forget the frames sent so far. -/
def callback (s : ReinitState) (cb : Callback) : ReinitState :=
  let (handler, stores) := s.handler.call cb
  let again := cb.readvertises s.handler
  { s with
    handler := handler
    shared := stores s.shared
    sentBefore := if again then s.sentBefore ++ s.sentSince else s.sentBefore
    sentSince := if again then [] else s.sentSince }

/-- One step of one party; `none` where the event cannot happen. -/
def step (s : ReinitState) : ReinitEvent → Option ReinitState
  | .callback cb => some (s.callback cb)
  | .frameAck frameId queueDepth totalFramesDecoded clock =>
      if frameId ∈ s.sentSince ∧ clock.After s.now then
        let (handler, stores) :=
          s.handler.onFrameAck frameId queueDepth totalFramesDecoded clock
        some { s with handler := handler, shared := stores s.shared, now := clock.rates }
      else none
  | .newConnection forceAvc420Only maxFramesInFlight =>
      some { s with
        handler := .withConfig forceAvc420Only maxFramesInFlight
        shared := s.shared.reset
        sentBefore := []
        sentSince := [] }
  | .updates => some { s with shared := s.shared.reset }
  | .autodetectRtt value =>
      some { s with shared := { s.shared with
        flowController := { s.shared.flowController with autodetectRtt := value } } }
  | .consumeReinit =>
      if s.pos = .top then
        some { s with shared := { s.shared with needsFullReinit := false }
                      pos := .beforeThrottle }
      else none
  | .continueLoop =>
      if s.pos = .beforeThrottle ∨ s.pos = .mayEncode then some { s with pos := .top } else none
  | .checkThrottle =>
      if s.pos = .beforeThrottle then
        if s.shared.flowController.shouldThrottle then some { s with pos := .top }
        else some { s with pos := .mayEncode }
      else none
  | .sendFrame frameId =>
      if s.pos = .mayEncode ∧ frameId ∉ s.sentBefore ∧ frameId ∉ s.sentSince then
        some { s with pos := .awaitingUnack frameId, sentSince := s.sentSince ++ [frameId] }
      else none
  | .unackFrame frameId clock =>
      if s.pos = .awaitingUnack frameId ∧ clock.After s.now then
        some { s with
          shared := { s.shared with
            flowController := s.shared.flowController.unackFrame frameId 1 clock }
          pos := .top
          now := clock.rates }
      else none

end ReinitState

/-- Every interleaving. -/
abbrev ReinitStep := StepOf ReinitState.step

/-- A re-advertise finds no frame counted as outstanding, and the display loop
not between a send and its `unack_frame`. -/
def ReinitOk (s : ReinitState) : ReinitEvent → Prop
  | .callback cb => cb.readvertises s.handler = true →
      s.shared.flowController.unackedCount = 0 ∧ s.pos.awaiting = false
  | _ => True

instance : ∀ (s : ReinitState) (e : ReinitEvent), Decidable (ReinitOk s e)
  | _, .callback _ => inferInstanceAs (Decidable (_ → _ ∧ _))
  | _, .frameAck .. | _, .newConnection .. | _, .updates | _, .autodetectRtt _
  | _, .consumeReinit | _, .continueLoop | _, .checkThrottle | _, .sendFrame _
  | _, .unackFrame .. => isTrue trivial

/-- No frame the client has forgotten counts as outstanding, and the encoder may
run. -/
def ReinitState.Released (s : ReinitState) : Prop :=
  (∀ f ∈ s.shared.flowController.frames, f.ackedAt = none → f.frameId ∉ s.sentBefore) ∧
    s.shared.flowController.shouldThrottle = false

/-! ### The flow controller while it is inactive -/

theorem unackedCount_le_of_countP {fc fc' : FlowController} {k : ℕ}
    (h : fc'.frames.countP (fun f => f.ackedAt.isNone)
      ≤ fc.frames.countP (fun f => f.ackedAt.isNone) + k) :
    fc'.unackedCount ≤ fc.unackedCount + k := by
  unfold unackedCount
  omega

theorem unackFrame_unackedCount_le (fc : FlowController) (frameId nSubframes : ℕ)
    (clock : Clock) :
    (fc.unackFrame frameId nSubframes clock).unackedCount ≤ fc.unackedCount + 1 := by
  refine unackedCount_le_of_countP ?_
  rw [unackFrame_frames, List.countP_append]
  refine Nat.add_le_add ?_ List.countP_le_length
  exact (List.drop_sublist _ _).countP_le

/-- Below the threshold, one more frame leaves the controller inactive. -/
theorem unackFrame_inactive {fc : FlowController} (hst : fc.state = .inactive)
    (frameId nSubframes : ℕ) (clock : Clock)
    (hlt : fc.unackedCount + 1 < fc.config.activateThFloor) :
    (fc.unackFrame frameId nSubframes clock).state = .inactive := by
  have hcount := unackFrame_unackedCount_le fc frameId nSubframes clock
  have hframes := advanceOnUnack_frames (fc.pushFrame frameId nSubframes clock.entry) clock
  unfold unackFrame at hcount ⊢
  have hp : (fc.pushFrame frameId nSubframes clock.entry).state = .inactive := hst
  have hfloor : fc.config.activateThFloor
      ≤ (fc.pushFrame frameId nSubframes clock.entry).adaptiveThreshold clock.rtt :=
    (adaptiveThreshold_bounds (fc.pushFrame frameId nSubframes clock.entry) clock.rtt).1
  generalize fc.pushFrame frameId nSubframes clock.entry = p at *
  have hpc : (p.advanceOnUnack clock).unackedCount = p.unackedCount := by
    unfold unackedCount
    rw [hframes]
  obtain ⟨-, -, he⟩ | ⟨-, hth, -⟩ | ⟨hne, -⟩ | ⟨hne, -⟩ | ⟨hne, -⟩ := advanceOnUnack_cases p clock
  · rw [he]
    exact hp
  · omega
  all_goals exact absurd (hp.symm.trans hne) (by decide)

theorem ackFrame_inactive {fc : FlowController} (hst : fc.state = .inactive) (frameId : ℕ)
    (clock : Clock) : (fc.ackFrame frameId clock).state = .inactive := by
  unfold ackFrame
  have hq : (fc.recordAck frameId clock.entry).state = .inactive := by
    obtain ⟨_, _, hq⟩ := recordAck_eq fc frameId clock.entry
    rw [hq]
    exact hst
  obtain ⟨-, he⟩ | ⟨hne, -⟩ | ⟨hne, -⟩ :=
    advanceOnAck_cases (fc.recordAck frameId clock.entry) clock
  · rw [he]
    exact hq
  · exact absurd hq hne
  · exact absurd hq hne

/-- What is unmarked after the search loop was unmarked before. -/
theorem markAcked_unacked_sublist (frameId now : ℕ) (l : List FrameRecord) :
    ((markAcked frameId now l).1.filter fun f => f.ackedAt.isNone).Sublist
      (l.filter fun f => f.ackedAt.isNone) := by
  induction l with
  | nil => exact List.Sublist.refl _
  | cons f rest ih =>
      unfold markAcked
      split
      · next h =>
          rw [List.filter_cons_of_neg (by simp), List.filter_cons_of_pos (by simp [h.2])]
          exact List.sublist_cons_self _ _
      · show ((f :: (markAcked frameId now rest).1).filter _).Sublist _
        rw [List.filter_cons, List.filter_cons]
        split
        · exact ih.cons_cons f
        · exact ih

theorem ackFrame_unackedCount_le (fc : FlowController) (frameId : ℕ) (clock : Clock) :
    (fc.ackFrame frameId clock).unackedCount ≤ fc.unackedCount := by
  refine unackedCount_le_of_countP (k := 0) ?_
  rw [ackFrame_frames, List.countP_eq_length_filter, List.countP_eq_length_filter]
  exact (markAcked_unacked_sublist _ _ _).length_le

theorem ackFrame_unacked_mem {fc : FlowController} {frameId : ℕ} {clock : Clock}
    {f : FrameRecord} (hf : f ∈ (fc.ackFrame frameId clock).frames) (hn : f.ackedAt = none) :
    f ∈ fc.frames := by
  rw [ackFrame_frames] at hf
  have hmem : f ∈ (markAcked frameId clock.entry fc.frames).1.filter fun f => f.ackedAt.isNone :=
    List.mem_filter.mpr ⟨hf, by simp [hn]⟩
  exact (List.mem_filter.mp ((markAcked_unacked_sublist _ _ _).subset hmem)).1

/-! ### The invariant -/

/-- While a re-init is pending: only frames sent since the re-advertise are
outstanding or about to be, the controller is inactive, and the iteration that
was under way when the client re-advertised has added at most one frame. -/
structure ReinitPending (s : ReinitState) : Prop where
  outstanding : ∀ f ∈ s.shared.flowController.frames, f.ackedAt = none →
    f.frameId ∈ s.sentSince
  awaiting : ∀ id, s.pos = .awaitingUnack id → id ∈ s.sentSince
  inactive : s.shared.flowController.state = .inactive
  count_le : s.shared.flowController.unackedCount ≤ if s.pos = .top then 1 else 0

/-- What holds in every run. -/
structure ReinitInv (s : ReinitState) : Prop where
  config : s.shared.flowController.config = .default
  flow : s.shared.flowController.FlowInv
  disjoint : ∀ id ∈ s.sentSince, id ∉ s.sentBefore
  pending : s.shared.needsFullReinit = true → ReinitPending s

/-- A step that keeps controller and sent frames, and does not raise the flag. -/
theorem ReinitInv.keep {s t : ReinitState} (h : ReinitInv s)
    (hfc : t.shared.flowController = s.shared.flowController)
    (hbefore : t.sentBefore = s.sentBefore) (hsince : t.sentSince = s.sentSince)
    (hflag : t.shared.needsFullReinit = true → s.shared.needsFullReinit = true)
    (hpos : t.shared.needsFullReinit = true → t.pos = s.pos ∨
      (s.pos ≠ .top ∧ ∀ id, t.pos ≠ .awaitingUnack id)) : ReinitInv t := by
  refine ⟨hfc ▸ h.config, hfc ▸ h.flow, ?_, fun hf => ?_⟩
  · rw [hbefore, hsince]
    exact h.disjoint
  · -- while a reinit is pending the outstanding frames are those sent since
    have hp := h.pending (hflag hf)
    refine ⟨?_, ?_, ?_, ?_⟩
    · rw [hfc, hsince]
      exact hp.outstanding
    · rcases hpos hf with he | ⟨-, hne⟩
      · rw [he, hsince]
        exact hp.awaiting
      · exact fun id hid => absurd hid (hne id)
    · rw [hfc]
      exact hp.inactive
    · rw [hfc]
      -- the bound on the count is that of the position, or zero
      rcases hpos hf with he | ⟨hne, -⟩
      · rw [he]
        exact hp.count_le
      · have hzero := hp.count_le
        rw [if_neg hne] at hzero
        exact hzero.trans (Nat.zero_le _)

/-- A callback that meets the condition. -/
theorem ReinitInv.callback {s : ReinitState} (h : ReinitInv s) (cb : Callback)
    (hok : ReinitOk s (.callback cb)) : ReinitInv (s.callback cb) := by
  have hfc : (s.callback cb).shared.flowController = s.shared.flowController :=
    s.handler.call_flowController cb s.shared
  have hflag : (s.callback cb).shared.needsFullReinit
      = (cb.readvertises s.handler || s.shared.needsFullReinit) :=
    s.handler.call_needsFullReinit cb s.shared
  have hpos : (s.callback cb).pos = s.pos := rfl
  have hsince : (s.callback cb).sentSince
      = if cb.readvertises s.handler then [] else s.sentSince := rfl
  have hbefore : (s.callback cb).sentBefore
      = if cb.readvertises s.handler then s.sentBefore ++ s.sentSince else s.sentBefore := rfl
  cases hagain : cb.readvertises s.handler with
  -- no new advertisement: nothing moves
  | false =>
      rw [hagain] at hflag hsince hbefore
      refine h.keep hfc hbefore hsince (fun hf => ?_) (fun _ => .inl hpos)
      rw [hflag] at hf
      exact hf
  -- a new one: the guard says that no frame is outstanding
  | true =>
      obtain ⟨hzero, hnot⟩ := hok hagain
      rw [hagain] at hsince
      refine ⟨hfc ▸ h.config, hfc ▸ h.flow, ?_, fun _ => ⟨?_, ?_, ?_, ?_⟩⟩
      · rw [hsince]
        exact fun id hid => absurd hid (List.not_mem_nil)
      · rw [hfc]
        intro f hf hn
        have hpos := (unackedCount_pos_iff _).mpr ⟨f, hf, hn⟩
        omega
      · rw [hpos]
        intro id hid
        rw [hid] at hnot
        exact absurd hnot (by simp [IterPos.awaiting])
      · rw [hfc]
        by_contra hne
        have hout := h.flow.outstanding hne
        omega
      · rw [hfc, hzero]
        exact Nat.zero_le _

theorem ReinitInv.frameAck {s : ReinitState} (h : ReinitInv s) (id : ℕ) (clock : Clock)
    {t : ReinitState}
    (hfc : t.shared.flowController = s.shared.flowController.ackFrame id clock)
    (hflag : t.shared.needsFullReinit = s.shared.needsFullReinit) (hpos : t.pos = s.pos)
    (hbefore : t.sentBefore = s.sentBefore) (hsince : t.sentSince = s.sentSince) :
    ReinitInv t := by
  refine ⟨?_, ?_, ?_, fun hf => ⟨?_, ?_, ?_, ?_⟩⟩
  · rw [hfc]
    exact (apply_config _ (.ackFrame id clock)).trans h.config
  · rw [hfc]
    exact flowInv_ackFrame h.flow (by rw [h.config]; decide) id clock
  · rw [hbefore, hsince]
    exact h.disjoint
  all_goals have hp := h.pending (hflag ▸ hf)
  · rw [hfc, hsince]
    exact fun f hmem hn => hp.outstanding f (ackFrame_unacked_mem hmem hn) hn
  · rw [hpos, hsince]
    exact hp.awaiting
  · rw [hfc]
    exact ackFrame_inactive hp.inactive id clock
  · rw [hfc, hpos]
    exact (ackFrame_unackedCount_le _ id clock).trans hp.count_le

theorem ReinitInv.unackFrame {s : ReinitState} (h : ReinitInv s) (id : ℕ) (clock : Clock)
    (hpos : s.pos = .awaitingUnack id) :
    ReinitInv { s with
      shared := { s.shared with
        flowController := s.shared.flowController.unackFrame id 1 clock }
      pos := .top
      now := clock.rates } := by
  refine ⟨?_, ?_, h.disjoint, fun hf => ?_⟩
  · exact (apply_config _ (.unackFrame id 1 clock)).trans h.config
  · exact flowInv_unackFrame h.flow id 1 clock
  · have hp := h.pending hf
    have hcount := hp.count_le
    rw [hpos, if_neg (by simp)] at hcount
    refine ⟨?_, by simp, ?_, ?_⟩
    · intro f hmem hn
      replace hmem : f ∈ (s.shared.flowController.unackFrame id 1 clock).frames := hmem
      rw [unackFrame_frames] at hmem
      rcases List.mem_append.mp hmem with hmem | hmem
      · exact hp.outstanding f (List.mem_of_mem_drop hmem) hn
      · rw [List.mem_singleton.mp hmem]
        exact hp.awaiting id hpos
    · -- at most one frame is outstanding now, and the default floor is two
      refine unackFrame_inactive hp.inactive id 1 clock ?_
      rw [h.config]
      have hfloor : FlowControllerConfig.default.activateThFloor = 2 := rfl
      omega
    · have hle := unackFrame_unackedCount_le s.shared.flowController id 1 clock
      show (s.shared.flowController.unackFrame id 1 clock).unackedCount ≤ 1
      omega

theorem ReinitInv.reset {s t : ReinitState} (h : ReinitInv s)
    (hshared : t.shared = s.shared.reset)
    (hdisj : ∀ id ∈ t.sentSince, id ∉ t.sentBefore) : ReinitInv t := by
  refine ⟨?_, ?_, hdisj, ?_⟩
  · rw [hshared]
    exact h.config
  · rw [hshared]
    exact flowInv_clearAllUnacked _
  · rw [hshared]
    intro hf
    exact absurd hf (by simp [SharedHandlerState.reset])

/-- The step lemma. -/
theorem reinitInv_step {s t : ReinitState} {e : ReinitEvent} (h : ReinitInv s)
    (hst : Guarded ReinitStep ReinitOk s e t) : ReinitInv t := by
  obtain ⟨hst, hok⟩ := hst
  replace hst : s.step e = some t := hst
  cases e with
  -- the callback, with its guard
  | callback cb =>
      obtain rfl := Option.some.inj hst
      exact h.callback cb hok
  | frameAck id q n clock =>
      simp only [ReinitState.step, Option.ite_none_right_eq_some] at hst
      obtain ⟨-, rfl⟩ := hst.imp_right Option.some.inj
      exact h.frameAck id clock rfl rfl rfl rfl rfl
  | newConnection force maxFrames =>
      obtain rfl := Option.some.inj hst
      exact h.reset rfl (fun id hid => absurd hid List.not_mem_nil)
  | updates =>
      obtain rfl := Option.some.inj hst
      exact h.reset rfl h.disjoint
  | autodetectRtt value =>
      obtain rfl := Option.some.inj hst
      refine ⟨h.config, flowInv_apply h.flow (by rw [h.config]; decide) (.autodetectRtt value),
        h.disjoint, fun hf => ?_⟩
      have hp := h.pending hf
      exact ⟨hp.outstanding, hp.awaiting, hp.inactive, hp.count_le⟩
  -- the loop consumes the flag
  | consumeReinit =>
      simp only [ReinitState.step, Option.ite_none_right_eq_some] at hst
      obtain ⟨-, rfl⟩ := hst.imp_right Option.some.inj
      exact h.keep rfl rfl rfl (by simp) (by simp)
  | continueLoop =>
      simp only [ReinitState.step, Option.ite_none_right_eq_some] at hst
      obtain ⟨hpos, rfl⟩ := hst.imp_right Option.some.inj
      refine h.keep rfl rfl rfl id (fun _ => .inr ⟨?_, by simp⟩)
      rcases hpos with hpos | hpos <;> simp [hpos]
  | checkThrottle =>
      simp only [ReinitState.step] at hst
      split at hst
      · next hpos =>
          split at hst
          all_goals
            obtain rfl := Option.some.inj hst
            exact h.keep rfl rfl rfl id (fun _ => .inr ⟨by simp [hpos], by simp⟩)
      · exact absurd hst (by simp)
  -- past the throttle a frame is sent, under a new id
  | sendFrame id =>
      simp only [ReinitState.step, Option.ite_none_right_eq_some] at hst
      obtain ⟨⟨hpos, hbefore, -⟩, rfl⟩ := hst.imp_right Option.some.inj
      refine ⟨h.config, h.flow, ?_, fun hf => ?_⟩
      · intro i hi
        rcases List.mem_append.mp hi with hi | hi
        · exact h.disjoint i hi
        · rw [List.mem_singleton.mp hi]
          exact hbefore
      · -- so the count is zero, and the new frame is among those sent since
        have hp := h.pending hf
        have hcount := hp.count_le
        rw [hpos, if_neg (by simp)] at hcount
        refine ⟨fun f hmem hn => List.mem_append_left _ (hp.outstanding f hmem hn), ?_,
          hp.inactive, hcount.trans (Nat.zero_le _)⟩
        intro i hi
        obtain rfl : id = i := by simpa using hi
        exact List.mem_append_right _ (List.mem_singleton_self id)
  | unackFrame id clock =>
      simp only [ReinitState.step, Option.ite_none_right_eq_some] at hst
      obtain ⟨⟨hpos, -⟩, rfl⟩ := hst.imp_right Option.some.inj
      exact h.unackFrame id clock hpos

theorem reinitInv_init (force : Bool) (maxFrames : ℕ) :
    ReinitInv (ReinitState.init force maxFrames) where
  config := rfl
  flow := flowInv_new .default
  disjoint := by simp [ReinitState.init]
  pending := by simp [ReinitState.init, SharedHandlerState.new]

/-- **Re-initialisation releases flow control** in every run in which each
re-advertise on a ready channel finds nothing outstanding and the display loop
not between a send and its `unack_frame`: when the loop takes the flag down, no
frame sent before the re-advertise counts as outstanding, and the throttle check
that follows lets the fresh keyframe pass. -/
theorem reinit_releases_flow_control (force : Bool) (maxFrames : ℕ) (es : List ReinitEvent)
    (s : ReinitState)
    (h : Run (Guarded ReinitStep ReinitOk) (ReinitState.init force maxFrames) es s)
    (hflag : s.shared.needsFullReinit = true) (t : ReinitState)
    (hconsume : s.step .consumeReinit = some t) :
    t.Released ∧ t.step .checkThrottle = some { t with pos := .mayEncode } := by
  have hinv : ReinitInv s :=
    h.invariant (reinitInv_init force maxFrames) fun hi hst => reinitInv_step hi hst
  have hp := hinv.pending hflag
  simp only [ReinitState.step, Option.ite_none_right_eq_some] at hconsume
  obtain ⟨-, rfl⟩ := hconsume.imp_right Option.some.inj
  have hthrottle : s.shared.flowController.shouldThrottle = false := by
    unfold shouldThrottle
    rw [hinv.flow.inactive_iff.mp hp.inactive]
    rfl
  refine ⟨⟨fun f hf hn => hinv.disjoint _ (hp.outstanding f hf hn), hthrottle⟩, ?_⟩
  simp [ReinitState.step, hthrottle]

/-! ### The frames the client has forgotten -/

/-- Channel set-up: capabilities, confirmation, surface. -/
def channelSetup : List ReinitEvent :=
  [.callback (.capabilitiesAdvertise [some (.v10 false)]), .callback (.onReady (.v10 false)),
    .callback (.onSurfaceCreated 1)]

/-- One iteration of the display loop that sends a frame. -/
def sentIteration (id : ℕ) : List ReinitEvent :=
  [.consumeReinit, .checkThrottle, .sendFrame id, .unackFrame id ⟨0, 0, 0⟩]

/-- The client advertises its capabilities again. -/
def readvertise : List ReinitEvent :=
  [.callback (.capabilitiesAdvertise [some (.v10 false)]), .callback (.onReady (.v10 false))]

/-- Three frames in flight when the client re-advertises. -/
def forgottenFrames : List ReinitEvent :=
  channelSetup ++ sentIteration 1 ++ sentIteration 2 ++ sentIteration 3 ++ readvertise

/-- The loop takes the flag down and still finds the encoder stopped, by frames
the client will never acknowledge. -/
theorem reinit_keeps_forgotten_frames :
    ¬ ∀ (force : Bool) (maxFrames : ℕ) (es : List ReinitEvent) (s t : ReinitState),
      Run ReinitStep (ReinitState.init force maxFrames) es s →
      s.shared.needsFullReinit = true → s.step .consumeReinit = some t → t.Released := by
  intro hall
  obtain ⟨s, t, hs, hflag, ht, hthrottle⟩ :
      ∃ s t, forgottenFrames.foldlM ReinitState.step (ReinitState.init false 3) = some s ∧
        s.shared.needsFullReinit = true ∧ s.step .consumeReinit = some t ∧
        t.shared.flowController.shouldThrottle = true := by
    refine ⟨_, _, rfl, ?_, rfl, ?_⟩ <;> decide
  have hrel := hall false 3 _ s t (Run.of_foldlM hs) hflag ht
  exact absurd (hrel.2.symm.trans hthrottle) (by decide)

/-- One frame, acknowledged before the client re-advertises. -/
def settledFrame : List ReinitEvent :=
  channelSetup ++ sentIteration 1 ++ [.frameAck 1 0 1 ⟨0, 0, 0⟩] ++ readvertise

theorem reinit_releases_flow_control_settled :
    ∃ s t, Run (Guarded ReinitStep ReinitOk) (ReinitState.init false 3) settledFrame s ∧
      s.shared.needsFullReinit = true ∧ s.step .consumeReinit = some t ∧ t.Released := by
  obtain ⟨s, t, hs, hflag, ht⟩ :
      ∃ s t, settledFrame.foldlM (guardStep ReinitState.step ReinitOk)
          (ReinitState.init false 3) = some s ∧
        s.shared.needsFullReinit = true ∧ s.step .consumeReinit = some t := by
    refine ⟨_, _, rfl, ?_, rfl⟩
    decide
  have hrun := Run.guarded_of_foldlM hs
  exact ⟨s, t, hrun, hflag, ht,
    (reinit_releases_flow_control false 3 _ s hrun hflag t ht).1⟩

end LamcoRdp
