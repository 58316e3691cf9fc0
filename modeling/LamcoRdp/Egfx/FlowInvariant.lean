/-
LamcoRdp/Egfx/FlowInvariant.lean

What every run of the flow controller keeps.

`advanceOnUnack_cases` and `advanceOnAck_cases` say once what a call can do to
the state machine; everything else is read off them.  `FlowInv` is the inductive
invariant.  Its field `outstanding` is stronger than what the encoder needs:
in *every* throttling state a frame is outstanding, not only while the slots
are used up.  That holds because a call that leaves the controller throttling
has either just appended an unacked record or just found at least
`deactivate_th` of them.

`Counted n fc` relates the two statistics counters after `n` calls.  Both are
`u64`, so the relation is only promised while `n < 2 ^ 64`.
-/
import LamcoRdp.Lib.Runs
import LamcoRdp.Egfx.FlowController

namespace LamcoRdp

open Runs

namespace FlowController

/-! ### The frame history -/

theorem popOverflow_eq_drop (l : List FrameRecord) :
    popOverflow l = l.drop (l.length - maxFrameHistory) := by
  induction l with
  | nil => rfl
  | cons f rest ih =>
      unfold popOverflow
      split
      · next h =>
          have hlen : (f :: rest).length - maxFrameHistory
              = (rest.length - maxFrameHistory) + 1 := by
            simp only [List.length_cons] at h ⊢
            omega
          rw [hlen, List.drop_succ_cons, ih]
      · next h =>
          have hlen : (f :: rest).length - maxFrameHistory = 0 := by omega
          rw [hlen, List.drop_zero]

theorem popOverflow_length (l : List FrameRecord) :
    (popOverflow l).length ≤ maxFrameHistory := by
  rw [popOverflow_eq_drop, List.length_drop]
  omega

/-- The overflow loop never drops the record appended last. -/
theorem popOverflow_append_singleton (l : List FrameRecord) (f : FrameRecord) :
    popOverflow (l ++ [f]) = l.drop (l.length + 1 - maxFrameHistory) ++ [f] := by
  have hle : l.length + 1 - maxFrameHistory ≤ l.length := by
    unfold maxFrameHistory
    omega
  rw [popOverflow_eq_drop, List.length_append, List.length_singleton,
    List.drop_append_of_le_length hle]

theorem markAcked_length (frameId now : ℕ) (l : List FrameRecord) :
    (markAcked frameId now l).1.length = l.length := by
  induction l with
  | nil => rfl
  | cons f rest ih =>
      unfold markAcked
      split
      · rfl
      · simp [ih]

theorem unackedCount_pos_iff (fc : FlowController) :
    1 ≤ fc.unackedCount ↔ ∃ f ∈ fc.frames, f.ackedAt = none := by
  have hmax : 1 ≤ u32Max := by decide
  unfold unackedCount
  rw [le_min_iff, Nat.one_le_iff_ne_zero, ← Nat.pos_iff_ne_zero, List.countP_pos_iff]
  simp [hmax]

/-! ### What the two halves of a call leave alone -/

section Fields

variable (fc : FlowController) (frameId nSubframes now : ℕ) (b : Bool)

theorem pushFrame_length :
    (fc.pushFrame frameId nSubframes now).frames.length ≤ maxFrameHistory :=
  popOverflow_length _

theorem pushFrame_unackedCount_pos :
    1 ≤ (fc.pushFrame frameId nSubframes now).unackedCount := by
  rw [unackedCount_pos_iff]
  simp only [pushFrame]
  rw [popOverflow_append_singleton]
  exact ⟨_, List.mem_append_right _ (List.mem_singleton_self _), rfl⟩

/-- `update_avg_rtt` touches the samples and the average only. -/
theorem updateAvgRtt_eq :
    ∃ samples avg, fc.updateAvgRtt now
      = { fc with rttSamples := samples, avgRtt := avg } := by
  unfold updateAvgRtt
  dsimp only
  split
  · exact ⟨_, fc.avgRtt, rfl⟩
  · exact ⟨_, _, rfl⟩

/-- The first half of `ack_frame` touches the history and the round trip
statistics only. -/
theorem recordAck_eq :
    ∃ samples avg, fc.recordAck frameId now
      = { fc with
          frames := (markAcked frameId now fc.frames).1
          rttSamples := samples
          avgRtt := avg } := by
  unfold recordAck
  dsimp only
  split
  · obtain ⟨samples, avg, h⟩ := updateAvgRtt_eq
      { fc with
        frames := (markAcked frameId now fc.frames).1
        rttSamples := fc.rttSamples ++ [(now, _)] } now
    exact ⟨samples, avg, h⟩
  · exact ⟨_, _, rfl⟩

theorem recordAck_frames :
    (fc.recordAck frameId now).frames = (markAcked frameId now fc.frames).1 := by
  obtain ⟨_, _, h⟩ := recordAck_eq fc frameId now
  rw [h]

/-- `recompute_slots_from_rates` touches the slots only, and never makes them
unlimited: both rates count records of a bounded history. -/
theorem recomputeSlotsFromRates_eq (hlen : fc.frames.length ≤ maxFrameHistory) :
    ∃ slots, slots ≠ unlimitedFrameSlots ∧
      fc.recomputeSlotsFromRates b now = { fc with totalFrameSlots := slots } := by
  refine ⟨(fc.recomputeSlotsFromRates b now).totalFrameSlots, ?_, rfl⟩
  have hack : (fc.rates now).2 ≤ maxFrameHistory :=
    (Nat.min_le_left _ _).trans (List.countP_le_length.trans hlen)
  have hmax : maxFrameHistory + 2 < unlimitedFrameSlots := by decide
  have hmargin : (if b then 2 else 1) ≤ 2 := by cases b <;> decide
  unfold recomputeSlotsFromRates satAddU32
  generalize fc.rates now = r at hack ⊢
  obtain ⟨encRate, ackRate⟩ := r
  generalize (if b then 2 else 1) = margin at hmargin ⊢
  dsimp only at hack ⊢
  split
  · decide
  · have hslots : min (ackRate + margin) u32Max ≤ ackRate + margin := Nat.min_le_left _ _
    omega

end Fields

/-! ### What a call can do -/

section Calls

variable (fc : FlowController) (clock : Clock)

/-- The outcomes of `unack_frame`, the record already appended. -/
theorem advanceOnUnack_cases :
    let th := fc.adaptiveThreshold clock.rtt
    let fc' := fc.advanceOnUnack clock
    (fc.state = .inactive ∧ fc.unackedCount < th ∧ fc' = { fc with activateTh := th }) ∨
    (fc.state = .inactive ∧ th ≤ fc.unackedCount ∧
      fc' = { fc with activateTh := th }.enterActive) ∨
    (fc.state = .active ∧ fc' = fc.enterLoweringLatency) ∨
    (fc.state = .active ∧
      fc' = { fc with activateTh := th }.recomputeSlotsFromRates true clock.rates) ∨
    (fc.state = .activeLoweringLatency ∧ fc' = fc) := by
  intro th fc'
  have he : fc' = fc.advanceOnUnack clock := rfl
  unfold advanceOnUnack at he
  dsimp only at he
  split at he
  · next hst =>
      split at he
      · next hth => exact .inr (.inl ⟨hst, hth, he⟩)
      · next hth => exact .inl ⟨hst, Nat.lt_of_not_ge hth, he⟩
  · next hst =>
      split at he
      · exact .inr (.inr (.inl ⟨hst, he⟩))
      · exact .inr (.inr (.inr (.inl ⟨hst, he⟩)))
  · next hst => exact .inr (.inr (.inr (.inr ⟨hst, he⟩)))

/-- The outcomes of `ack_frame`, the record already marked.  A call that leaves
the controller throttling found at least `deactivate_th` frames outstanding. -/
theorem advanceOnAck_cases :
    let th := fc.adaptiveThreshold clock.rtt
    let fc' := fc.advanceOnAck clock
    (fc.state = .inactive ∧ fc' = fc) ∨
    (fc.state ≠ .inactive ∧ fc' = fc.exitToInactive) ∨
    (fc.state ≠ .inactive ∧ fc.config.deactivateTh ≤ fc.unackedCount ∧
      (fc' = fc.enterLoweringLatency ∨ fc' = fc ∨
       fc' = { fc with state := .active, activateTh := th }.recomputeSlotsFromRates false
         clock.rates)) := by
  intro th fc'
  have he : fc' = fc.advanceOnAck clock := rfl
  unfold advanceOnAck at he
  dsimp only at he
  split at he
  · -- inactive: the acknowledgement changes nothing
    next hst => exact .inl ⟨hst, he⟩
  · -- active: below the deactivation threshold the controller goes inactive
    next hst =>
      have hne : fc.state ≠ .inactive := by simp [hst]
      split at he
      · exact .inr (.inl ⟨hne, he⟩)
      · next hd =>
          refine .inr (.inr ⟨hne, Nat.le_of_not_lt hd, ?_⟩)
          split at he
          · exact .inl he
          · rw [← hst]
            exact .inr (.inr he)
  · -- lowering latency: the same first test, then the activation threshold
    next hst =>
      have hne : fc.state ≠ .inactive := by simp [hst]
      split at he
      · exact .inr (.inl ⟨hne, he⟩)
      · next hd =>
          refine .inr (.inr ⟨hne, Nat.le_of_not_lt hd, ?_⟩)
          split at he
          · exact .inr (.inr he)
          · exact .inr (.inl he)

theorem adaptiveThreshold_bounds (now : ℕ) :
    fc.config.activateThFloor ≤ fc.adaptiveThreshold now ∧
      fc.adaptiveThreshold now ≤ max fc.config.activateThFloor fc.config.refreshRate := by
  refine ⟨Nat.le_max_right _ _, ?_⟩
  unfold adaptiveThreshold
  dsimp only
  refine Nat.max_le.mpr ⟨?_, Nat.le_max_left _ _⟩
  exact ((Nat.mod_le _ _).trans (Nat.min_le_right _ _)).trans (Nat.le_max_right _ _)

end Calls

/-! ### The invariant -/

/-- What holds of the controller between any two calls. -/
structure FlowInv (fc : FlowController) : Prop where
  inactive_iff : fc.state = .inactive ↔ fc.totalFrameSlots = unlimitedFrameSlots
  lowering : fc.state = .activeLoweringLatency → fc.totalFrameSlots = 0
  outstanding : fc.state ≠ .inactive → 1 ≤ fc.unackedCount
  history : fc.frames.length ≤ maxFrameHistory
  threshold : fc.config.activateThFloor ≤ fc.activateTh ∧
    fc.activateTh ≤ max fc.config.activateThFloor fc.config.refreshRate

theorem flowInv_new (config : FlowControllerConfig) : FlowInv (new config) where
  inactive_iff := ⟨fun _ => rfl, fun _ => rfl⟩
  lowering := by simp [new]
  outstanding := by simp [new]
  history := Nat.zero_le _
  threshold := ⟨le_refl _, Nat.le_max_left _ _⟩

theorem flowInv_clearAllUnacked (fc : FlowController) : FlowInv fc.clearAllUnacked where
  inactive_iff := ⟨fun _ => rfl, fun _ => rfl⟩
  lowering := by simp [clearAllUnacked]
  outstanding := by simp [clearAllUnacked]
  history := Nat.zero_le _
  threshold := ⟨le_refl _, Nat.le_max_left _ _⟩

/-- A throttling controller with a valid threshold, a bounded history and a
frame outstanding, and slots that fit its state, satisfies the invariant. -/
theorem FlowInv.of_throttling {fc : FlowController} (hst : fc.state ≠ .inactive)
    (hslots : fc.totalFrameSlots ≠ unlimitedFrameSlots)
    (hlow : fc.state = .activeLoweringLatency → fc.totalFrameSlots = 0)
    (hout : 1 ≤ fc.unackedCount) (hlen : fc.frames.length ≤ maxFrameHistory)
    (hth : fc.config.activateThFloor ≤ fc.activateTh ∧
      fc.activateTh ≤ max fc.config.activateThFloor fc.config.refreshRate) :
    FlowInv fc where
  inactive_iff := ⟨fun h => absurd h hst, fun h => absurd h hslots⟩
  lowering := hlow
  outstanding := fun _ => hout
  history := hlen
  threshold := hth

theorem flowInv_enterLoweringLatency {fc : FlowController} (h : FlowInv fc)
    (hout : 1 ≤ fc.unackedCount) : FlowInv fc.enterLoweringLatency :=
  .of_throttling (by simp [enterLoweringLatency])
    (by show 0 ≠ unlimitedFrameSlots; decide) (fun _ => rfl) hout h.history h.threshold

theorem flowInv_recompute {fc : FlowController} (b : Bool) (now : ℕ)
    (hst : fc.state = .active) (hout : 1 ≤ fc.unackedCount)
    (hlen : fc.frames.length ≤ maxFrameHistory)
    (hth : fc.config.activateThFloor ≤ fc.activateTh ∧
      fc.activateTh ≤ max fc.config.activateThFloor fc.config.refreshRate) :
    FlowInv (fc.recomputeSlotsFromRates b now) := by
  obtain ⟨slots, hne, he⟩ := recomputeSlotsFromRates_eq fc now b hlen
  rw [he]
  exact .of_throttling (by simp [hst]) hne (by simp [hst]) hout hlen hth

/-- The invariant reads neither the round trip statistics nor the counters, and
of the history only its length and whether a frame is outstanding. -/
theorem FlowInv.congr {fc fc' : FlowController} (h : FlowInv fc)
    (hcfg : fc'.config = fc.config) (hst : fc'.state = fc.state)
    (hslots : fc'.totalFrameSlots = fc.totalFrameSlots)
    (hth : fc'.activateTh = fc.activateTh)
    (hlen : fc'.frames.length ≤ maxFrameHistory)
    (hout : fc'.state ≠ .inactive → 1 ≤ fc'.unackedCount) : FlowInv fc' where
  inactive_iff := by rw [hst, hslots]; exact h.inactive_iff
  lowering := by rw [hst, hslots]; exact h.lowering
  outstanding := hout
  history := hlen
  threshold := by rw [hcfg, hth]; exact h.threshold

theorem flowInv_unackFrame {fc : FlowController} (h : FlowInv fc)
    (frameId nSubframes : ℕ) (clock : Clock) :
    FlowInv (fc.unackFrame frameId nSubframes clock) := by
  unfold unackFrame
  have hpos := pushFrame_unackedCount_pos fc frameId nSubframes clock.entry
  have hp : FlowInv (fc.pushFrame frameId nSubframes clock.entry) :=
    h.congr rfl rfl rfl rfl (pushFrame_length ..) (fun _ => hpos)
  generalize fc.pushFrame frameId nSubframes clock.entry = p at hp hpos ⊢
  have hth := adaptiveThreshold_bounds p clock.rtt
  obtain ⟨hst, -, he⟩ | ⟨hst, -, he⟩ | ⟨-, he⟩ | ⟨hst, he⟩ | ⟨-, he⟩ :=
    advanceOnUnack_cases p clock
  · rw [he]
    exact ⟨hp.inactive_iff, hp.lowering, hp.outstanding, hp.history, hth⟩
  · rw [he]
    exact .of_throttling (by simp [enterActive]) (by show 0 ≠ unlimitedFrameSlots; decide)
      (fun _ => rfl) hpos hp.history hth
  · rw [he]
    exact flowInv_enterLoweringLatency hp hpos
  · rw [he]
    exact flowInv_recompute true clock.rates hst hpos hp.history hth
  · rw [he]
    exact hp

theorem flowInv_ackFrame {fc : FlowController} (h : FlowInv fc)
    (hd : 1 ≤ fc.config.deactivateTh) (frameId : ℕ) (clock : Clock) :
    FlowInv (fc.ackFrame frameId clock) := by
  unfold ackFrame
  obtain ⟨samples, avg, hq⟩ := recordAck_eq fc frameId clock.entry
  -- between marking and the state machine, `outstanding` may be broken: the
  -- frame just acknowledged may have been the last one
  have hlen : (markAcked frameId clock.entry fc.frames).1.length ≤ maxFrameHistory := by
    rw [markAcked_length]
    exact h.history
  have hcfg : (fc.recordAck frameId clock.entry).config = fc.config := by rw [hq]
  have hinv : (1 ≤ (fc.recordAck frameId clock.entry).unackedCount ∨
      (fc.recordAck frameId clock.entry).state = .inactive) →
      FlowInv (fc.recordAck frameId clock.entry) := by
    intro hor
    refine h.congr hcfg ?_ ?_ ?_ ?_ (fun hst => hor.resolve_right hst) <;> rw [hq]
    exact hlen
  have hflen : (fc.recordAck frameId clock.entry).frames.length ≤ maxFrameHistory := by
    rw [hq]
    exact hlen
  have hold : (fc.recordAck frameId clock.entry).config.activateThFloor
        ≤ (fc.recordAck frameId clock.entry).activateTh ∧
      (fc.recordAck frameId clock.entry).activateTh
        ≤ max (fc.recordAck frameId clock.entry).config.activateThFloor
          (fc.recordAck frameId clock.entry).config.refreshRate := by
    rw [hq]
    exact h.threshold
  rw [← hcfg] at hd
  generalize fc.recordAck frameId clock.entry = q at hinv hflen hold hd ⊢
  have hth := adaptiveThreshold_bounds q clock.rtt
  obtain ⟨hst, he⟩ | ⟨-, he⟩ | ⟨-, hout, he | he | he⟩ := advanceOnAck_cases q clock
  · rw [he]
    exact hinv (.inr hst)
  · rw [he]
    exact ⟨⟨fun _ => rfl, fun _ => rfl⟩, by simp [exitToInactive], by simp [exitToInactive],
      hflen, hold⟩
  · rw [he]
    exact flowInv_enterLoweringLatency (hinv (.inl (hd.trans hout))) (hd.trans hout)
  · rw [he]
    exact hinv (.inl (hd.trans hout))
  · rw [he]
    exact flowInv_recompute false clock.rates rfl (hd.trans hout) hflen hth

/-! ### The statistics counters -/

/-- After `n` calls: at most `n` entries were counted, and while no counter can
have saturated the entries exceed the exits by one exactly while throttling. -/
def Counted (n : ℕ) (fc : FlowController) : Prop :=
  fc.statsThrottleEntries ≤ n ∧
    (n < 2 ^ 64 → fc.statsThrottleEntries
      = fc.statsThrottleExits + if fc.state = .inactive then 0 else 1)

/-- A call that keeps both counters and stays on the same side of throttling. -/
theorem Counted.keep {n : ℕ} {fc fc' : FlowController} (h : Counted n fc)
    (hen : fc'.statsThrottleEntries = fc.statsThrottleEntries)
    (hex : fc'.statsThrottleExits = fc.statsThrottleExits)
    (hst : fc'.state = .inactive ↔ fc.state = .inactive) : Counted (n + 1) fc' := by
  refine ⟨by rw [hen]; exact h.1.trans (Nat.le_succ n), fun hn => ?_⟩
  rw [hen, hex, h.2 (by omega)]
  simp only [hst]

/-- A call that enters throttling and counts it. -/
theorem Counted.enter {n : ℕ} {fc fc' : FlowController} (h : Counted n fc)
    (hst : fc.state = .inactive) (hst' : fc'.state ≠ .inactive)
    (hen : fc'.statsThrottleEntries = satAddU64 fc.statsThrottleEntries 1)
    (hex : fc'.statsThrottleExits = fc.statsThrottleExits) : Counted (n + 1) fc' := by
  have hle := h.1
  refine ⟨?_, fun hn => ?_⟩
  · rw [hen]
    exact (Nat.min_le_left _ _).trans (Nat.succ_le_succ hle)
  · have heq := h.2 (by omega)
    rw [if_pos hst] at heq
    rw [if_neg hst', hen, hex]
    unfold satAddU64 u64Max
    omega

/-- A call that leaves throttling and counts it. -/
theorem Counted.leave {n : ℕ} {fc fc' : FlowController} (h : Counted n fc)
    (hst : fc.state ≠ .inactive) (hst' : fc'.state = .inactive)
    (hen : fc'.statsThrottleEntries = fc.statsThrottleEntries)
    (hex : fc.statsThrottleExits + 1 < 2 ^ 64 →
      fc'.statsThrottleExits = fc.statsThrottleExits + 1) : Counted (n + 1) fc' := by
  refine ⟨by rw [hen]; exact h.1.trans (Nat.le_succ n), fun hn => ?_⟩
  have hle := h.1
  have heq := h.2 (by omega)
  rw [if_neg hst] at heq
  rw [if_pos hst', hen, hex (by omega)]
  omega

theorem counted_unackFrame {n : ℕ} {fc : FlowController} (h : Counted n fc)
    (frameId nSubframes : ℕ) (clock : Clock) :
    Counted (n + 1) (fc.unackFrame frameId nSubframes clock) := by
  unfold unackFrame
  have hp : Counted n (fc.pushFrame frameId nSubframes clock.entry) := h
  generalize fc.pushFrame frameId nSubframes clock.entry = p at hp ⊢
  obtain ⟨-, -, he⟩ | ⟨hst, -, he⟩ | ⟨hst, he⟩ | ⟨-, he⟩ | ⟨-, he⟩ :=
    advanceOnUnack_cases p clock
  · rw [he]
    exact hp.keep rfl rfl Iff.rfl
  · rw [he]
    exact hp.enter hst (by simp [enterActive]) rfl rfl
  · rw [he]
    exact hp.keep rfl rfl (by simp [enterLoweringLatency, hst])
  · rw [he]
    exact hp.keep rfl rfl Iff.rfl
  · rw [he]
    exact hp.keep rfl rfl Iff.rfl

theorem counted_ackFrame {n : ℕ} {fc : FlowController} (h : Counted n fc)
    (frameId : ℕ) (clock : Clock) : Counted (n + 1) (fc.ackFrame frameId clock) := by
  unfold ackFrame
  have hq : Counted n (fc.recordAck frameId clock.entry) := by
    obtain ⟨_, _, hq⟩ := recordAck_eq fc frameId clock.entry
    rw [hq]
    exact h
  generalize fc.recordAck frameId clock.entry = q at hq ⊢
  obtain ⟨-, he⟩ | ⟨hst, he⟩ | ⟨hst, -, he | he | he⟩ := advanceOnAck_cases q clock
  · rw [he]
    exact hq.keep rfl rfl Iff.rfl
  · rw [he]
    refine hq.leave hst rfl rfl fun hlt => ?_
    show satAddU64 q.statsThrottleExits 1 = q.statsThrottleExits + 1
    unfold satAddU64 u64Max
    omega
  · rw [he]
    exact hq.keep rfl rfl (by simp [enterLoweringLatency, hst])
  · rw [he]
    exact hq.keep rfl rfl Iff.rfl
  · rw [he]
    exact hq.keep rfl rfl (by simp [recomputeSlotsFromRates, hst])

theorem counted_clearAllUnacked {n : ℕ} {fc : FlowController} (h : Counted n fc) :
    Counted (n + 1) fc.clearAllUnacked := by
  by_cases hst : fc.state = .inactive
  · exact h.keep rfl (by simp [clearAllUnacked, hst]) (by simp [clearAllUnacked, hst])
  · refine h.leave hst rfl rfl fun hlt => ?_
    simp only [clearAllUnacked, hst, ne_eq, not_false_eq_true, if_true]
    exact Nat.mod_eq_of_lt hlt

end FlowController

/-! ### Runs of the controller -/

/-- What the two threads and the NetworkAutoDetect server do to the
controller.  `autodetectRtt v` is the handle being wired or written. -/
inductive FlowEvent
  | unackFrame (frameId nSubframes : ℕ) (clock : Clock)
  | ackFrame (frameId : ℕ) (clock : Clock)
  | clearAllUnacked
  | autodetectRtt (value : Option ℕ)
  deriving DecidableEq, Repr

/-- The clock readings an event takes, in order. -/
def FlowEvent.readings : FlowEvent → List ℕ
  | .unackFrame _ _ clock => [clock.entry, clock.rtt, clock.rates]
  | .ackFrame _ clock => [clock.entry, clock.rtt, clock.rates]
  | .clearAllUnacked => []
  | .autodetectRtt _ => []

/-- The clock never goes back over the events. -/
def ClockForward (es : List FlowEvent) : Prop :=
  (es.flatMap FlowEvent.readings).Pairwise (· ≤ ·)

/-- One event. -/
def FlowController.apply (fc : FlowController) : FlowEvent → FlowController
  | .unackFrame frameId nSubframes clock => fc.unackFrame frameId nSubframes clock
  | .ackFrame frameId clock => fc.ackFrame frameId clock
  | .clearAllUnacked => fc.clearAllUnacked
  | .autodetectRtt value => { fc with autodetectRtt := value }

/-- The controller as a transition system. -/
def FlowStep (fc : FlowController) (e : FlowEvent) (fc' : FlowController) : Prop :=
  fc' = fc.apply e

/-- No call changes the configuration. -/
theorem FlowController.apply_config (fc : FlowController) (e : FlowEvent) :
    (fc.apply e).config = fc.config := by
  cases e with
  | unackFrame frameId nSubframes clock =>
      show ((fc.pushFrame frameId nSubframes clock.entry).advanceOnUnack clock).config = _
      obtain ⟨-, -, he⟩ | ⟨-, -, he⟩ | ⟨-, he⟩ | ⟨-, he⟩ | ⟨-, he⟩ :=
        advanceOnUnack_cases (fc.pushFrame frameId nSubframes clock.entry) clock <;>
        rw [he] <;> rfl
  | ackFrame frameId clock =>
      show ((fc.recordAck frameId clock.entry).advanceOnAck clock).config = _
      have hq : (fc.recordAck frameId clock.entry).config = fc.config := by
        obtain ⟨_, _, hq⟩ := recordAck_eq fc frameId clock.entry
        rw [hq]
      rw [← hq]
      obtain ⟨-, he⟩ | ⟨-, he⟩ | ⟨-, -, he | he | he⟩ :=
        advanceOnAck_cases (fc.recordAck frameId clock.entry) clock <;>
        rw [he] <;> rfl
  | clearAllUnacked => rfl
  | autodetectRtt value => rfl

/-- The step lemma: every call keeps the invariant. -/
theorem FlowController.flowInv_apply {fc : FlowController} (h : fc.FlowInv)
    (hd : 1 ≤ fc.config.deactivateTh) (e : FlowEvent) : (fc.apply e).FlowInv := by
  cases e with
  | unackFrame frameId nSubframes clock => exact flowInv_unackFrame h frameId nSubframes clock
  | ackFrame frameId clock => exact flowInv_ackFrame h hd frameId clock
  | clearAllUnacked => exact flowInv_clearAllUnacked fc
  | autodetectRtt value => exact h.congr rfl rfl rfl rfl h.history h.outstanding

theorem FlowController.counted_apply {n : ℕ} {fc : FlowController} (h : Counted n fc)
    (e : FlowEvent) : Counted (n + 1) (fc.apply e) := by
  cases e with
  | unackFrame frameId nSubframes clock => exact counted_unackFrame h frameId nSubframes clock
  | ackFrame frameId clock => exact counted_ackFrame h frameId clock
  | clearAllUnacked => exact counted_clearAllUnacked h
  | autodetectRtt value => exact h.keep rfl rfl Iff.rfl

/-- The run lemma: configuration, invariant and counters after any events. -/
theorem flowRun_inv {config : FlowControllerConfig} (hd : 1 ≤ config.deactivateTh)
    {es : List FlowEvent} {fc : FlowController}
    (h : Run FlowStep (FlowController.new config) es fc) :
    fc.config = config ∧ fc.FlowInv ∧ fc.Counted es.length := by
  refine h.invariant_trace (P := fun es fc =>
    fc.config = config ∧ fc.FlowInv ∧ fc.Counted es.length) ?_ ?_
  · exact ⟨rfl, FlowController.flowInv_new config, Nat.le_refl 0, fun _ => rfl⟩
  · rintro es fc e fc' - ⟨hcfg, hinv, hcnt⟩ rfl
    refine ⟨(fc.apply_config e).trans hcfg, ?_, ?_⟩
    · exact FlowController.flowInv_apply hinv (hcfg ▸ hd) e
    · rw [List.length_append, List.length_singleton]
      exact FlowController.counted_apply hcnt e

/-- A controller that satisfies the invariant stops the encoder only while a
frame is outstanding. -/
theorem FlowController.FlowInv.throttle_outstanding {fc : FlowController} (h : fc.FlowInv)
    (ht : fc.shouldThrottle = true) : 1 ≤ fc.unackedCount := by
  refine h.outstanding fun hst => ?_
  have hz : fc.totalFrameSlots = 0 := by simpa [shouldThrottle] using ht
  rw [h.inactive_iff.mp hst] at hz
  exact absurd hz (by decide)

/-- **The state invariant of the flow controller.**  In every state reached:
(a) inactive exactly when the slots are unlimited; (b) no slots while lowering
latency; (c) the encoder is stopped only while a frame is outstanding; (d) a
bounded history; (e) a bounded threshold; (f) the entries exceed the exits by
one exactly while throttling, as long as fewer than `2 ^ 64` calls were made. -/
theorem flow_state_invariant (config : FlowControllerConfig)
    (hd : 1 ≤ config.deactivateTh) (es : List FlowEvent) (fc : FlowController)
    (h : Run FlowStep (FlowController.new config) es fc) :
    (fc.state = .inactive ↔ fc.totalFrameSlots = unlimitedFrameSlots) ∧
    (fc.state = .activeLoweringLatency → fc.totalFrameSlots = 0) ∧
    (fc.shouldThrottle = true → 1 ≤ fc.unackedCount) ∧
    fc.frames.length ≤ 240 ∧
    (config.activateThFloor ≤ fc.activateTh ∧
      fc.activateTh ≤ max config.activateThFloor config.refreshRate) ∧
    (es.length < 2 ^ 64 → fc.statsThrottleEntries
      = fc.statsThrottleExits + if fc.state = .inactive then 0 else 1) := by
  obtain ⟨rfl, hinv, hcnt⟩ := flowRun_inv hd h
  exact ⟨hinv.inactive_iff, hinv.lowering, hinv.throttle_outstanding, hinv.history,
    hinv.threshold, hcnt.2⟩

/-! ### The counters saturate

One cycle of three unacknowledged frames and a reset adds one entry and one
exit and changes nothing else.  After `2 ^ 64 - 1` cycles the next entry is lost
to `saturating_add`. -/

/-- A fresh default controller that has been through `k` cycles. -/
def cycled (k : ℕ) : FlowController :=
  { FlowController.new .default with statsThrottleEntries := k, statsThrottleExits := k }

/-- Three frames sent and never acknowledged: enough to engage throttling. -/
def threeUnacked : List FlowEvent :=
  [.unackFrame 1 1 ⟨0, 0, 0⟩, .unackFrame 2 1 ⟨0, 0, 0⟩, .unackFrame 3 1 ⟨0, 0, 0⟩]

theorem run_threeUnacked {s₀ fc : FlowController} {es : List FlowEvent}
    (h : Run FlowStep s₀ es fc) :
    Run FlowStep s₀ (es ++ threeUnacked) (threeUnacked.foldl FlowController.apply fc) := by
  have h3 := ((h.snoc (e := .unackFrame 1 1 ⟨0, 0, 0⟩) rfl).snoc
    (e := .unackFrame 2 1 ⟨0, 0, 0⟩) rfl).snoc (e := .unackFrame 3 1 ⟨0, 0, 0⟩) rfl
  simpa [threeUnacked] using h3

/-- Without an acknowledgement and without NetworkAutoDetect the controller works
with its last average. -/
theorem effectiveRtt_no_samples {fc : FlowController} (hs : fc.rttSamples = [])
    (ha : fc.autodetectRtt = none) (now : ℕ) : fc.effectiveRtt now = fc.avgRtt := by
  simp [FlowController.effectiveRtt, FlowController.autodetectRttMs, hs, ha]

/-- The initial average of 50 ms makes the default threshold 3. -/
theorem adaptiveThreshold_default {fc : FlowController} (hc : fc.config = .default)
    (hs : fc.rttSamples = []) (ha : fc.autodetectRtt = none)
    (havg : fc.avgRtt = 50 * 1000000) (now : ℕ) : fc.adaptiveThreshold now = 3 := by
  unfold FlowController.adaptiveThreshold
  rw [effectiveRtt_no_samples hs ha, havg, hc]
  decide

theorem cycled_advanceOnUnack (k th : ℕ) (fs : List FrameRecord) :
    { cycled k with frames := fs, activateTh := th }.advanceOnUnack ⟨0, 0, 0⟩
      = if 3 ≤ min (fs.countP fun f => f.ackedAt.isNone) u32Max then
          { cycled k with frames := fs, activateTh := 3 }.enterActive
        else { cycled k with frames := fs, activateTh := 3 } := by
  unfold FlowController.advanceOnUnack
  rw [adaptiveThreshold_default rfl rfl rfl rfl]
  rfl

/-- The history after the first `n` frames of `threeUnacked`. -/
def unackedRecords (n : ℕ) : List FrameRecord :=
  (List.range n).map fun i => ⟨i + 1, 0, none, 1⟩

theorem foldl_threeUnacked (k : ℕ) :
    threeUnacked.foldl FlowController.apply (cycled k)
      = { cycled k with frames := unackedRecords 3, activateTh := 3 }.enterActive := by
  have h1 : (cycled k).apply (.unackFrame 1 1 ⟨0, 0, 0⟩)
      = { cycled k with frames := unackedRecords 1, activateTh := 3 } :=
    cycled_advanceOnUnack k 2 (unackedRecords 1)
  have h2 : { cycled k with frames := unackedRecords 1, activateTh := 3 }.apply
        (.unackFrame 2 1 ⟨0, 0, 0⟩)
      = { cycled k with frames := unackedRecords 2, activateTh := 3 } :=
    cycled_advanceOnUnack k 3 (unackedRecords 2)
  have h3 : { cycled k with frames := unackedRecords 2, activateTh := 3 }.apply
        (.unackFrame 3 1 ⟨0, 0, 0⟩)
      = { cycled k with frames := unackedRecords 3, activateTh := 3 }.enterActive :=
    cycled_advanceOnUnack k 3 (unackedRecords 3)
  simp only [threeUnacked, List.foldl_cons, List.foldl_nil]
  rw [h1, h2, h3]

theorem cycled_threeUnacked (k : ℕ) :
    let fc := threeUnacked.foldl FlowController.apply (cycled k)
    fc.state = .active ∧ fc.statsThrottleEntries = satAddU64 k 1 ∧
      fc.statsThrottleExits = k ∧
      fc.clearAllUnacked = { cycled k with
        statsThrottleEntries := satAddU64 k 1, statsThrottleExits := (k + 1) % 2 ^ 64 } := by
  rw [foldl_threeUnacked]
  refine ⟨rfl, rfl, rfl, ?_⟩
  unfold FlowController.clearAllUnacked
  rw [if_pos (by simp [FlowController.enterActive])]
  rfl

theorem cycled_run (k : ℕ) (hk : k < 2 ^ 64) :
    ∃ es, (∀ t ∈ es.flatMap FlowEvent.readings, t = 0) ∧
      Run FlowStep (FlowController.new .default) es (cycled k) := by
  induction k with
  | zero => exact ⟨[], by simp, Run.nil⟩
  | succ k ih =>
      obtain ⟨es, hclock, hrun⟩ := ih (by omega)
      obtain ⟨-, -, -, hclear⟩ := cycled_threeUnacked k
      have hnext : (threeUnacked.foldl FlowController.apply (cycled k)).clearAllUnacked
          = cycled (k + 1) := by
        rw [hclear, Nat.mod_eq_of_lt hk]
        have hsat : satAddU64 k 1 = k + 1 := by
          unfold satAddU64 u64Max
          omega
        rw [hsat]
        rfl
      refine ⟨es ++ threeUnacked ++ [.clearAllUnacked], ?_, ?_⟩
      · intro t ht
        simp only [List.flatMap_append, List.mem_append] at ht
        rcases ht with (ht | ht) | ht
        · exact hclock t ht
        · simpa [threeUnacked, FlowEvent.readings] using ht
        · simp [FlowEvent.readings] at ht
      · rw [← hnext]
        exact Run.snoc (run_threeUnacked hrun) rfl

/-- The counters as `u64` do not keep (f) for ever: after `2 ^ 64 - 1` cycles
the controller throttles with as many exits as entries counted. -/
theorem flow_counters_saturate :
    ¬ ∀ (config : FlowControllerConfig), 1 ≤ config.deactivateTh →
      ∀ (es : List FlowEvent), ClockForward es →
      ∀ fc, Run FlowStep (FlowController.new config) es fc →
        fc.statsThrottleEntries
          = fc.statsThrottleExits + if fc.state = .inactive then 0 else 1 := by
  intro hall
  obtain ⟨es, hclock, hrun⟩ := cycled_run (2 ^ 64 - 1) (by decide)
  obtain ⟨hst, hen, hex, -⟩ := cycled_threeUnacked (2 ^ 64 - 1)
  have hzero : ∀ t ∈ (es ++ threeUnacked).flatMap FlowEvent.readings, t = 0 := by
    intro t ht
    rw [List.flatMap_append, List.mem_append] at ht
    rcases ht with ht | ht
    · exact hclock t ht
    · simpa [threeUnacked, FlowEvent.readings] using ht
  have hforward : ClockForward (es ++ threeUnacked) := by
    refine List.pairwise_iff_getElem.mpr fun i j hi hj _ => ?_
    rw [hzero _ (List.getElem_mem hi)]
    exact Nat.zero_le _
  have h := hall .default (by decide) _ hforward _ (run_threeUnacked hrun)
  rw [hst, hen, hex] at h
  exact absurd h (by decide)

/-- The invariant on the run that engages throttling: the controller is active,
stops the encoder and has counted one entry and no exit. -/
theorem flow_state_invariant_engaged :
    let fc := threeUnacked.foldl FlowController.apply (FlowController.new .default)
    1 ≤ FlowControllerConfig.default.deactivateTh ∧
    fc.state = .active ∧ fc.shouldThrottle = true ∧ 1 ≤ fc.unackedCount ∧
    fc.frames.length ≤ 240 ∧ fc.statsThrottleEntries = fc.statsThrottleExits + 1 := by
  intro fc
  have hfc : fc = { cycled 0 with frames := unackedRecords 3, activateTh := 3 }.enterActive :=
    foldl_threeUnacked 0
  have hst : fc.state = .active := by rw [hfc]; rfl
  have ht : fc.shouldThrottle = true := by rw [hfc]; rfl
  obtain ⟨-, -, hc, hlen, -, hf⟩ := flow_state_invariant .default (by decide) threeUnacked fc
    (run_threeUnacked Run.nil)
  refine ⟨by decide, hst, ht, hc ht, hlen, ?_⟩
  rw [hf (by decide), hst]
  rfl

end LamcoRdp
