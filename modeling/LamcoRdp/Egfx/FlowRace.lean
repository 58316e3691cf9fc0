/-
LamcoRdp/Egfx/FlowRace.lean

The flow controller between its two callers.

The display loop sends a frame and then, in a second critical section, calls
`unack_frame` with the id the send returned; the DVC thread calls `ack_frame`
when the client acknowledges that id.  Nothing orders the two, so the
acknowledgement can be processed while the loop still stands between the send
and `unack_frame`.  It then finds no record, and the record appended afterwards
stays unacknowledged until it leaves the history.

`raceInv_run` says exactly which records are marked: those whose acknowledgement
came after their `unack_frame`.
-/
import LamcoRdp.Egfx.FlowInvariant
import Mathlib.Data.List.Nodup

namespace LamcoRdp

open Runs FlowController

/-! ### The two parties -/

/-- Where the display loop stands in the treatment of a frame. -/
inductive LoopPos
  /-- before the throttle check -/
  | idle
  /-- the throttle check let the frame pass -/
  | mayEncode
  /-- the send returned this id, `unack_frame` is still to be called -/
  | awaitingUnack (frameId : ℕ)
  deriving DecidableEq, Repr

/-- The controller with both its callers.  `sent`, `acked` and `recorded` list
the ids handed to the transport, those whose `ack_frame` has returned and those
whose `unack_frame` has returned; `now` is the last clock reading. -/
structure RaceState where
  fc : FlowController
  pos : LoopPos
  sent : List ℕ
  acked : List ℕ
  recorded : List ℕ
  now : ℕ
  deriving DecidableEq, Repr

/-- A step of the display loop, or a message of the client. -/
inductive RaceEvent
  /-- display loop: the throttle check -/
  | checkThrottle
  /-- display loop: governor, encoder or sender dropped the frame -/
  | dropFrame
  /-- display loop: the send returned this id -/
  | sendFrame (frameId : ℕ)
  /-- display loop: `unack_frame` -/
  | unackFrame (frameId : ℕ) (clock : Clock)
  /-- DVC thread: `on_frame_ack`, once for each frame sent -/
  | ackFrame (frameId : ℕ) (clock : Clock)
  /-- NetworkAutoDetect -/
  | autodetectRtt (value : Option ℕ)
  deriving DecidableEq, Repr

/-- The readings of one call continue a clock that never goes back. -/
def Clock.After (clock : Clock) (now : ℕ) : Prop :=
  now ≤ clock.entry ∧ clock.entry ≤ clock.rtt ∧ clock.rtt ≤ clock.rates

instance (clock : Clock) (now : ℕ) : Decidable (clock.After now) :=
  inferInstanceAs (Decidable (_ ∧ _ ∧ _))

/-- A new controller, and no frame on its way. -/
def RaceState.init (config : FlowControllerConfig) : RaceState where
  fc := .new config
  pos := .idle
  sent := []
  acked := []
  recorded := []
  now := 0

/-- One step of one party; `none` where the event cannot happen. -/
def RaceState.step (s : RaceState) : RaceEvent → Option RaceState
  | .checkThrottle =>
      if s.pos = .idle then
        if s.fc.shouldThrottle then some s else some { s with pos := .mayEncode }
      else none
  | .dropFrame =>
      if s.pos = .mayEncode then some { s with pos := .idle } else none
  | .sendFrame frameId =>
      if s.pos = .mayEncode ∧ frameId ∉ s.sent then
        some { s with pos := .awaitingUnack frameId, sent := s.sent ++ [frameId] }
      else none
  | .unackFrame frameId clock =>
      if s.pos = .awaitingUnack frameId ∧ clock.After s.now then
        some { s with
          fc := s.fc.unackFrame frameId 1 clock
          pos := .idle
          recorded := s.recorded ++ [frameId]
          now := clock.rates }
      else none
  | .ackFrame frameId clock =>
      if frameId ∈ s.sent ∧ frameId ∉ s.acked ∧ clock.After s.now then
        some { s with
          fc := s.fc.ackFrame frameId clock
          acked := s.acked ++ [frameId]
          now := clock.rates }
      else none
  | .autodetectRtt value => some { s with fc := { s.fc with autodetectRtt := value } }

/-- Every interleaving of the parties' steps. -/
abbrev RaceStep := StepOf RaceState.step

/-- Every frame sent has been acknowledged and its `unack_frame` has returned. -/
def RaceState.Settled (s : RaceState) : Prop :=
  ∀ id ∈ s.sent, id ∈ s.acked ∧ id ∈ s.recorded

/-- The acknowledgement of `frameId` was processed before its `unack_frame`. -/
def AckedFirst (es : List RaceEvent) (frameId : ℕ) : Prop :=
  ∃ pre clock post, es = pre ++ .unackFrame frameId clock :: post ∧
    ∃ clock', .ackFrame frameId clock' ∈ pre

/-- The ids of the `unack_frame` calls in a trace, in order. -/
def recordedIds (es : List RaceEvent) : List ℕ :=
  es.filterMap fun
    | .unackFrame frameId _ => some frameId
    | _ => none

/-- The ids of the last 240 `unack_frame` calls: those still in the history. -/
def recentIds (es : List RaceEvent) : List ℕ :=
  (recordedIds es).drop ((recordedIds es).length - maxFrameHistory)

/-! ### The history under the two calls -/

theorem advanceOnUnack_frames (fc : FlowController) (clock : Clock) :
    (fc.advanceOnUnack clock).frames = fc.frames := by
  obtain ⟨-, -, he⟩ | ⟨-, -, he⟩ | ⟨-, he⟩ | ⟨-, he⟩ | ⟨-, he⟩ :=
    advanceOnUnack_cases fc clock <;> rw [he] <;> rfl

theorem advanceOnAck_frames (fc : FlowController) (clock : Clock) :
    (fc.advanceOnAck clock).frames = fc.frames := by
  obtain ⟨-, he⟩ | ⟨-, he⟩ | ⟨-, -, he | he | he⟩ :=
    advanceOnAck_cases fc clock <;> rw [he] <;> rfl

theorem unackFrame_frames (fc : FlowController) (frameId nSubframes : ℕ) (clock : Clock) :
    (fc.unackFrame frameId nSubframes clock).frames
      = fc.frames.drop (fc.frames.length + 1 - maxFrameHistory)
        ++ [⟨frameId, clock.entry, none, nSubframes⟩] := by
  show ((fc.pushFrame frameId nSubframes clock.entry).advanceOnUnack clock).frames = _
  rw [advanceOnUnack_frames]
  exact popOverflow_append_singleton _ _

theorem ackFrame_frames (fc : FlowController) (frameId : ℕ) (clock : Clock) :
    (fc.ackFrame frameId clock).frames = (markAcked frameId clock.entry fc.frames).1 := by
  show ((fc.recordAck frameId clock.entry).advanceOnAck clock).frames = _
  rw [advanceOnAck_frames, recordAck_frames]

/-- With distinct ids the search loop marks every record of the id. -/
theorem markAcked_eq_map (frameId now : ℕ) (l : List FrameRecord)
    (hnd : (l.map FrameRecord.frameId).Nodup) :
    (markAcked frameId now l).1 = l.map fun f =>
      if f.frameId = frameId ∧ f.ackedAt = none then { f with ackedAt := some now } else f := by
  induction l with
  | nil => rfl
  | cons f rest ih =>
      rw [List.map_cons, List.nodup_cons] at hnd
      rw [List.map_cons]
      unfold markAcked
      split
      · next h =>
          -- the loop stops here; no later record has this id
          have hrest : rest.map (fun g =>
              if g.frameId = frameId ∧ g.ackedAt = none then { g with ackedAt := some now }
              else g) = rest := by
            refine (List.map_congr_left fun g hg => ?_).trans (List.map_id rest)
            rw [if_neg]
            · rfl
            · rintro ⟨hid, -⟩
              exact hnd.1 (List.mem_map.mpr ⟨g, hg, hid.trans h.1.symm⟩)
          rw [hrest]
      · show f :: (markAcked frameId now rest).1 = _
        rw [ih hnd.2]

/-! ### Traces -/

section Traces

variable (es : List RaceEvent) (id : ℕ)

@[simp] theorem recordedIds_append (es' : List RaceEvent) :
    recordedIds (es ++ es') = recordedIds es ++ recordedIds es' :=
  List.filterMap_append

/-- One more `unack_frame` pushes the oldest id out once there are 240. -/
theorem recentIds_snoc (e : RaceEvent)
    (hids : recordedIds (es ++ [e]) = recordedIds es ++ [id]) :
    recentIds (es ++ [e])
      = (recentIds es).drop ((recentIds es).length + 1 - maxFrameHistory) ++ [id] := by
  have hmax : 1 ≤ maxFrameHistory := by decide
  unfold recentIds
  rw [hids, List.length_append, List.length_singleton, List.length_drop, List.drop_drop]
  generalize recordedIds es = ids
  generalize maxFrameHistory = n at hmax
  have hsum : ids.length - n + (ids.length - (ids.length - n) + 1 - n)
      = ids.length + 1 - n := by omega
  rw [hsum, List.drop_append_of_le_length (by omega)]

/-- The last event of a trace decides a race only if it is the `unack_frame` of
this id. -/
theorem ackedFirst_snoc (e : RaceEvent) :
    AckedFirst (es ++ [e]) id ↔ AckedFirst es id ∨
      ((∃ clock, e = .unackFrame id clock) ∧ ∃ clock, .ackFrame id clock ∈ es) := by
  constructor
  · rintro ⟨pre, clock, post, heq, hack⟩
    rcases List.eq_nil_or_concat post with rfl | ⟨post', e', rfl⟩
    · obtain ⟨hes, he⟩ := List.append_inj' heq rfl
      obtain rfl : e = .unackFrame id clock := by simpa using he
      exact .inr ⟨⟨clock, rfl⟩, hes ▸ hack⟩
    · rw [List.concat_eq_append, ← List.cons_append, ← List.append_assoc] at heq
      obtain ⟨hes, -⟩ := List.append_inj' heq rfl
      exact .inl ⟨pre, clock, post', hes, hack⟩
  · rintro (⟨pre, clock, post, rfl, hack⟩ | ⟨⟨clock, rfl⟩, hack⟩)
    · exact ⟨pre, clock, post ++ [e], by simp, hack⟩
    · exact ⟨es, clock, [], rfl, hack⟩

theorem AckedFirst.acked {es : List RaceEvent} {id : ℕ} (h : AckedFirst es id) :
    ∃ clock, .ackFrame id clock ∈ es := by
  obtain ⟨pre, _, post, rfl, clock, hmem⟩ := h
  exact ⟨clock, List.mem_append_left _ hmem⟩

end Traces

/-! ### The invariant -/

/-- What relates the controller's history to the trace that led to it. -/
structure RaceInv (es : List RaceEvent) (s : RaceState) : Prop where
  acked_iff : ∀ id, id ∈ s.acked ↔ ∃ clock, .ackFrame id clock ∈ es
  recorded_eq : s.recorded = recordedIds es
  recorded_sent : ∀ id ∈ s.recorded, id ∈ s.sent
  recorded_nodup : s.recorded.Nodup
  awaiting : ∀ id, s.pos = .awaitingUnack id → id ∈ s.sent ∧ id ∉ s.recorded
  ids_eq : s.fc.frames.map FrameRecord.frameId = recentIds es
  marked_iff : ∀ f ∈ s.fc.frames,
    f.ackedAt ≠ none ↔ f.frameId ∈ s.acked ∧ ¬ AckedFirst es f.frameId

theorem RaceInv.id_mem_recorded {es : List RaceEvent} {s : RaceState} (h : RaceInv es s)
    {f : FrameRecord} (hf : f ∈ s.fc.frames) : f.frameId ∈ s.recorded := by
  have hmem : f.frameId ∈ recentIds es := h.ids_eq ▸ List.mem_map_of_mem hf
  rw [h.recorded_eq]
  exact List.mem_of_mem_drop hmem

theorem RaceInv.ids_nodup {es : List RaceEvent} {s : RaceState} (h : RaceInv es s) :
    (s.fc.frames.map FrameRecord.frameId).Nodup := by
  rw [h.ids_eq]
  exact (h.recorded_eq ▸ h.recorded_nodup).sublist (List.drop_sublist _ _)

/-- A step that touches neither the history nor the lists of acknowledged and
recorded ids. -/
theorem RaceInv.keep {es : List RaceEvent} {s t : RaceState} {e : RaceEvent}
    (h : RaceInv es s) (hunack : ∀ id clock, e ≠ .unackFrame id clock)
    (hack : ∀ id clock, e ≠ .ackFrame id clock)
    (hfr : t.fc.frames = s.fc.frames) (hacked : t.acked = s.acked)
    (hrec : t.recorded = s.recorded) (hsent : ∀ id ∈ s.sent, id ∈ t.sent)
    (hpos : ∀ id, t.pos = .awaitingUnack id → id ∈ t.sent ∧ id ∉ s.recorded) :
    RaceInv (es ++ [e]) t := by
  have hids : recordedIds (es ++ [e]) = recordedIds es := by
    rw [recordedIds_append]
    cases e with
    | unackFrame id clock => exact absurd rfl (hunack id clock)
    | _ => exact List.append_nil _
  constructor
  · -- the acknowledged ids are those of `ackFrame` events, and `e` is none
    intro id
    rw [hacked, h.acked_iff]
    simp only [List.mem_append, List.mem_singleton]
    exact exists_congr fun clock => (or_iff_left fun he => hack id clock he.symm).symm
  · rw [hrec, h.recorded_eq, hids]
  · rw [hrec]
    exact fun id hid => hsent id (h.recorded_sent id hid)
  · rw [hrec]
    exact h.recorded_nodup
  · rw [hrec]
    exact hpos
  · -- the records of the controller are not touched
    rw [hfr, h.ids_eq]
    unfold recentIds
    rw [hids]
  · rw [hfr, hacked]
    intro f hf
    -- nor is the order of acknowledgement and record
    rw [h.marked_iff f hf, ackedFirst_snoc]
    rw [or_iff_left]
    rintro ⟨⟨clock, he⟩, -⟩
    exact hunack _ clock he

/-- `unack_frame`: the new record is unmarked, whether or not its
acknowledgement has been processed already. -/
theorem RaceInv.unackFrame {es : List RaceEvent} {s : RaceState} (h : RaceInv es s)
    {id : ℕ} {clock : Clock} (hpos : s.pos = .awaitingUnack id) :
    RaceInv (es ++ [.unackFrame id clock])
      { s with
        fc := s.fc.unackFrame id 1 clock
        pos := .idle
        recorded := s.recorded ++ [id]
        now := clock.rates } := by
  obtain ⟨hsent, hfresh⟩ := h.awaiting id hpos
  have hids : recordedIds (es ++ [.unackFrame id clock]) = recordedIds es ++ [id] :=
    recordedIds_append es _
  constructor
  · intro i
    rw [h.acked_iff]
    simp
  · -- the new id is the last recorded one
    rw [hids, h.recorded_eq]
  · intro i hi
    rcases List.mem_append.mp hi with hi | hi
    · exact h.recorded_sent i hi
    · rw [List.mem_singleton.mp hi]
      exact hsent
  · -- it was awaiting its record, so it is not among the earlier ones
    exact List.nodup_append.mpr ⟨h.recorded_nodup, List.nodup_singleton _, by
      intro a ha b hb hab
      exact hfresh (List.mem_singleton.mp hb ▸ hab ▸ ha)⟩
  · intro i hi
    exact absurd hi (by simp)
  · -- the history keeps the latest records, and the new one is put last
    show (s.fc.unackFrame id 1 clock).frames.map FrameRecord.frameId = _
    have hlen : s.fc.frames.length = (recentIds es).length := by
      rw [← h.ids_eq, List.length_map]
    rw [unackFrame_frames, List.map_append, List.map_drop, h.ids_eq, hlen]
    exact (recentIds_snoc es id _ hids).symm
  · intro f hf
    replace hf : f ∈ (s.fc.unackFrame id 1 clock).frames := hf
    rw [unackFrame_frames] at hf
    rw [ackedFirst_snoc]
    rcases List.mem_append.mp hf with hf | hf
    · -- an earlier record: its mark does not depend on the new event
      have hold := List.mem_of_mem_drop hf
      have hne : f.frameId ≠ id := fun he => hfresh (he ▸ h.id_mem_recorded hold)
      have hno : ¬ ∃ c, RaceEvent.unackFrame id clock = .unackFrame f.frameId c := by
        rintro ⟨c, he⟩
        exact hne (RaceEvent.unackFrame.inj he).1.symm
      rw [h.marked_iff f hold, or_iff_left fun hr => hno hr.1]
    · -- the new record is unmarked, and an acknowledgement of it, if any, came first
      rw [List.mem_singleton.mp hf]
      show (none : Option ℕ) ≠ none ↔ id ∈ s.acked ∧ _
      rw [h.acked_iff]
      constructor
      · exact fun hne => absurd rfl hne
      · rintro ⟨hack, hnot⟩
        exact absurd (.inr ⟨⟨clock, rfl⟩, hack⟩) hnot

/-- `ack_frame`: this is the only acknowledgement of the id, so the record, if
there is one, is unmarked and gets marked. -/
theorem RaceInv.ackFrame {es : List RaceEvent} {s : RaceState} (h : RaceInv es s)
    {id : ℕ} {clock : Clock} (hfresh : id ∉ s.acked) :
    RaceInv (es ++ [.ackFrame id clock])
      { s with
        fc := s.fc.ackFrame id clock
        acked := s.acked ++ [id]
        now := clock.rates } := by
  have hids : recordedIds (es ++ [.ackFrame id clock]) = recordedIds es := by
    rw [recordedIds_append]
    exact List.append_nil _
  have hfr : (s.fc.ackFrame id clock).frames = _ :=
    (ackFrame_frames s.fc id clock).trans (markAcked_eq_map _ _ _ h.ids_nodup)
  constructor
  · -- the acknowledged ids gain `id`
    intro i
    simp only [List.mem_append, List.mem_singleton, h.acked_iff]
    constructor
    · rintro (⟨c, hc⟩ | rfl)
      · exact ⟨c, .inl hc⟩
      · exact ⟨clock, .inr rfl⟩
    · rintro ⟨c, hc | hc⟩
      · exact .inl ⟨c, hc⟩
      · exact .inr (RaceEvent.ackFrame.inj hc).1
  · rw [hids]
    exact h.recorded_eq
  · exact h.recorded_sent
  · exact h.recorded_nodup
  · exact h.awaiting
  · -- marking a record keeps its id, so the ids in the history stay
    show (s.fc.ackFrame id clock).frames.map FrameRecord.frameId = _
    unfold recentIds
    rw [hfr, hids, List.map_map]
    refine Eq.trans (List.map_congr_left fun f _ => ?_) h.ids_eq
    show FrameRecord.frameId (if _ then _ else _) = f.frameId
    split <;> rfl
  · intro f hf
    replace hf : f ∈ (s.fc.ackFrame id clock).frames := hf
    rw [hfr, List.mem_map] at hf
    obtain ⟨g, hg, rfl⟩ := hf
    have hmark := h.marked_iff g hg
    -- the record of `id` gets its mark now; every other keeps its own
    by_cases hid : g.frameId = id
    · have hnone : g.ackedAt = none := by
        by_contra hne
        exact hfresh (hid ▸ (hmark.mp hne).1)
      have hnot : ¬ AckedFirst es id := fun ha => hfresh ((h.acked_iff id).mpr ha.acked)
      rw [if_pos ⟨hid, hnone⟩, ackedFirst_snoc]
      simp [hid, hnot]
    · rw [if_neg fun hc => hid hc.1, hmark, ackedFirst_snoc]
      simp [hid]

/-- The step lemma: every step of either party keeps the invariant. -/
theorem raceInv_step {es : List RaceEvent} {s t : RaceState} {e : RaceEvent}
    (h : RaceInv es s) (hst : RaceStep s e t) : RaceInv (es ++ [e]) t := by
  replace hst : s.step e = some t := hst
  cases e with
  | checkThrottle =>
      simp only [RaceState.step] at hst
      split at hst
      · -- only the position of the sender changes
        next hpos =>
          split at hst
          · obtain rfl := Option.some.inj hst
            exact h.keep (by simp) (by simp) rfl rfl rfl (fun _ hid => hid) h.awaiting
          · obtain rfl := Option.some.inj hst
            exact h.keep (by simp) (by simp) rfl rfl rfl (fun _ hid => hid) (by simp)
      · exact absurd hst (by simp)
  | dropFrame =>
      simp only [RaceState.step, Option.ite_none_right_eq_some] at hst
      obtain ⟨-, rfl⟩ := hst.imp_right Option.some.inj
      exact h.keep (by simp) (by simp) rfl rfl rfl (fun _ hid => hid) (by simp)
  | sendFrame id =>
      simp only [RaceState.step, Option.ite_none_right_eq_some] at hst
      obtain ⟨⟨-, hfresh⟩, rfl⟩ := hst.imp_right Option.some.inj
      refine h.keep (by simp) (by simp) rfl rfl rfl (fun _ => List.mem_append_left _) ?_
      intro i hi
      obtain rfl : id = i := by simpa using hi
      exact ⟨List.mem_append_right _ (List.mem_singleton_self id),
        fun hrec => hfresh (h.recorded_sent id hrec)⟩
  | unackFrame id clock =>
      simp only [RaceState.step, Option.ite_none_right_eq_some] at hst
      obtain ⟨⟨hpos, -⟩, rfl⟩ := hst.imp_right Option.some.inj
      exact h.unackFrame hpos
  | ackFrame id clock =>
      simp only [RaceState.step, Option.ite_none_right_eq_some] at hst
      obtain ⟨⟨-, hfresh, -⟩, rfl⟩ := hst.imp_right Option.some.inj
      exact h.ackFrame hfresh
  | autodetectRtt value =>
      obtain rfl := Option.some.inj hst
      exact h.keep (by simp) (by simp) rfl rfl rfl (fun _ hid => hid) h.awaiting

/-- Every step changes the controller by one of its events or not at all. -/
theorem RaceState.step_fc {s t : RaceState} {e : RaceEvent} (h : s.step e = some t) :
    t.fc = s.fc ∨ ∃ ev, t.fc = s.fc.apply ev := by
  cases e with
  | checkThrottle =>
      simp only [step] at h
      split at h
      · split at h <;> exact .inl (Option.some.inj h ▸ rfl)
      · exact absurd h (by simp)
  | dropFrame =>
      simp only [step, Option.ite_none_right_eq_some] at h
      exact .inl (Option.some.inj h.2 ▸ rfl)
  | sendFrame id =>
      simp only [step, Option.ite_none_right_eq_some] at h
      exact .inl (Option.some.inj h.2 ▸ rfl)
  | unackFrame id clock =>
      simp only [step, Option.ite_none_right_eq_some] at h
      exact .inr ⟨.unackFrame id 1 clock, Option.some.inj h.2 ▸ rfl⟩
  | ackFrame id clock =>
      simp only [step, Option.ite_none_right_eq_some] at h
      exact .inr ⟨.ackFrame id clock, Option.some.inj h.2 ▸ rfl⟩
  | autodetectRtt value => exact .inr ⟨.autodetectRtt value, Option.some.inj h ▸ rfl⟩

section Runs

variable {config : FlowControllerConfig} {es : List RaceEvent} {s : RaceState}

/-- The run lemma. -/
theorem raceInv_run (h : Run RaceStep (RaceState.init config) es s) : RaceInv es s := by
  refine h.invariant_trace ?_ fun _ hinv hst => raceInv_step hinv hst
  constructor <;> simp [RaceState.init, FlowController.new, recordedIds, recentIds]

theorem raceRun_flowInv (hd : 1 ≤ config.deactivateTh)
    (h : Run RaceStep (RaceState.init config) es s) :
    s.fc.FlowInv ∧ s.fc.config = config := by
  refine h.invariant (P := fun s => s.fc.FlowInv ∧ s.fc.config = config)
    ⟨flowInv_new config, rfl⟩ ?_
  rintro s e t ⟨hinv, hcfg⟩ hst
  rcases RaceState.step_fc hst with he | ⟨ev, he⟩
  · rw [he]
    exact ⟨hinv, hcfg⟩
  · rw [he]
    exact ⟨flowInv_apply hinv (hcfg ▸ hd) ev, (apply_config _ ev).trans hcfg⟩

/-- Once everything sent is acknowledged, nothing counts as outstanding exactly
when no acknowledgement among the frames still in the history came first. -/
theorem unackedCount_eq_zero_iff (h : Run RaceStep (RaceState.init config) es s)
    (hset : s.Settled) :
    s.fc.unackedCount = 0 ↔ ∀ id ∈ recentIds es, ¬ AckedFirst es id := by
  have hinv := raceInv_run h
  rw [← Nat.lt_one_iff, ← not_le, unackedCount_pos_iff, ← hinv.ids_eq]
  simp only [List.forall_mem_map, not_exists, not_and]
  refine forall₂_congr fun f hf => ?_
  have hacked : f.frameId ∈ s.acked :=
    (hset _ (hinv.recorded_sent _ (hinv.id_mem_recorded hf))).1
  rw [← ne_eq, hinv.marked_iff f hf]
  exact and_iff_right hacked

/-- **When the flow controller drains.**  For every interleaving of the display
loop and the acknowledgements: once every frame sent has been acknowledged and
its `unack_frame` has returned, the controller counts nothing as outstanding and
lets the encoder run if and only if none of the last 240 frames was acknowledged
before its `unack_frame`. -/
theorem flow_drained_iff (config : FlowControllerConfig) (hd : 1 ≤ config.deactivateTh)
    (es : List RaceEvent) (s : RaceState)
    (h : Run RaceStep (RaceState.init config) es s) (hset : s.Settled) :
    (s.fc.unackedCount = 0 ∧ s.fc.shouldThrottle = false) ↔
      ∀ id ∈ recentIds es, ¬ AckedFirst es id := by
  rw [← unackedCount_eq_zero_iff h hset]
  refine and_iff_left_of_imp fun hzero => ?_
  rw [Bool.eq_false_iff]
  intro ht
  have hpos := (raceRun_flowInv hd h).1.throttle_outstanding ht
  omega

end Runs

/-! ### The race -/

/-- One frame whose acknowledgement overtakes its `unack_frame`. -/
def racedFrame (id : ℕ) : List RaceEvent :=
  [.checkThrottle, .sendFrame id, .ackFrame id ⟨0, 0, 0⟩, .unackFrame id ⟨0, 0, 0⟩]

/-- One frame whose acknowledgement arrives after its `unack_frame`. -/
def orderedFrame (id : ℕ) : List RaceEvent :=
  [.checkThrottle, .sendFrame id, .unackFrame id ⟨0, 0, 0⟩, .ackFrame id ⟨0, 0, 0⟩]

/-- The state after three frames that lost the race: three phantom records, and
the encoder stopped. -/
def racedState : RaceState where
  fc := { cycled 0 with frames := unackedRecords 3, activateTh := 3 }.enterActive
  pos := .idle
  sent := [1, 2, 3]
  acked := [1, 2, 3]
  recorded := [1, 2, 3]
  now := 0

theorem run_racedState :
    Run RaceStep (RaceState.init .default) (racedFrame 1 ++ racedFrame 2 ++ racedFrame 3)
      racedState :=
  Run.of_foldlM (by decide)

/-- Three lost races stop the encoder with nothing outstanding, and no
acknowledgement is left that could release it. -/
theorem flow_race_throttles :
    ¬ ∀ (es : List RaceEvent) (s : RaceState), Run RaceStep (RaceState.init .default) es s →
      s.Settled → s.fc.unackedCount = 0 ∧ s.fc.shouldThrottle = false := by
  intro hall
  have hset : racedState.Settled := fun id hid => ⟨hid, hid⟩
  exact absurd (hall _ _ run_racedState hset).2 (by decide)

/-- In the right order the same controller drains. -/
theorem flow_drained_iff_ordered :
    ∃ s, Run RaceStep (RaceState.init .default) (orderedFrame 1) s ∧ s.Settled ∧
      s.fc.unackedCount = 0 ∧ s.fc.shouldThrottle = false ∧
      ∀ id ∈ recentIds (orderedFrame 1), ¬ AckedFirst (orderedFrame 1) id := by
  obtain ⟨s, hs, hids, hcount, hthrottle⟩ :
      ∃ s, (orderedFrame 1).foldlM RaceState.step (RaceState.init .default) = some s ∧
        (s.sent = [1] ∧ s.acked = [1] ∧ s.recorded = [1]) ∧
        s.fc.unackedCount = 0 ∧ s.fc.shouldThrottle = false := by
    refine ⟨_, rfl, ?_⟩
    decide
  have hset : s.Settled := by
    intro id hid
    rw [hids.1] at hid
    rw [hids.2.1, hids.2.2]
    exact ⟨hid, hid⟩
  have hrun := Run.of_foldlM hs
  exact ⟨s, hrun, hset, hcount, hthrottle,
    (flow_drained_iff .default (by decide) _ s hrun hset).mp ⟨hcount, hthrottle⟩⟩

end LamcoRdp
