/-
LamcoRdp/Performance/EncodingAdaptation.lean

The adaptation of the encoder's QP to the client (`performance/encoding_adaptation.rs`):
a damped walk towards a target that depends on how many frames wait at the client.

The arithmetic is `u32` and checked.  The clock is an input: a call is told how
long ago the last evaluation was, in nanoseconds.

The walk goes a quarter of the way at a time, rounded down, so it stops three
below a target that it climbs to.  `EncodingAdaptation.neverFaults_iff` says
exactly which configurations keep the walk inside `u32`: those under which three
times the QP and a target can be added, at the start and wherever the walk climbs
to.
-/
import LamcoRdp.Lib.Checked

namespace LamcoRdp

open Checked

/-! ### Configuration and state -/

/-- `EncodingAdaptationConfig`. -/
structure EncodingAdaptationConfig where
  enabled : Bool
  baseQp : UInt32
  minQp : UInt32
  maxQp : UInt32
  evaluationIntervalMs : UInt32
  moderateQueueThreshold : UInt32
  severeQueueThreshold : UInt32

/-- `EncodingAdaptationConfig::default`. -/
def EncodingAdaptationConfig.default : EncodingAdaptationConfig where
  enabled := false
  baseQp := 22
  minQp := 18
  maxQp := 42
  evaluationIntervalMs := 500
  moderateQueueThreshold := 3
  severeQueueThreshold := 6

/-- `EncodingAdaptation`, without the time of the last evaluation. -/
structure EncodingAdaptation where
  config : EncodingAdaptationConfig
  currentQp : ℕ

/-- The QP that a queue of this depth asks for. -/
def EncodingAdaptationConfig.targetQp (config : EncodingAdaptationConfig) (queueDepth : ℕ) :
    Checked ℕ :=
  if queueDepth > config.severeQueueThreshold.toNat then do
    let qp ← add 32 config.baseQp.toNat 10
    .ok (min qp config.maxQp.toNat)
  else if queueDepth > config.moderateQueueThreshold.toNat then do
    let qp ← add 32 config.baseQp.toNat 4
    .ok (min qp config.maxQp.toNat)
  else if queueDepth = 0 then .ok (max (config.baseQp.toNat - 2) config.minQp.toNat)
  else .ok config.baseQp.toNat

namespace EncodingAdaptation

/-- `EncodingAdaptation::new`. -/
def new (config : EncodingAdaptationConfig) : EncodingAdaptation where
  config := config
  currentQp := config.baseQp.toNat

/-- `adapted_qp`. -/
def adaptedQp (a : EncodingAdaptation) (elapsed queueDepth : ℕ) :
    Checked (EncodingAdaptation × ℕ) :=
  if !a.config.enabled then .ok (a, a.config.baseQp.toNat)
  else if elapsed < a.config.evaluationIntervalMs.toNat * 10 ^ 6 then .ok (a, a.currentQp)
  else do
    let targetQp ← a.config.targetQp queueDepth
    let tripled ← mul 32 a.currentQp 3
    let sum ← add 32 tripled targetQp
    let currentQp ← clamp (sum / 4) a.config.minQp.toNat a.config.maxQp.toNat
    .ok ({ a with currentQp }, currentQp)

end EncodingAdaptation

/-- A call of `adapted_qp`: the time since the last evaluation, and what the client reports
then. -/
structure AdaptedQpCall where
  elapsed : ℕ
  queueDepth : UInt32

/-- A call of `adapted_qp`. -/
def EncodingAdaptation.call (a : EncodingAdaptation) (c : AdaptedQpCall) :
    Checked EncodingAdaptation := do
  let (next, _) ← a.adaptedQp c.elapsed c.queueDepth.toNat
  .ok next

/-! ### Targets -/

namespace EncodingAdaptationConfig

variable {config : EncodingAdaptationConfig} {queueDepth t : ℕ}

/-- The QP chosen for a depth: the base QP, ten or four more of it, or two less, within the
limits. -/
def chosenQp (config : EncodingAdaptationConfig) (queueDepth : ℕ) : ℕ :=
  if queueDepth > config.severeQueueThreshold.toNat then
    min (config.baseQp.toNat + 10) config.maxQp.toNat
  else if queueDepth > config.moderateQueueThreshold.toNat then
    min (config.baseQp.toNat + 4) config.maxQp.toNat
  else if queueDepth = 0 then max (config.baseQp.toNat - 2) config.minQp.toNat
  else config.baseQp.toNat

/-- The sum that leads to the chosen QP is a `u32`. -/
def Computes (config : EncodingAdaptationConfig) (queueDepth : ℕ) : Prop :=
  (config.severeQueueThreshold.toNat < queueDepth → config.baseQp.toNat + 10 < 2 ^ 32) ∧
    (config.moderateQueueThreshold.toNat < queueDepth →
      queueDepth ≤ config.severeQueueThreshold.toNat → config.baseQp.toNat + 4 < 2 ^ 32)

theorem targetQp_eq_ok : config.targetQp queueDepth = .ok t ↔
    config.Computes queueDepth ∧ config.chosenQp queueDepth = t := by
  unfold EncodingAdaptationConfig.targetQp Computes chosenQp
  split_ifs with hsevere hmoderate hzero
  · simp only [bind_eq_ok, add_eq_ok, Except.ok.injEq]
    constructor
    · rintro ⟨_, ⟨hfit, rfl⟩, rfl⟩
      exact ⟨⟨fun _ => hfit, fun _ hle => absurd hsevere (by omega)⟩, rfl⟩
    · rintro ⟨⟨hfit, -⟩, rfl⟩
      exact ⟨_, ⟨hfit hsevere, rfl⟩, rfl⟩
  · simp only [bind_eq_ok, add_eq_ok, Except.ok.injEq]
    constructor
    · rintro ⟨_, ⟨hfit, rfl⟩, rfl⟩
      exact ⟨⟨fun h => absurd h hsevere, fun _ _ => hfit⟩, rfl⟩
    · rintro ⟨⟨-, hfit⟩, rfl⟩
      exact ⟨_, ⟨hfit hmoderate (by omega), rfl⟩, rfl⟩
  · simp only [Except.ok.injEq]
    exact ⟨fun h => ⟨⟨fun h' => absurd h' hsevere, fun h' => absurd h' hmoderate⟩, h⟩, And.right⟩
  · simp only [Except.ok.injEq]
    exact ⟨fun h => ⟨⟨fun h' => absurd h' hsevere, fun h' => absurd h' hmoderate⟩, h⟩, And.right⟩

/-- Some depth of the queue asks for this QP. -/
def Aims (config : EncodingAdaptationConfig) (t : ℕ) : Prop :=
  t = max (config.baseQp.toNat - 2) config.minQp.toNat ∨
  (1 ≤ config.moderateQueueThreshold.toNat ∧ 1 ≤ config.severeQueueThreshold.toNat ∧
    t = config.baseQp.toNat) ∨
  (config.moderateQueueThreshold.toNat < config.severeQueueThreshold.toNat ∧
    t = min (config.baseQp.toNat + 4) config.maxQp.toNat) ∨
  (config.severeQueueThreshold.toNat < 2 ^ 32 - 1 ∧
    t = min (config.baseQp.toNat + 10) config.maxQp.toNat)

/-- Where the walk to a target that is above comes to rest. -/
def rest (config : EncodingAdaptationConfig) (t : ℕ) : ℕ :=
  max config.minQp.toNat (min (t - 3) config.maxQp.toNat)

/-- Bounds in order, targets that can be computed, and room for three times the QP and a
target, at the start and where the walk comes to rest. -/
structure Sound (config : EncodingAdaptationConfig) : Prop where
  le : config.minQp.toNat ≤ config.maxQp.toNat
  severe : config.severeQueueThreshold.toNat < 2 ^ 32 - 1 → config.baseQp.toNat + 10 < 2 ^ 32
  moderate : config.moderateQueueThreshold.toNat < config.severeQueueThreshold.toNat →
    config.baseQp.toNat + 4 < 2 ^ 32
  start : ∀ {t}, config.Aims t → 3 * config.baseQp.toNat + t < 2 ^ 32
  resting : ∀ {t t'}, config.Aims t → config.Aims t' → 3 * config.rest t + t' < 2 ^ 32

/-- Small QPs are sound ones. -/
theorem sound_of_small (hle : config.minQp.toNat ≤ config.maxQp.toNat)
    (hbase : config.baseQp.toNat < 2 ^ 29) (hmax : config.maxQp.toNat < 2 ^ 29) :
    config.Sound := by
  have haims : ∀ {t}, config.Aims t → t < 2 ^ 29 := by
    rintro t (rfl | ⟨-, -, rfl⟩ | ⟨-, rfl⟩ | ⟨-, rfl⟩) <;> omega
  refine ⟨hle, fun _ => by omega, fun _ => by omega, fun ht => ?_, fun ht ht' => ?_⟩
  · have hlt := haims ht
    omega
  · have hlt := haims ht
    have hlt' := haims ht'
    unfold rest
    omega

/-- Every depth asks for a target. -/
theorem Sound.computes (h : config.Sound) (queueDepth : UInt32) :
    config.Computes queueDepth.toNat ∧ config.Aims (config.chosenQp queueDepth.toNat) := by
  have hlt := queueDepth.toNat_lt
  refine ⟨⟨fun _ => h.severe (by omega), fun _ _ => h.moderate (by omega)⟩, ?_⟩
  unfold chosenQp
  split_ifs with hsevere hmoderate hzero
  · exact .inr (.inr (.inr ⟨by omega, rfl⟩))
  · exact .inr (.inr (.inl ⟨by omega, rfl⟩))
  · exact .inl rfl
  · exact .inr (.inl ⟨by omega, by omega, rfl⟩)

theorem exists_depth {n : ℕ} (h : n < 2 ^ 32) : ∃ queueDepth : UInt32, queueDepth.toNat = n :=
  ⟨UInt32.ofNat n, UInt32.toNat_ofNat_of_lt' h⟩

/-- A target is what some depth asks for. -/
theorem Aims.exists_depth (ht : config.Aims t) :
    ∃ queueDepth : UInt32, config.chosenQp queueDepth.toNat = t := by
  -- the depth chosen for each kind of target
  obtain ⟨n, hn, hask⟩ : ∃ n < 2 ^ 32, config.chosenQp n = t := by
    unfold chosenQp
    rcases ht with rfl | ⟨hmod, hsev, rfl⟩ | ⟨hlt, rfl⟩ | ⟨hlt, rfl⟩
    · refine ⟨0, by omega, ?_⟩
      rw [if_neg (by omega), if_neg (by omega), if_pos rfl]
    · refine ⟨1, by omega, ?_⟩
      rw [if_neg (by omega), if_neg (by omega), if_neg (by omega)]
    · refine ⟨config.severeQueueThreshold.toNat, UInt32.toNat_lt _, ?_⟩
      rw [if_neg (by omega), if_pos (by omega)]
    · refine ⟨2 ^ 32 - 1, by omega, ?_⟩
      rw [if_pos (by omega)]
  obtain ⟨queueDepth, rfl⟩ := EncodingAdaptationConfig.exists_depth hn
  exact ⟨queueDepth, hask⟩

/-- The sums that some depth asks for. -/
theorem sums_fit (h : ∀ queueDepth : UInt32, config.Computes queueDepth.toNat) :
    (config.severeQueueThreshold.toNat < 2 ^ 32 - 1 → config.baseQp.toNat + 10 < 2 ^ 32) ∧
      (config.moderateQueueThreshold.toNat < config.severeQueueThreshold.toNat →
        config.baseQp.toNat + 4 < 2 ^ 32) := by
  constructor
  · intro hlt
    obtain ⟨queueDepth, hdepth⟩ :=
      EncodingAdaptationConfig.exists_depth (n := 2 ^ 32 - 1) (by omega)
    exact (h queueDepth).1 (by omega)
  · intro hlt
    exact (h config.severeQueueThreshold).2 hlt le_rfl

end EncodingAdaptationConfig

/-! ### The walk -/

namespace EncodingAdaptation

variable {config : EncodingAdaptationConfig} {a : EncodingAdaptation} {t elapsed : ℕ}

/-- Where an evaluation takes the QP. -/
def damped (a : EncodingAdaptation) (t : ℕ) : ℕ :=
  max a.config.minQp.toNat (min ((a.currentQp * 3 + t) / 4) a.config.maxQp.toNat)

/-- The step towards a target. -/
def towards (a : EncodingAdaptation) (t : ℕ) : EncodingAdaptation :=
  { a with currentQp := a.damped t }

/-- What an evaluation needs, and what it does. -/
theorem adaptedQp_eq_ok (henabled : a.config.enabled = true)
    (hdue : a.config.evaluationIntervalMs.toNat * 10 ^ 6 ≤ elapsed) (queueDepth : ℕ)
    (p : EncodingAdaptation × ℕ) :
    a.adaptedQp elapsed queueDepth = .ok p ↔
      a.config.Computes queueDepth ∧
        3 * a.currentQp + a.config.chosenQp queueDepth < 2 ^ 32 ∧
        a.config.minQp.toNat ≤ a.config.maxQp.toNat ∧
        p = (a.towards (a.config.chosenQp queueDepth),
          (a.towards (a.config.chosenQp queueDepth)).currentQp) := by
  unfold adaptedQp
  rw [if_neg (by simp [henabled]), if_neg (by omega)]
  constructor
  · -- each checked operation of the source gives one of the bounds
    intro h
    obtain ⟨t, ht, h⟩ := bind_eq_ok.mp h
    obtain ⟨hcomputes, rfl⟩ := EncodingAdaptationConfig.targetQp_eq_ok.mp ht
    obtain ⟨tripled, htripled, h⟩ := bind_eq_ok.mp h
    obtain ⟨-, rfl⟩ := mul_eq_ok.mp htripled
    obtain ⟨sum, hsum, h⟩ := bind_eq_ok.mp h
    obtain ⟨hfit, rfl⟩ := add_eq_ok.mp hsum
    obtain ⟨qp, hqp, h⟩ := bind_eq_ok.mp h
    obtain ⟨hle, rfl⟩ := clamp_eq_ok.mp hqp
    exact ⟨hcomputes, by omega, hle, (Except.ok.inj h).symm⟩
  · -- with the bounds none of them fails
    rintro ⟨hcomputes, hfit, hle, rfl⟩
    rw [EncodingAdaptationConfig.targetQp_eq_ok.mpr ⟨hcomputes, rfl⟩, ok_bind,
      mul_ok (by omega), ok_bind, add_ok (by omega), ok_bind, clamp_ok hle, ok_bind]
    rfl

/-- A step towards a target goes no further up than to where the walk rests. -/
theorem damped_le (c t lo hi : ℕ) :
    max lo (min ((c * 3 + t) / 4) hi) ≤ max c (max lo (min (t - 3) hi)) := by
  omega

/-- Below its place of rest the walk goes up. -/
theorem lt_damped {c t lo hi : ℕ} (hle : lo ≤ hi) (h : c < max lo (min (t - 3) hi)) :
    c < max lo (min ((c * 3 + t) / 4) hi) := by
  omega

/-- An adaptation of this configuration with room for three times its QP and a target. -/
structure Roomy (config : EncodingAdaptationConfig) (a : EncodingAdaptation) : Prop where
  config_eq : a.config = config
  room : ∀ {t}, config.Aims t → 3 * a.currentQp + t < 2 ^ 32

theorem Roomy.call (h : Roomy config a) (hsound : config.enabled = true → config.Sound)
    (c : AdaptedQpCall) : ∃ b, a.call c = .ok b ∧ Roomy config b := by
  obtain ⟨rfl, hroom⟩ := h
  unfold EncodingAdaptation.call
  -- disabled, or too early: nothing is computed
  cases henabled : a.config.enabled with
  | false =>
      refine ⟨a, ?_, rfl, hroom⟩
      rw [adaptedQp, if_pos (by rw [henabled]; rfl), ok_bind]
  | true =>
      have hsound := hsound henabled
      by_cases hearly : c.elapsed < a.config.evaluationIntervalMs.toNat * 10 ^ 6
      · refine ⟨a, ?_, rfl, hroom⟩
        rw [adaptedQp, if_neg (by simp [henabled]), if_pos hearly, ok_bind]
      -- the next target is in range, so the damped step is too
      obtain ⟨hcomputes, ht⟩ := hsound.computes c.queueDepth
      have hfit := hroom ht
      rw [(adaptedQp_eq_ok henabled (by omega) _ _).mpr ⟨hcomputes, hfit, hsound.le, rfl⟩, ok_bind]
      refine ⟨_, rfl, rfl, fun {t'} ht' => ?_⟩
      have hle := damped_le a.currentQp (a.config.chosenQp c.queueDepth.toNat)
        a.config.minQp.toNat a.config.maxQp.toNat
      show 3 * damped _ _ + t' < 2 ^ 32
      unfold damped
      -- the value stays, or it has climbed no higher than the target lets it rest
      rcases le_max_iff.mp hle with hstay | hclimb
      · have hfit' := hroom ht'
        omega
      · have hrest := hsound.resting ht ht'
        unfold EncodingAdaptationConfig.rest at hrest
        omega

/-- An evaluation of an adaptation that never faults. -/
theorem NeverFaults.evaluates (h : NeverFaults call a) (henabled : a.config.enabled = true)
    (queueDepth : UInt32) : a.config.Computes queueDepth.toNat ∧
      3 * a.currentQp + a.config.chosenQp queueDepth.toNat < 2 ^ 32 ∧
      a.config.minQp.toNat ≤ a.config.maxQp.toNat ∧
      NeverFaults call (a.towards (a.config.chosenQp queueDepth.toNat)) := by
  obtain ⟨b, hb, hnext⟩ := h.next ⟨a.config.evaluationIntervalMs.toNat * 10 ^ 6, queueDepth⟩
  obtain ⟨p, hp, hb⟩ := bind_eq_ok.mp hb
  obtain ⟨hcomputes, hfit, hle, rfl⟩ := (adaptedQp_eq_ok henabled le_rfl _ p).mp hp
  obtain rfl := Except.ok.inj hb
  exact ⟨hcomputes, hfit, hle, hnext⟩

/-- The walk to a target climbs to its place of rest. -/
theorem NeverFaults.climbs (h : NeverFaults call a) (henabled : a.config.enabled = true)
    {queueDepth : UInt32} (ht : a.config.chosenQp queueDepth.toNat = t) :
    ∃ b, NeverFaults call b ∧ b.config = a.config ∧ a.config.rest t ≤ b.currentQp := by
  induction hgap : a.config.rest t - a.currentQp using Nat.strong_induction_on
    generalizing a with
  | _ gap ih =>
      rcases Nat.lt_or_ge a.currentQp (a.config.rest t) with hbelow | hthere
      · obtain ⟨-, -, hle, hnext⟩ := NeverFaults.evaluates h henabled queueDepth
        rw [ht] at hnext
        have hup := lt_damped hle hbelow
        obtain ⟨b, hb, hconfig, hrest⟩ := ih _ (hgap ▸ Nat.sub_lt_sub_left hbelow hup) hnext
          henabled ht rfl
        exact ⟨b, hb, hconfig, hrest⟩
      · exact ⟨a, h, rfl, hthere⟩

/-- **Exactly the sound configurations keep the adaptation going**, whatever the client
reports. -/
theorem neverFaults_iff :
    NeverFaults call (new config) ↔ (config.enabled = true → config.Sound) := by
  constructor
  · -- a fault-free controller computes every target
    intro h henabled
    obtain ⟨hsum, hsum'⟩ := EncodingAdaptationConfig.sums_fit fun queueDepth =>
      (NeverFaults.evaluates h henabled queueDepth).1
    -- and, from every state it reaches, the sum with every target
    have hroom : ∀ {a : EncodingAdaptation} {t : ℕ}, NeverFaults call a → a.config = config →
        config.Aims t → 3 * a.currentQp + t < 2 ^ 32 := by
      rintro a t ha rfl ht
      obtain ⟨queueDepth, rfl⟩ := ht.exists_depth
      exact (NeverFaults.evaluates ha henabled queueDepth).2.1
    obtain ⟨-, -, hle, -⟩ := NeverFaults.evaluates h henabled 0
    -- it also reaches the rest of each target, which gives the last bound
    refine ⟨hle, hsum, hsum', fun ht => hroom h rfl ht, fun {t t'} ht ht' => ?_⟩
    obtain ⟨queueDepth, hdepth⟩ := ht.exists_depth
    obtain ⟨b, hb, hconfig, hrest⟩ := NeverFaults.climbs h henabled hdepth
    have hfit := hroom hb hconfig ht'
    change config.rest t ≤ b.currentQp at hrest
    omega
  · -- conversely, `Roomy` is kept by every call
    intro hsound
    by_cases henabled : config.enabled = true
    · exact NeverFaults.of_invariant (I := Roomy config) (fun c h => h.call hsound c)
        ⟨rfl, fun ht => (hsound henabled).start ht⟩
    · refine NeverFaults.of_invariant (I := fun a => a.config = config) ?_ rfl
      rintro a c rfl
      refine ⟨a, ?_, rfl⟩
      unfold EncodingAdaptation.call adaptedQp
      rw [if_pos (by simpa using henabled), ok_bind]

end EncodingAdaptation

end LamcoRdp
