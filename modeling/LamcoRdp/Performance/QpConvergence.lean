/-
LamcoRdp/Performance/QpConvergence.lean

Where the adapted QP ends up under a queue whose depth stays the same.

An evaluation goes a quarter of the way to the target, in `u32` division.  Going
down, the division rounds the step up, and the walk arrives.  Going up, it rounds
the step down, and the last three QPs are never made up.  So the walk settles on
the target exactly where it starts at or above it
(`EncodingAdaptation.adapted_qp_settles_iff`).
-/
import LamcoRdp.Lib.Runs
import LamcoRdp.Performance.EncodingAdaptation

namespace LamcoRdp

open Checked Runs

/-! ### Targets -/

namespace EncodingAdaptationConfig

variable {config : EncodingAdaptationConfig}

/-- A base QP within the limits leads to targets within them. -/
theorem chosenQp_mem (hmin : config.minQp.toNat ≤ config.baseQp.toNat)
    (hmax : config.baseQp.toNat ≤ config.maxQp.toNat) (queueDepth : ℕ) :
    config.minQp.toNat ≤ config.chosenQp queueDepth ∧
      config.chosenQp queueDepth ≤ config.maxQp.toNat := by
  unfold chosenQp
  split_ifs <;> omega

end EncodingAdaptationConfig

/-! ### Evaluations -/

namespace EncodingAdaptation

variable {config : EncodingAdaptationConfig} {a b : EncodingAdaptation}

/-- A call takes the QP nowhere, or to where an evaluation takes it. -/
theorem call_eq_ok {c : AdaptedQpCall} (h : a.call c = .ok b) :
    b.config = a.config ∧
      (b.currentQp = a.currentQp ∨
        a.config.minQp.toNat ≤ a.config.maxQp.toNat ∧ ∃ t, b.currentQp = a.damped t) := by
  obtain ⟨p, hp, hb⟩ := bind_eq_ok.mp h
  obtain rfl := Except.ok.inj hb
  by_cases henabled : a.config.enabled = true
  · by_cases hdue : a.config.evaluationIntervalMs.toNat * 10 ^ 6 ≤ c.elapsed
    · obtain ⟨-, -, hle, rfl⟩ := (adaptedQp_eq_ok henabled hdue _ p).mp hp
      exact ⟨rfl, .inr ⟨hle, _, rfl⟩⟩
    · unfold adaptedQp at hp
      rw [if_neg (by simp [henabled]), if_pos (by omega)] at hp
      obtain rfl := Except.ok.inj hp
      exact ⟨rfl, .inl rfl⟩
  · unfold adaptedQp at hp
    rw [if_pos (by simpa using henabled)] at hp
    obtain rfl := Except.ok.inj hp
    exact ⟨rfl, .inl rfl⟩

/-- The QP stays within its limits, whatever the client reports. -/
structure Limited (config : EncodingAdaptationConfig) (a : EncodingAdaptation) : Prop where
  config_eq : a.config = config
  le_qp : config.minQp.toNat ≤ a.currentQp
  qp_le : a.currentQp ≤ config.maxQp.toNat

theorem Limited.call {c : AdaptedQpCall} (h : Limited config a) (hcall : a.call c = .ok b) :
    Limited config b := by
  obtain ⟨rfl, hmin, hmax⟩ := h
  obtain ⟨hconfig, hqp | ⟨hle, t, hqp⟩⟩ := call_eq_ok hcall
  · exact ⟨hconfig, hqp ▸ hmin, hqp ▸ hmax⟩
  · unfold damped at hqp
    exact ⟨hconfig, by omega, by omega⟩

theorem limited_of_run {calls : List AdaptedQpCall}
    (hmin : config.minQp.toNat ≤ config.baseQp.toNat)
    (hmax : config.baseQp.toNat ≤ config.maxQp.toNat)
    (h : Run (fun a c b => a.call c = .ok b) (new config) calls a) : Limited config a :=
  h.invariant ⟨rfl, hmin, hmax⟩ fun h hcall => h.call hcall

/-! ### A queue of constant depth -/

/-- One evaluation after another, with the time that passes before each. -/
structure Walk (a : EncodingAdaptation) (queueDepth : UInt32) (elapsed : ℕ → ℕ)
    (s : ℕ → EncodingAdaptation) : Prop where
  start : s 0 = a
  step : ∀ n, (s n).adaptedQp (elapsed n) queueDepth.toNat = .ok (s (n + 1), (s (n + 1)).currentQp)

/-- Evaluations at a constant depth keep the QP within its limits, move it one way only, and
end at the QP chosen for the depth. -/
def Settles (a : EncodingAdaptation) (queueDepth : UInt32) : Prop :=
  ∀ elapsed : ℕ → ℕ, (∀ n, a.config.evaluationIntervalMs.toNat * 10 ^ 6 ≤ elapsed n) →
    ∃ s, Walk a queueDepth elapsed s ∧
      (∀ n, a.config.minQp.toNat ≤ (s n).currentQp ∧
        (s n).currentQp ≤ a.config.maxQp.toNat) ∧
      ((Monotone fun n => (s n).currentQp) ∨ Antitone fun n => (s n).currentQp) ∧
      ∃ N, ∀ n ≥ N, (s n).currentQp = a.config.chosenQp queueDepth.toNat

/-- Going down, a step stays above the target and is at least one. -/
theorem damped_falls {t : ℕ} (hle : a.config.minQp.toNat ≤ t) (ht : t ≤ a.currentQp)
    (hmax : a.currentQp ≤ a.config.maxQp.toNat) :
    t ≤ a.damped t ∧ a.damped t ≤ max t (a.currentQp - 1) := by
  unfold damped
  omega

/-- Going up, a step stays below the target. -/
theorem damped_lt {t : ℕ} (hle : a.config.minQp.toNat ≤ a.currentQp) (ht : a.currentQp < t) :
    a.damped t < t := by
  unfold damped
  omega

/-- What the steps down from a QP within its limits keep. -/
structure Falling (a : EncodingAdaptation) (t n : ℕ) (b : EncodingAdaptation) : Prop where
  config_eq : b.config = a.config
  ge : t ≤ b.currentQp
  le : b.currentQp ≤ max t (a.currentQp - n)

/-- The next step down. -/
theorem Falling.damped {t n : ℕ} (h : Falling a t n b) (hle : a.config.minQp.toNat ≤ t)
    (ht : t ≤ a.currentQp) (hmax : a.currentQp ≤ a.config.maxQp.toNat) :
    t ≤ b.damped t ∧ b.damped t ≤ max t (b.currentQp - 1) := by
  obtain ⟨hconfig, hge, hbound⟩ := h
  apply damped_falls
  · rw [hconfig]
    exact hle
  · exact hge
  · rw [hconfig]
    omega

theorem falling_iterate {t : ℕ} (hle : a.config.minQp.toNat ≤ t) (ht : t ≤ a.currentQp)
    (hmax : a.currentQp ≤ a.config.maxQp.toNat) (n : ℕ) : Falling a t n ((towards · t)^[n] a) := by
  induction n with
  | zero => exact ⟨rfl, ht, le_max_right _ _⟩
  | succ n ih =>
      rw [Function.iterate_succ_apply']
      obtain ⟨hge, hstep⟩ := ih.damped hle ht hmax
      have hbound := ih.le
      refine ⟨ih.config_eq, hge, ?_⟩
      show EncodingAdaptation.damped _ t ≤ _
      omega

/-- A walk that starts below its target stays below it. -/
theorem Walk.below {queueDepth : UInt32} {elapsed : ℕ → ℕ} {s : ℕ → EncodingAdaptation}
    (h : Walk a queueDepth elapsed s) (henabled : a.config.enabled = true)
    (hdue : ∀ n, a.config.evaluationIntervalMs.toNat * 10 ^ 6 ≤ elapsed n)
    (hmin : a.config.minQp.toNat ≤ a.currentQp)
    (ht : a.currentQp < a.config.chosenQp queueDepth.toNat) (n : ℕ) :
    (s n).config = a.config ∧ a.config.minQp.toNat ≤ (s n).currentQp ∧
      (s n).currentQp < a.config.chosenQp queueDepth.toNat := by
  induction n with
  | zero =>
      rw [h.start]
      exact ⟨rfl, hmin, ht⟩
  | succ n ih =>
      obtain ⟨hconfig, hge, hlt⟩ := ih
      obtain ⟨-, -, -, hnext⟩ := (adaptedQp_eq_ok (by rw [hconfig, henabled])
        (by rw [hconfig]; exact hdue n) _ _).mp (h.step n)
      obtain ⟨hs, -⟩ := Prod.mk.inj hnext
      rw [hs]
      refine ⟨hconfig, ?_, ?_⟩
      · show _ ≤ damped _ _
        rw [damped, hconfig]
        exact le_max_left _ _
      · rw [hconfig]
        exact damped_lt (hconfig ▸ hge) hlt

theorem Limited.settles_iff (h : Limited config a) (henabled : config.enabled = true)
    (hmin : config.minQp.toNat ≤ config.baseQp.toNat)
    (hmax : config.baseQp.toNat ≤ config.maxQp.toNat) (queueDepth : UInt32) :
    a.Settles queueDepth ↔
      config.chosenQp queueDepth.toNat ≤ a.currentQp ∧ config.Computes queueDepth.toNat ∧
        3 * a.currentQp + config.chosenQp queueDepth.toNat < 2 ^ 32 := by
  obtain ⟨rfl, hge, hle⟩ := h
  constructor
  · -- a settled run starts by computing the target; below it the value would never get there
    intro hsettles
    obtain ⟨s, hwalk, -, -, N, hN⟩ := hsettles (fun _ => _) fun _ => le_rfl
    have hstep := hwalk.step 0
    rw [hwalk.start] at hstep
    obtain ⟨hcomputes, hfit, -⟩ := (adaptedQp_eq_ok henabled le_rfl _ _).mp hstep
    refine ⟨?_, hcomputes, hfit⟩
    by_contra hbelow
    obtain ⟨-, -, hlt⟩ := hwalk.below henabled (fun _ => le_rfl) hge (by omega) N
    have hthere := hN N le_rfl
    omega
  · -- from above the damped value falls to the target and stays
    rintro ⟨habove, hcomputes, hfit⟩ elapsed hdue
    obtain ⟨htmin, -⟩ := EncodingAdaptationConfig.chosenQp_mem hmin hmax queueDepth.toNat
    have hfalling := falling_iterate htmin habove hle
    refine ⟨fun n => (towards · (a.config.chosenQp queueDepth.toNat))^[n] a, ⟨rfl, fun n => ?_⟩,
      fun n => ?_, .inr ?_, a.currentQp, fun n hn => ?_⟩
    · -- each step is computed
      obtain ⟨hconfig, hge', hle'⟩ := hfalling n
      rw [adaptedQp_eq_ok (by rw [hconfig, henabled]) (by rw [hconfig]; exact hdue n), hconfig,
        Function.iterate_succ_apply']
      exact ⟨hcomputes, by omega, by omega, rfl⟩
    · -- it stays in range
      obtain ⟨-, hge', hle'⟩ := hfalling n
      dsimp only
      omega
    · -- it falls
      refine antitone_nat_of_succ_le fun n => ?_
      obtain ⟨-, hstep⟩ := (hfalling n).damped htmin habove hle
      have hge' := (hfalling n).ge
      dsimp only
      rw [Function.iterate_succ_apply']
      show EncodingAdaptation.damped _ _ ≤ _
      omega
    · -- and after as many steps as the start is high it is at the target
      obtain ⟨-, hge', hle'⟩ := hfalling n
      dsimp only
      omega

/-- **The QP settles on its target exactly where it starts at or above it**, and three times
it and the target can be added. -/
theorem adapted_qp_settles_iff {calls : List AdaptedQpCall} (henabled : config.enabled = true)
    (hmin : config.minQp.toNat ≤ config.baseQp.toNat)
    (hmax : config.baseQp.toNat ≤ config.maxQp.toNat)
    (h : Run (fun a c b => a.call c = .ok b) (new config) calls a) (queueDepth : UInt32) :
    a.Settles queueDepth ↔
      config.chosenQp queueDepth.toNat ≤ a.currentQp ∧ config.Computes queueDepth.toNat ∧
        3 * a.currentQp + config.chosenQp queueDepth.toNat < 2 ^ 32 :=
  (limited_of_run hmin hmax h).settles_iff henabled hmin hmax queueDepth

/-- The default configuration, switched on. -/
def enabledConfig : EncodingAdaptationConfig :=
  { EncodingAdaptationConfig.default with enabled := true }

/-- An idle client: the QP comes down to 20 from where it starts. -/
theorem adapted_qp_settles_idle : (new enabledConfig).Settles 0 :=
  (adapted_qp_settles_iff rfl (by decide) (by decide) Run.nil 0).mpr
    ⟨by decide, ⟨by decide, by decide⟩, by decide⟩

/-- Seven frames wait, and the QP never gets from 22 to the 32 that is chosen for them. -/
theorem adapted_qp_stops_short : ¬ (new enabledConfig).Settles 7 := by
  have hlimited : Limited enabledConfig (new enabledConfig) := ⟨rfl, by decide, by decide⟩
  rw [hlimited.settles_iff rfl (by decide) (by decide)]
  rintro ⟨habove, -, -⟩
  revert habove
  decide

end EncodingAdaptation

end LamcoRdp
