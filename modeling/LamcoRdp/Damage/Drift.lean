/-
LamcoRdp/Damage/Drift.lean

How far a client that gets the reported regions only can be from the frame.

`detect` compares a frame with the one captured before it, and not with what the
client has.  A tile that changes less than the thresholds from one frame to the
next is not reported, however long this goes on, so that the distance grows with
the number of calls since the tile was last reported, by the thresholds at most
for each call (`client_drift_le`).
-/
import LamcoRdp.Damage.Tiles

namespace LamcoRdp

/-! ### The client -/

/-- The detector, the surface of the client, and for every tile the number of
calls since the whole of it was reported. -/
structure ClientSurface where
  detector : DamageDetector
  client : ℕ → ℕ → UInt8 × UInt8 × UInt8
  unreported : ℕ → ℕ → ℕ

namespace ClientSurface

/-- Before the first frame. -/
def init (config : DamageConfig) (client : ℕ → ℕ → UInt8 × UInt8 × UInt8) : ClientSurface :=
  ⟨.new config, client, fun _ _ => 0⟩

/-- One call: the regions it returns are copied to the client. -/
def step (width height : ℕ) (s : ClientSurface) (frame : List UInt8) : Option ClientSurface := do
  let (detector, regions) ← s.detector.detect frame width height
  return {
    detector := detector
    client := fun px py =>
      if CoveredBy regions px py then bgrAt width frame px py else s.client px py
    unreported := fun tx ty =>
      if ∀ p ∈ s.detector.config.tileOf width height tx ty, CoveredBy regions p.1 p.2 then 0
      else s.unreported tx ty + 1 }

/-- The pixels of a tile in which the client differs from a frame by more than
the threshold. -/
def tileDrift (s : ClientSurface) (width height threshold : ℕ) (frame : List UInt8)
    (tx ty : ℕ) : ℕ :=
  (s.detector.config.tileOf width height tx ty).countP fun p =>
    Differs threshold (s.client p.1 p.2) (bgrAt width frame p.1 p.2)

end ClientSurface

/-! ### Distances -/

theorem absDiff_self (a : UInt8) : absDiff a a = 0 := by
  unfold absDiff
  omega

theorem absDiff_triangle (a b c : UInt8) : absDiff a c ≤ absDiff a b + absDiff b c := by
  unfold absDiff
  omega

/-- A difference on the way from `a` to `c` is one on the way to `b` or from `b`. -/
theorem Differs.split {t t' : ℕ} {a c : UInt8 × UInt8 × UInt8} (b : UInt8 × UInt8 × UInt8)
    (h : Differs (t + t') a c) : Differs t a b ∨ Differs t' b c := by
  have h₁ := absDiff_triangle a.1 b.1 c.1
  have h₂ := absDiff_triangle a.2.1 b.2.1 c.2.1
  have h₃ := absDiff_triangle a.2.2 b.2.2 c.2.2
  unfold Differs at *
  omega

theorem not_differs_self (t : ℕ) (a : UInt8 × UInt8 × UInt8) : ¬Differs t a a := by
  unfold Differs
  simp only [absDiff_self]
  omega

/-- What is one of two is counted by one of two. -/
theorem countP_le_add {α : Type*} {l : List α} {p q r : α → Bool}
    (h : ∀ a ∈ l, p a = true → q a = true ∨ r a = true) : l.countP p ≤ l.countP q + l.countP r := by
  induction l with
  | nil => exact Nat.le_refl 0
  | cons a l ih =>
      have htail := ih fun b hb => h b (List.mem_cons_of_mem a hb)
      have hhead := h a List.mem_cons_self
      rw [List.countP_cons, List.countP_cons, List.countP_cons]
      cases hp : p a with
      | false =>
          simp only [Bool.false_eq_true, if_false]
          omega
      | true =>
          rcases hhead hp with hq | hr
          · simp only [hq, if_true]
            omega
          · simp only [hr, if_true]
            omega

/-! ### One call -/

namespace ClientSurface

variable {width height : ℕ} {s : ClientSurface} {frame prev : List UInt8}

/-- The frame and its tiles are small enough for the counters of the code. -/
structure Admits (config : DamageConfig) (width height : ℕ) : Prop where
  tile_pos : 1 ≤ config.tileSize
  tile_lt : config.tileSize < 2 ^ 32
  area : config.minRegionArea ≤ 1
  width_lt : width < 2 ^ 32
  height_lt : height < 2 ^ 32
  bytes_lt : width * height * 4 < 2 ^ 64
  /-- the pixels of a tile that are in the frame -/
  pixels_lt : min config.tileSize height * min config.tileSize width < 2 ^ 32

/-- The dirty flag says whether more pixels of the tile differ than allowed. -/
theorem tileDirty_iff {d : DamageDetector} (had : Admits d.config width height)
    (hprev : prev.length = width * height * 4) (hframe : frame.length = width * height * 4)
    {tx ty : ℕ} {p : ℕ × ℕ} (hp : p ∈ d.config.tileOf width height tx ty) :
    d.tileDirty prev frame width height tx ty = true ↔
      d.config.dirtyCount < (d.config.tileOf width height tx ty).countP fun p =>
        Differs d.config.pixelThreshold.toNat (bgrAt width prev p.1 p.2)
          (bgrAt width frame p.1 p.2) := by
  obtain ⟨⟨hx, hx'⟩, hy, hy'⟩ := mem_tilePixels.mp hp
  have hsize : min d.config.tileSize (height - ty * d.config.tileSize)
      * min d.config.tileSize (width - tx * d.config.tileSize) < 2 ^ 32 :=
    (Nat.mul_le_mul (by omega) (by omega)).trans_lt had.pixels_lt
  unfold DamageDetector.tileDirty
  dsimp only
  rw [if_neg (by omega), decide_eq_true_eq,
    compareTile_eq _ hprev hframe (by omega) (by omega) hsize]
  exact Iff.rfl

/-- A tile that is not wholly reported has changed no more than allowed. -/
theorem countP_le_of_unreported (had : Admits s.detector.config width height)
    (hwf : s.detector.WellFormed) (href : s.detector.reference width height = some prev)
    (hframe : frame.length = width * height * 4) {tx ty : ℕ} {p : ℕ × ℕ}
    (hp : p ∈ s.detector.config.tileOf width height tx ty)
    (hout : ¬CoveredBy (s.detector.detectChanges prev frame width height) p.1 p.2) :
    ((s.detector.config.tileOf width height tx ty).countP fun p =>
        Differs s.detector.config.pixelThreshold.toNat (bgrAt width prev p.1 p.2)
          (bgrAt width frame p.1 p.2)) ≤ s.detector.config.dirtyCount := by
  obtain ⟨hprev, hgrid⟩ := hwf width height prev href
  obtain ⟨hpx, hpy, htx, hty⟩ := mem_tileOf had.tile_pos hp
  by_contra hmore
  have hdirty := (tileDirty_iff had hprev hframe hp).mpr (Nat.lt_of_not_le hmore)
  refine hout (DamageDetector.detectChanges_covers_of_dirty had.area had.tile_pos had.tile_lt hgrid
    had.width_lt had.height_lt hpx hpy ?_)
  rw [htx, hty]
  exact hdirty

/-- The detector compares with `last`, and the distance of every tile from it is
bounded by the calls since it was reported. -/
structure Bounded (config : DamageConfig) (width height : ℕ) (last : Option (List UInt8))
    (s : ClientSurface) : Prop where
  wellFormed : s.detector.WellFormed
  config_eq : s.detector.config = config
  reference : s.detector.reference width height = last
  drift : ∀ cur, last = some cur → ∀ tx ty,
    s.tileDrift width height (s.unreported tx ty * config.pixelThreshold.toNat) cur tx ty
      ≤ s.unreported tx ty * config.dirtyCount

/-- A step, field by field. -/
theorem step_of_detect {d' : DamageDetector} {regions : List DamageRegion}
    (hdetect : s.detector.detect frame width height = some (d', regions)) :
    ∃ s', s.step width height frame = some s' ∧ s'.detector = d' ∧
      (∀ px py, s'.client px py
        = if CoveredBy regions px py then bgrAt width frame px py else s.client px py) ∧
      ∀ tx ty, s'.unreported tx ty
        = if ∀ p ∈ s.detector.config.tileOf width height tx ty, CoveredBy regions p.1 p.2 then 0
          else s.unreported tx ty + 1 := by
  rw [step, hdetect]
  exact ⟨_, rfl, rfl, fun _ _ => rfl, fun _ _ => rfl⟩

/-- **One call.** -/
theorem Bounded.step {config : DamageConfig} {last : Option (List UInt8)}
    (had : Admits config width height) (h : s.Bounded config width height last)
    (hframe : frame.length = width * height * 4) :
    ∃ s', s.step width height frame = some s' ∧ s'.Bounded config width height (some frame) := by
  obtain ⟨hwf, rfl, href, hdrift⟩ := h
  obtain ⟨d', regions, hdetect, hwf', hconfig, href', -, hregions⟩ :=
    DamageDetector.detect_reference hwf had.tile_pos hframe had.width_lt had.height_lt had.bytes_lt
  obtain ⟨s', hstep, rfl, hclient, hunreported⟩ := step_of_detect hdetect
  refine ⟨s', hstep, hwf', hconfig, href', ?_⟩
  rintro cur ⟨rfl⟩ tx ty
  unfold tileDrift
  rw [hconfig, hunreported]
  by_cases hall : ∀ p ∈ s.detector.config.tileOf width height tx ty, CoveredBy regions p.1 p.2
  · -- the whole tile has just been copied
    rw [if_pos hall, Nat.zero_mul, Nat.zero_mul, Nat.le_zero, List.countP_eq_zero]
    intro p hp
    rw [hclient, if_pos (hall p hp), decide_eq_true_eq]
    exact not_differs_self _ _
  · rw [if_neg hall, Nat.succ_mul, Nat.succ_mul]
    push Not at hall
    obtain ⟨p, hp, hout⟩ := hall
    cases last with
    | none =>
        -- without a reference everything is reported
        obtain ⟨hpx, hpy, -⟩ := mem_tileOf had.tile_pos hp
        rw [DamageDetector.RegionsFrom, href] at hregions
        rw [hregions] at hout
        exact absurd (DamageDetector.coveredBy_fullFrame hpx hpy) hout
    | some prev =>
        rw [DamageDetector.RegionsFrom, href] at hregions
        rw [hregions] at hout
        refine (countP_le_add fun p _ hdiff => ?_).trans (Nat.add_le_add (hdrift prev rfl tx ty)
          (countP_le_of_unreported had hwf href hframe hp hout))
        rw [decide_eq_true_eq] at hdiff ⊢
        rw [decide_eq_true_eq]
        rw [hclient] at hdiff
        split at hdiff
        · exact absurd hdiff (not_differs_self _ _)
        · exact hdiff.split _

/-- **The drift of the client is bounded by the calls since the last report**: after
every call, in every tile, at most `k` times the dirty count of its pixels differ
from the frame by more than `k` times the pixel threshold, where `k` is the
number of calls since the whole tile was last reported. -/
theorem client_drift_le (config : DamageConfig) (width height : ℕ)
    (had : Admits config width height) (client : ℕ → ℕ → UInt8 × UInt8 × UInt8)
    (frames : List (List UInt8)) (hframes : ∀ f ∈ frames, f.length = width * height * 4) :
    ∃ s, frames.foldlM (step width height) (init config client) = some s ∧
      ∀ cur, frames.getLast? = some cur → ∀ tx ty,
        s.tileDrift width height (s.unreported tx ty * config.pixelThreshold.toNat) cur tx ty
          ≤ s.unreported tx ty * config.dirtyCount := by
  -- on the frames, from any surface that is within the bounds of the last one
  suffices h : ∀ (last : Option (List UInt8)) (s : ClientSurface),
      s.Bounded config width height last →
      ∃ s', frames.foldlM (step width height) s = some s' ∧
        s'.Bounded config width height (frames.getLast?.or last) by
    have hinit : (init config client).Bounded config width height none :=
      ⟨DamageDetector.wellFormed_new config, rfl, rfl, nofun⟩
    obtain ⟨s, hs, hb⟩ := h none _ hinit
    refine ⟨s, hs, fun cur hcur => hb.drift cur ?_⟩
    rw [hcur]
    rfl
  induction frames with
  | nil => exact fun last s hs => ⟨s, rfl, hs⟩
  | cons f frames ih =>
      intro last s hs
      obtain ⟨s₁, hs₁, hb₁⟩ := hs.step had (hframes f List.mem_cons_self)
      obtain ⟨s₂, hs₂, hb₂⟩ := ih (fun g hg => hframes g (List.mem_cons_of_mem f hg)) _ s₁ hb₁
      refine ⟨s₂, ?_, ?_⟩
      · rw [List.foldlM_cons, hs₁]
        exact hs₂
      · have hlast : (f :: frames).getLast?.or last = frames.getLast?.or (some f) := by
          rw [List.getLast?_cons]
          cases frames.getLast? <;> rfl
        rw [hlast]
        exact hb₂

/-- One pixel a tile, all of them compared, with the default tolerance. -/
def pixelwise : DamageConfig where
  tileSize := 1
  diffThreshold := .fin 0
  pixelThreshold := 4
  mergeDistance := 0
  minRegionArea := 1

/-- A grey pixel. -/
def grey (v : UInt8) : List UInt8 := [v, v, v, 255]

theorem admits_pixelwise : Admits pixelwise 1 1 := by
  constructor <;> decide

/-- A pixel that brightens by four in every frame: nothing is reported after the
first, and the client is twelve behind. -/
theorem drift_accumulates :
    ∃ s, [grey 0, grey 4, grey 8, grey 12].foldlM (step 1 1) (init pixelwise fun _ _ => (0, 0, 0))
        = some s ∧
      pixelwise.dirtyCount = 0 ∧
      s.tileDrift 1 1 pixelwise.pixelThreshold.toNat (grey 12) 0 0 = 1 ∧
      absDiff (s.client 0 0).1 12 = 12 := by
  refine ⟨_, rfl, ?_, ?_, ?_⟩
  · exact Binary32.toU32_mul_zero _
  · decide
  · decide

/-- It is three calls since the pixel was reported, and three times the tolerance
is not exceeded. -/
theorem client_drift_le_grey :
    Admits pixelwise 1 1 ∧ ∃ s, [grey 0, grey 4, grey 8, grey 12].foldlM (step 1 1)
        (init pixelwise fun _ _ => (0, 0, 0)) = some s ∧
      s.tileDrift 1 1 (s.unreported 0 0 * pixelwise.pixelThreshold.toNat) (grey 12) 0 0
        ≤ s.unreported 0 0 * pixelwise.dirtyCount := by
  obtain ⟨s, hs, hdrift⟩ := client_drift_le pixelwise 1 1 admits_pixelwise (fun _ _ => (0, 0, 0))
    [grey 0, grey 4, grey 8, grey 12] (by decide)
  exact ⟨admits_pixelwise, s, hs, hdrift (grey 12) rfl 0 0⟩

end ClientSurface

end LamcoRdp
