/-
LamcoRdp/Damage/EdgeTiles.lean

Which tiles `detect_changes` marks (`damage/mod.rs`).

A tile is due when the fraction of its own pixels that differ exceeds
`diff_threshold`.  The code compares with the number that this fraction of a whole
tile would be, so that a tile that is cut off at the edge of the frame may have
changed altogether and not be marked.  `tile_dirty_when_due_iff` says for which
configurations and frame sizes every tile that is due is marked.
-/
import LamcoRdp.Damage.Tiles
import Mathlib.Algebra.Order.Floor.Semiring

namespace LamcoRdp

open DamageDetector

/-- The greatest number of `n` pixels that is not more than the fraction `q` of them. -/
def tolerated (q : ℚ) (n : ℕ) : ℕ := ⌊q * n⌋₊

/-- A `u32` counter that passes the tolerated number of `n` pixels passes the threshold
as well: the threshold is not above it, and the counter does not begin anew between it
and `n`. -/
def CountFits (threshold : ℕ) (q : ℚ) (n : ℕ) : Prop :=
  tolerated q n / 2 ^ 32 = n / 2 ^ 32 ∧ threshold ≤ wrapU32 (tolerated q n)

/-- Every tile that is due is marked: whenever the fraction of its own pixels that
differ exceeds the threshold, and so when all of them differ. -/
def MarksDueTiles (config : DamageConfig) (width height : ℕ) : Prop :=
  ∀ q, config.diffThreshold = .fin q → ∀ d : DamageDetector, d.config = config →
    d.tilesX = divCeil width config.tileSize → d.tilesY = divCeil height config.tileSize →
    ∀ prev curr : List UInt8, prev.length = width * height * 4 →
      curr.length = width * height * 4 →
      ∀ tx < d.tilesX, ∀ ty < d.tilesY,
        (q < (config.diffCount width height prev curr tx ty : ℚ)
            / (config.tileOf width height tx ty).length →
          (d.dirtyTiles prev curr width height).getD (ty * d.tilesX + tx) false = true) ∧
        (config.diffCount width height prev curr tx ty
            = (config.tileOf width height tx ty).length →
          (d.dirtyTiles prev curr width height).getD (ty * d.tilesX + tx) false = true)

section Counter

variable {q : ℚ} {n c threshold : ℕ}

theorem tolerated_lt_iff (h0 : 0 ≤ q) : tolerated q n < c ↔ q * n < c :=
  Nat.floor_lt (mul_nonneg h0 (Nat.cast_nonneg n))

/-- Every number above the tolerated one passes the threshold, as a `u32` counts it. -/
theorem countFits_iff (h0 : 0 ≤ q) (h1 : q < 1) (hn : 0 < n) :
    CountFits threshold q n ↔ ∀ c ≤ n, q * n < c → threshold < wrapU32 c := by
  have hlt : tolerated q n < n := by
    rw [tolerated_lt_iff h0]
    exact mul_lt_of_lt_one_left (Nat.cast_pos.mpr hn) h1
  simp only [← tolerated_lt_iff h0]
  unfold CountFits wrapU32
  generalize tolerated q n = m at hlt ⊢
  constructor
  · rintro ⟨hdiv, hle⟩ c hc hmc
    omega
  · intro hall
    have hnext := hall (m + 1) hlt (Nat.lt_succ_self m)
    -- a multiple of the size of the counter above `m` would be counted as zero
    have hwrap := hall (n / 2 ^ 32 * 2 ^ 32) (Nat.div_mul_le_self n _)
    rw [Nat.mul_mod_left] at hwrap
    have hdiv : m / 2 ^ 32 = n / 2 ^ 32 := by
      by_contra hne
      exact absurd (hwrap (by omega)) (Nat.not_lt_zero threshold)
    exact ⟨hdiv, by omega⟩

end Counter

section Marks

variable {config : DamageConfig} {width height : ℕ}

theorem length_tileOf_pos (ht : 1 ≤ config.tileSize) {tx ty : ℕ}
    (htx : tx < divCeil width config.tileSize) (hty : ty < divCeil height config.tileSize) :
    0 < (config.tileOf width height tx ty).length := by
  have hx := lt_of_lt_divCeil ht htx
  have hy := lt_of_lt_divCeil ht hty
  rw [length_tileOf]
  exact Nat.mul_pos (by omega) (by omega)

/-- **When every tile that is due is marked**: no pixel can differ at all, or the
threshold for a whole tile is within what is tolerated of every tile's own pixels. -/
theorem tile_dirty_when_due_iff (config : DamageConfig) (q : ℚ)
    (hq : config.diffThreshold = .fin q) (h0 : 0 ≤ q) (h1 : q < 1) (ht : 1 ≤ config.tileSize)
    (width height : ℕ) :
    MarksDueTiles config width height ↔
      config.pixelThreshold = 255 ∨
        ∀ tx < divCeil width config.tileSize, ∀ ty < divCeil height config.tileSize,
          CountFits config.dirtyCount q (config.tileOf width height tx ty).length := by
  constructor
  · intro hmarks
    by_cases hpt : config.pixelThreshold = 255
    · exact .inl hpt
    refine .inr fun tx htx ty hty => ?_
    have hx := lt_of_lt_divCeil ht htx
    have hy := lt_of_lt_divCeil ht hty
    have hpos := length_tileOf_pos ht htx hty
    rw [countFits_iff h0 h1 hpos]
    intro c hc hqc
    -- two frames that differ in exactly `c` pixels of the tile
    have hright : tx * config.tileSize + min config.tileSize (width - tx * config.tileSize)
        ≤ width := by omega
    have hbottom : ty * config.tileSize + min config.tileSize (height - ty * config.tileSize)
        ≤ height := by omega
    obtain ⟨prev, curr, hprev, hcurr, hcount, -⟩ :=
      exists_frames (toNat_lt_of_ne_max hpt) hright hbottom (length_tileOf ▸ hc)
    have hdiff : config.diffCount width height prev curr tx ty = c := hcount
    let d : DamageDetector := { DamageDetector.new config with
      tilesX := divCeil width config.tileSize, tilesY := divCeil height config.tileSize }
    have hflag := (hmarks q hq d rfl rfl rfl prev curr hprev hcurr tx htx ty hty).1 (by
      rw [hdiff, lt_div_iff₀ (Nat.cast_pos.mpr hpos)]
      exact hqc)
    rw [getD_dirtyTiles (d := d) htx hty, tileDirty_iff (d := d) ht hprev hcurr hx hy] at hflag
    exact hdiff ▸ hflag
  · intro hcond q' hq' d hconfig hgx hgy prev curr hprev hcurr tx htx ty hty
    obtain rfl : q = q' := Binary32.fin.inj (hq.symm.trans hq')
    have hpos := length_tileOf_pos ht (hgx ▸ htx) (hgy ▸ hty)
    have hflag : q * (config.tileOf width height tx ty).length
        < config.diffCount width height prev curr tx ty →
        (d.dirtyTiles prev curr width height).getD (ty * d.tilesX + tx) false = true := by
      intro hdue
      have hfits : config.dirtyCount
          < wrapU32 (config.diffCount width height prev curr tx ty) := by
        rcases hcond with hmax | hfits
        · rw [diffCount_of_max hmax, Nat.cast_zero] at hdue
          exact absurd hdue (not_lt.mpr (mul_nonneg h0 (Nat.cast_nonneg _)))
        · exact (countFits_iff h0 h1 hpos).mp (hfits tx (hgx ▸ htx) ty (hgy ▸ hty)) _
            diffCount_le hdue
      subst hconfig
      rw [getD_dirtyTiles htx hty, tileDirty_iff ht hprev hcurr
        (lt_of_lt_divCeil ht (hgx ▸ htx)) (lt_of_lt_divCeil ht (hgy ▸ hty))]
      exact hfits
    refine ⟨fun hdue => hflag ((lt_div_iff₀ (Nat.cast_pos.mpr hpos)).mp hdue), fun hall => hflag ?_⟩
    rw [hall]
    exact mul_lt_of_lt_one_left (Nat.cast_pos.mpr hpos) h1

/-- Tiles of two by two pixels, of which more than half have to differ. -/
def halfTiles : DamageConfig where
  tileSize := 2
  diffThreshold := .fin (1 / 2)
  pixelThreshold := 4
  mergeDistance := 0
  minRegionArea := 1

theorem dirtyCount_halfTiles : halfTiles.dirtyCount = 2 := by
  have hfour : Binary32.ofNat (wrapU32 (2 * 2)) = .fin 4 :=
    Binary32.round_natCast (n := 4) (by norm_num)
  have htwo : Binary32.round (4 * (1 / 2)) = .fin 2 := by
    rw [show (4 : ℚ) * (1 / 2) = (2 : ℕ) by norm_num]
    exact Binary32.round_natCast (by norm_num)
  show ((Binary32.ofNat (wrapU32 (2 * 2))).mul (.fin (1 / 2))).toU32 = 2
  rw [hfour]
  show (Binary32.round (4 * (1 / 2))).toU32 = 2
  rw [htwo]
  show min ⌊(2 : ℚ)⌋₊ (2 ^ 32 - 1) = 2
  rw [show (2 : ℚ) = (2 : ℕ) by norm_num, Nat.floor_natCast]
  rfl

/-- In a frame of two by two pixels the only tile is whole. -/
theorem tile_dirty_when_due_iff_whole :
    halfTiles.dirtyCount = 2 ∧ MarksDueTiles halfTiles 2 2 := by
  have hcount := dirtyCount_halfTiles
  refine ⟨hcount, (tile_dirty_when_due_iff halfTiles (1 / 2) rfl (by norm_num) (by norm_num)
    (by decide) 2 2).mpr (.inr fun tx htx ty hty => ?_)⟩
  have hgrid : divCeil 2 halfTiles.tileSize = 1 := by decide
  rw [hgrid] at htx hty
  obtain rfl := Nat.lt_one_iff.mp htx
  obtain rfl := Nat.lt_one_iff.mp hty
  have htolerated : tolerated (1 / 2) 4 = 2 := by
    rw [tolerated, show (1 / 2 : ℚ) * (4 : ℕ) = (2 : ℕ) by norm_num, Nat.floor_natCast]
  have hlen : (halfTiles.tileOf 2 2 0 0).length = 4 := by decide
  rw [hcount, hlen, CountFits, htolerated]
  exact ⟨rfl, by decide⟩

/-- A frame of one pixel, which changes from black to white: the only tile has changed
altogether, and is not marked. -/
theorem changed_edge_tile_not_marked :
    ¬ ∀ (config : DamageConfig) (q : ℚ), config.diffThreshold = .fin q → 0 ≤ q → q < 1 →
      1 ≤ config.tileSize → ∀ width height, MarksDueTiles config width height := by
  intro hall
  have hmarks := hall halfTiles (1 / 2) rfl (by norm_num) (by norm_num) (by decide) 1 1
  let d : DamageDetector := { DamageDetector.new halfTiles with tilesX := 1, tilesY := 1 }
  have hflag := (hmarks (1 / 2) rfl d rfl rfl rfl [0, 0, 0, 255] [255, 255, 255, 255] rfl rfl
    0 (by decide) 0 (by decide)).2 (by decide)
  rw [getD_dirtyTiles (d := d) (by decide) (by decide),
    tileDirty_iff (d := d) (by decide) rfl rfl (by decide) (by decide)] at hflag
  have hcount : d.config.dirtyCount = 2 := dirtyCount_halfTiles
  rw [hcount] at hflag
  revert hflag
  decide

end Marks

end LamcoRdp
