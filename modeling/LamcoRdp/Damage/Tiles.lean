/-
LamcoRdp/Damage/Tiles.lean

The tiles of the grid and their dirty test (`damage/mod.rs`).

The tiles at the right and at the bottom edge of a frame are cut off there, while the
number of differing pixels that makes a tile dirty is computed once, for a whole tile.
`tileDirty_iff` says what the test of a tile of the grid comes to: the pixels of the
tile that differ, modulo the size of the counter, against that number.

Conversely every number of differing pixels occurs: `exists_frames` gives two frames
that differ in so many pixels of a tile, and nowhere else.
-/
import LamcoRdp.Damage.Detector
import Mathlib.Data.List.Nodup

namespace LamcoRdp

open DamageDetector

namespace DamageConfig

/-- `diff_threshold_count`: a tile with more pixels that differ is dirty. -/
def dirtyCount (config : DamageConfig) : ℕ :=
  ((Binary32.ofNat (wrapU32 (config.tileSize * config.tileSize))).mul config.diffThreshold).toU32

theorem dirtyCount_lt (config : DamageConfig) : config.dirtyCount < 2 ^ 32 :=
  Binary32.toU32_lt _

/-- The pixels of a tile of the grid. -/
def tileOf (config : DamageConfig) (width height tx ty : ℕ) : List (ℕ × ℕ) :=
  tilePixels (tx * config.tileSize) (ty * config.tileSize)
    (min config.tileSize (width - tx * config.tileSize))
    (min config.tileSize (height - ty * config.tileSize))

/-- The pixels of a tile that differ by more than the threshold. -/
def diffCount (config : DamageConfig) (width height : ℕ) (prev curr : List UInt8) (tx ty : ℕ) :
    ℕ :=
  (config.tileOf width height tx ty).countP fun p =>
    Differs config.pixelThreshold.toNat (bgrAt width prev p.1 p.2) (bgrAt width curr p.1 p.2)

end DamageConfig

/-! ### The test of a tile -/

section Test

variable {config : DamageConfig} {width height tx ty : ℕ} {prev curr : List UInt8}

/-- A pixel of a tile of the frame lies in this tile only. -/
theorem mem_tileOf (ht : 1 ≤ config.tileSize) {p : ℕ × ℕ}
    (hp : p ∈ config.tileOf width height tx ty) :
    p.1 < width ∧ p.2 < height ∧ p.1 / config.tileSize = tx ∧ p.2 / config.tileSize = ty := by
  obtain ⟨⟨hx, hx'⟩, hy, hy'⟩ := mem_tilePixels.mp hp
  refine ⟨by omega, by omega, ?_, ?_⟩
  · exact Nat.div_eq_of_lt_le hx (by rw [Nat.succ_mul]; omega)
  · exact Nat.div_eq_of_lt_le hy (by rw [Nat.succ_mul]; omega)

theorem length_tileOf :
    (config.tileOf width height tx ty).length
      = min config.tileSize (height - ty * config.tileSize)
        * min config.tileSize (width - tx * config.tileSize) :=
  length_tilePixels _

theorem diffCount_le : config.diffCount width height prev curr tx ty
    ≤ (config.tileOf width height tx ty).length :=
  List.countP_le_length

/-- A tile of the grid begins inside the frame. -/
theorem lt_of_lt_divCeil {t : ℕ} (ht : 1 ≤ t) (h : tx < divCeil width t) : tx * t < width := by
  have hle : (tx + 1) * t ≤ width + t - 1 := (Nat.le_div_iff_mul_le ht).mp h
  rw [Nat.succ_mul] at hle
  omega

/-- The dirty flag of a tile of the grid. -/
theorem tileDirty_iff {d : DamageDetector} (ht : 1 ≤ d.config.tileSize)
    (hprev : prev.length = width * height * 4) (hcurr : curr.length = width * height * 4)
    (htx : tx * d.config.tileSize < width) (hty : ty * d.config.tileSize < height) :
    d.tileDirty prev curr width height tx ty = true ↔
      d.config.dirtyCount < wrapU32 (d.config.diffCount width height prev curr tx ty) := by
  unfold tileDirty
  dsimp only
  rw [if_neg (by omega), decide_eq_true_eq,
    compareTile_eq_wrap _ hprev hcurr (by omega) (by omega)]
  exact Iff.rfl

/-- With the greatest pixel threshold no pixel ever differs. -/
theorem diffCount_of_max (h : config.pixelThreshold = 255) (prev curr : List UInt8) (tx ty : ℕ) :
    config.diffCount width height prev curr tx ty = 0 := by
  refine List.countP_eq_zero.mpr fun p _ hdiff => ?_
  rw [h] at hdiff
  rcases of_decide_eq_true hdiff with hb | hg | hr
  · exact absurd hb (Nat.not_lt.mpr (absDiff_le ..))
  · exact absurd hg (Nat.not_lt.mpr (absDiff_le ..))
  · exact absurd hr (Nat.not_lt.mpr (absDiff_le ..))

theorem toNat_lt_of_ne_max {t : UInt8} (h : t ≠ 255) : t.toNat < 255 := by
  have hlt := t.toNat_lt
  have hne : t.toNat ≠ 255 := fun heq => h (UInt8.toNat_inj.mp heq)
  omega

end Test

/-! ### Frames that differ where one likes -/

/-- A frame that is white where it is marked, and black elsewhere. -/
def markedFrame (width height : ℕ) (marked : ℕ × ℕ → Bool) : List UInt8 :=
  (List.range (width * height * 4)).map fun i =>
    if marked (i / 4 % width, i / 4 / width) then 255 else 0

section Frames

variable {width height : ℕ}

theorem length_markedFrame (marked : ℕ × ℕ → Bool) :
    (markedFrame width height marked).length = width * height * 4 := by
  rw [markedFrame, List.length_map, List.length_range]

theorem bgrAt_markedFrame (marked : ℕ × ℕ → Bool) {px py : ℕ} (hpx : px < width)
    (hpy : py < height) :
    bgrAt width (markedFrame width height marked) px py
      = if marked (px, py) then (255, 255, 255) else (0, 0, 0) := by
  have hlt := RowMajor.index_lt hpx hpy
  rw [Nat.mul_comm height] at hlt
  have hbyte : ∀ i < 4, (markedFrame width height marked).getD ((py * width + px) * 4 + i) 0
      = if marked (px, py) then 255 else 0 := by
    intro i hi
    have hdiv : ((py * width + px) * 4 + i) / 4 = py * width + px := by omega
    rw [markedFrame, List.getD_eq_getElem?_getD, List.getElem?_map,
      List.getElem?_range (by omega), Option.map_some, Option.getD_some, hdiv,
      Nat.mul_add_mod_of_lt hpx, RowMajor.div_index hpx]
  have h₀ := hbyte 0 (by omega)
  rw [Nat.add_zero] at h₀
  unfold bgrAt
  rw [h₀, hbyte 1 (by omega), hbyte 2 (by omega)]
  split <;> rfl

/-- The marked frame differs from the unmarked one in the marks. -/
theorem differs_markedFrame (marked : ℕ × ℕ → Bool) {threshold px py : ℕ} (hpx : px < width)
    (hpy : py < height) (ht : threshold < 255) :
    Differs threshold (bgrAt width (markedFrame width height fun _ => false) px py)
        (bgrAt width (markedFrame width height marked) px py) ↔ marked (px, py) = true := by
  rw [bgrAt_markedFrame _ hpx hpy, bgrAt_markedFrame _ hpx hpy]
  cases marked (px, py) with
  | false => simp [Differs, absDiff]
  | true => simpa [Differs, absDiff] using ht

theorem nodup_tilePixels (tileX tileY tileWidth tileHeight : ℕ) :
    (tilePixels tileX tileY tileWidth tileHeight).Nodup := by
  refine List.nodup_flatMap.mpr ⟨fun row _ => ?_, ?_⟩
  · refine List.nodup_range.map fun a b hab => ?_
    have hx := (Prod.mk.inj hab).1
    omega
  · refine List.nodup_range.imp fun {a b} hne => ?_
    intro p hpa hpb
    obtain ⟨c, -, rfl⟩ := List.mem_map.mp hpa
    obtain ⟨c', -, heq⟩ := List.mem_map.mp hpb
    have hy := (Prod.mk.inj heq).2
    omega

/-- So many members of a list without repetition are among its first ones. -/
theorem countP_take {α : Type*} {l : List α} (h : l.Nodup) {m : ℕ} (hm : m ≤ l.length)
    {p : α → Bool} (hp : ∀ a, p a = true ↔ a ∈ l.take m) : l.countP p = m := by
  have hdisjoint := List.disjoint_take_drop h (Nat.le_refl m)
  calc l.countP p = (l.take m ++ l.drop m).countP p := by rw [List.take_append_drop]
    _ = (l.take m).length + 0 := by
        rw [List.countP_append, List.countP_eq_length.mpr fun a ha => (hp a).mpr ha,
          List.countP_eq_zero.mpr fun a ha hmem => hdisjoint ((hp a).mp hmem) ha]
    _ = m := by rw [List.length_take, Nat.min_eq_left hm, Nat.add_zero]

/-- Every number of differing pixels of a tile occurs, with no difference elsewhere. -/
theorem exists_frames {threshold tileX tileY tileWidth tileHeight m : ℕ} (ht : threshold < 255)
    (hx : tileX + tileWidth ≤ width) (hy : tileY + tileHeight ≤ height)
    (hm : m ≤ tileHeight * tileWidth) :
    ∃ prev curr : List UInt8, prev.length = width * height * 4 ∧
      curr.length = width * height * 4 ∧
      ((tilePixels tileX tileY tileWidth tileHeight).countP fun p =>
        Differs threshold (bgrAt width prev p.1 p.2) (bgrAt width curr p.1 p.2)) = m ∧
      ∀ px < width, ∀ py < height,
        Differs threshold (bgrAt width prev px py) (bgrAt width curr px py) →
          (px, py) ∈ tilePixels tileX tileY tileWidth tileHeight := by
  let tile := tilePixels tileX tileY tileWidth tileHeight
  let marked : ℕ × ℕ → Bool := fun p => decide (p ∈ tile.take m)
  refine ⟨markedFrame width height fun _ => false, markedFrame width height marked,
    length_markedFrame _, length_markedFrame _, ?_, fun px hpx py hpy hdiff => ?_⟩
  · have hlen : m ≤ tile.length := (length_tilePixels tileHeight).symm ▸ hm
    have hcount : tile.countP marked = m :=
      countP_take (nodup_tilePixels ..) hlen fun _ => decide_eq_true_iff
    rw [← hcount]
    refine List.countP_congr fun p hp => ?_
    obtain ⟨⟨-, hpx⟩, -, hpy⟩ := mem_tilePixels.mp hp
    rw [decide_eq_true_eq]
    exact differs_markedFrame marked (by omega) (by omega) ht
  · exact List.mem_of_mem_take
      (of_decide_eq_true ((differs_markedFrame marked hpx hpy ht).mp hdiff))

end Frames

end LamcoRdp
