/-
LamcoRdp/Server/PlanarDamage.lean

The one rectangle that a Planar update sends (`server/display_handler.rs`).

`bounding_damage_region` clips every damage region to the frame and takes the
bounding box of what is left; `compact_bgra_region` copies its rows out of the
frame.  Whatever the regions are, the clipped ones lie inside the frame, so the
sums in `DamageRegion::union` do not wrap, and the copy is in range
(`planar_rectangle_correct`).
-/
import LamcoRdp.Server.FrameOps

namespace LamcoRdp

open Buffer

/-- A tightly packed BGRX frame; no slice is as long as half the address space. -/
structure BgrxFrame where
  width : UInt32
  height : UInt32
  data : List UInt8
  length_eq : data.length = width.toNat * height.toNat * 4
  length_lt : data.length < 2 ^ 63

/-! ### The bounding box -/

namespace DamageRegion

variable {r s c : DamageRegion} {width height px py : ℕ}

/-- One rectangle lies inside another. -/
def Within (r c : DamageRegion) : Prop :=
  c.x ≤ r.x ∧ r.x + r.width ≤ c.x + c.width ∧ c.y ≤ r.y ∧ r.y + r.height ≤ c.y + c.height

theorem Within.covers (h : r.Within c) (hp : r.Covers px py) : c.Covers px py := by
  unfold Within at h
  unfold Covers at hp ⊢
  omega

/-- A rectangle that is not empty lies inside one that covers all its pixels. -/
theorem within_of_covers (hw : 0 < r.width) (hh : 0 < r.height)
    (h : ∀ px py, r.Covers px py → c.Covers px py) : r.Within c := by
  -- two corners tell
  obtain ⟨hleft, -, htop, -⟩ := h r.x r.y ⟨le_rfl, by omega, le_rfl, by omega⟩
  obtain ⟨-, hright, -, hbottom⟩ := h (r.x + r.width - 1) (r.y + r.height - 1)
    ⟨by omega, by omega, by omega, by omega⟩
  exact ⟨hleft, by omega, htop, by omega⟩

/-- The union is the least rectangle around both. -/
theorem union_within (hr : r.Fits) (hs : s.Fits) (hrc : r.Within c) (hsc : s.Within c) :
    (r.union s).Within c := by
  obtain ⟨hx, hy⟩ := union_edges hr hs
  have hleft : (r.union s).x = min r.x s.x := rfl
  have htop : (r.union s).y = min r.y s.y := rfl
  unfold Within at *
  rw [hx, hy, hleft, htop]
  omega

/-- What clipping leaves of a region are its pixels in the frame. -/
theorem covers_of_clip (h : r.clip width height = some s) (hp : s.Covers px py) :
    r.Covers px py := by
  obtain ⟨hlt, h⟩ := Option.ite_none_right_eq_some.mp h
  obtain rfl := Option.some.inj h
  obtain ⟨h₁, h₂, h₃, h₄⟩ := hp
  unfold saturatingAddU32 at *
  dsimp only at *
  exact ⟨by omega, by omega, by omega, by omega⟩

end DamageRegion

section Bounding

variable {c : DamageRegion} {width height : ℕ}

theorem foldl_union_within (hw : width < 2 ^ 32) (hh : height < 2 ^ 32)
    (rs : List DamageRegion) (r : DamageRegion) (hr : r.Inside width height)
    (hrs : ∀ s ∈ rs, s.Inside width height) (hrc : r.Within c) (hrsc : ∀ s ∈ rs, s.Within c) :
    (rs.foldl DamageRegion.union r).Within c := by
  induction rs generalizing r with
  | nil => exact hrc
  | cons s rs ih =>
      have hs := hrs s List.mem_cons_self
      exact ih (r.union s) (hr.union hs hw hh) (fun t ht => hrs t (List.mem_cons_of_mem s ht))
        (DamageRegion.union_within (hr.fits hw hh) (hs.fits hw hh) hrc
          (hrsc s List.mem_cons_self)) fun t ht => hrsc t (List.mem_cons_of_mem s ht)

/-- **The bounding region is the smallest** rectangle around the damage in the frame. -/
theorem boundingDamageRegion_least (hw : width < 2 ^ 32) (hh : height < 2 ^ 32)
    {regions : List DamageRegion} {b : DamageRegion}
    (h : boundingDamageRegion regions width height = some b)
    (hc : ∀ px < width, ∀ py < height, CoveredBy regions px py → c.Covers px py) :
    b.Within c := by
  have hwithin : ∀ r ∈ regions.filterMap fun r => r.clip width height,
      r.Inside width height ∧ r.Within c := by
    intro r hr
    obtain ⟨r₀, hr₀, hclip⟩ := List.mem_filterMap.mp hr
    obtain ⟨hin, hrw, hrh⟩ := DamageRegion.clip_inside hclip
    refine ⟨hin, DamageRegion.within_of_covers hrw hrh fun px py hp => ?_⟩
    obtain ⟨h₁, h₂, h₃, h₄⟩ := hp
    obtain ⟨hx, hy⟩ := hin
    exact hc px (by omega) py (by omega)
      ⟨r₀, hr₀, DamageRegion.covers_of_clip hclip ⟨h₁, h₂, h₃, h₄⟩⟩
  unfold boundingDamageRegion at h
  rcases hrs : regions.filterMap fun r => r.clip width height with - | ⟨r, rs⟩
  · rw [hrs] at h
    cases h
  · rw [hrs] at h hwithin
    obtain rfl := Option.some.inj h
    obtain ⟨hr, hrc⟩ := hwithin r List.mem_cons_self
    exact foldl_union_within hw hh rs r hr
      (fun s hs => (hwithin s (List.mem_cons_of_mem r hs)).1) hrc
      fun s hs => (hwithin s (List.mem_cons_of_mem r hs)).2

end Bounding

/-! ### The rows -/

/-- Lay compact rows over a rectangle of a tightly packed frame, row by row. -/
def overlayRows (target : List UInt8) (frameWidth : ℕ) (region : DamageRegion)
    (compact : List UInt8) : Option (List UInt8) :=
  (List.range region.height).foldlM (fun target row => do
    let line ← read? compact (row * (region.width * 4)) (region.width * 4)
    write? target ((region.y + row) * (frameWidth * 4) + region.x * 4) line) target

section Rows

variable {frame target compact : List UInt8} {width height : ℕ} {r : DamageRegion}

/-- The rows laid so far. -/
structure Laid (frame target : List UInt8) (width height : ℕ) (r : DamageRegion) (n : ℕ)
    (out : List UInt8) : Prop where
  length_eq : out.length = width * height * 4
  pixel : ∀ y < height, ∀ x < width, pixelAt (width * 4) out x y =
    if r.Covers x y ∧ y < r.y + n then pixelAt (width * 4) frame x y
    else pixelAt (width * 4) target x y

theorem Laid.row (hr : r.Inside width height) (hlen : compact.length = r.width * r.height * 4)
    (hpixel : ∀ y < r.height, ∀ x < r.width, pixelAt (r.width * 4) compact x y
      = pixelAt (width * 4) frame (r.x + x) (r.y + y)) {k : ℕ} (hk : k < r.height)
    {out : List UInt8} (h : Laid frame target width height r k out) :
    ∃ line out', read? compact (k * (r.width * 4)) (r.width * 4) = some line ∧
      write? out ((r.y + k) * (width * 4) + r.x * 4) line = some out' ∧
      Laid frame target width height r (k + 1) out' := by
  obtain ⟨hx, hy⟩ := hr
  obtain ⟨hlen', hout⟩ := h
  have hsrc := rowOffset_le (w := r.width) hk
  have hdst := rowOffset_le (w := width) (show r.y + k < height by omega)
  obtain ⟨line, hread, hline, hsame⟩ :=
    read?_of_le compact (k * (r.width * 4)) (r.width * 4) (by omega)
  obtain ⟨out', hwrite, hlen'', hin, hkeep⟩ :=
    write?_of_le out ((r.y + k) * (width * 4) + r.x * 4) line (by omega)
  refine ⟨line, out', hread, hwrite, hlen''.trans hlen', fun y hy' x hx' => ?_⟩
  by_cases hline' : y = r.y + k ∧ r.x ≤ x ∧ x < r.x + r.width
  · -- a pixel of this row
    obtain ⟨rfl, hleft, hright⟩ := hline'
    have hcov : r.Covers x (r.y + k) ∧ r.y + k < r.y + (k + 1) :=
      ⟨⟨hleft, hright, by omega, by omega⟩, by omega⟩
    have hpix := hpixel k hk (x - r.x) (by omega)
    rw [Nat.add_sub_of_le hleft] at hpix
    rw [if_pos hcov, ← hpix]
    refine pixelAt_of_eq_inside ((r.y + k) * (width * 4) + r.x * 4) (k * (r.width * 4))
      (4 * (x - r.x)) (fun i hi => ?_) (show 4 * (x - r.x) + 4 ≤ r.width * 4 by omega)
      (by omega) rfl
    rw [hin i (by omega), hsame i hi]
  · -- a pixel beside it
    have hiff : (r.Covers x y ∧ y < r.y + (k + 1)) ↔ (r.Covers x y ∧ y < r.y + k) := by
      unfold DamageRegion.Covers
      omega
    simp only [hiff]
    rw [← hout y hy' x hx']
    apply pixelAt_of_eq_outside hkeep
    rcases Nat.lt_trichotomy y (r.y + k) with hlt | rfl | hgt
    · have habove := rowOffset_le (w := width) hlt
      have hcomm : width * (r.y + k) * 4 = (r.y + k) * (width * 4) := by ring
      omega
    · omega
    · have hbelow := rowOffset_le (w := width) hgt
      have hcomm : width * y * 4 = y * (width * 4) := by ring
      omega

/-- **What the overlay does**: inside the rectangle the frame the rows come from, and outside
the target as it was. -/
theorem overlayRows_spec (hr : r.Inside width height) (htarget : target.length = width * height * 4)
    (hlen : compact.length = r.width * r.height * 4)
    (hpixel : ∀ y < r.height, ∀ x < r.width, pixelAt (r.width * 4) compact x y
      = pixelAt (width * 4) frame (r.x + x) (r.y + y)) :
    ∃ out, overlayRows target width r compact = some out ∧ out.length = target.length ∧
      ∀ y < height, ∀ x < width, pixelAt (width * 4) out x y =
        if r.Covers x y then pixelAt (width * 4) frame x y
        else pixelAt (width * 4) target x y := by
  have hstart : Laid frame target width height r 0 target := by
    refine ⟨htarget, fun y _ x _ => (if_neg ?_).symm⟩
    rintro ⟨⟨-, -, hle, -⟩, hlt⟩
    omega
  obtain ⟨out, hout, hlaid⟩ := foldlM_range_inv (Laid frame target width height r) r.height hstart
    (f := fun target row => do
      let line ← read? compact (row * (r.width * 4)) (r.width * 4)
      write? target ((r.y + row) * (width * 4) + r.x * 4) line)
    fun k hk out h => by
      obtain ⟨line, out', hread, hwrite, h'⟩ := h.row hr hlen hpixel hk
      exact ⟨out', Option.bind_eq_some_iff.mpr ⟨line, hread, hwrite⟩, h'⟩
  refine ⟨out, hout, hlaid.length_eq.trans htarget.symm, fun y hy x hx => ?_⟩
  rw [hlaid.pixel y hy x hx]
  congr 1
  exact propext (and_iff_left_of_imp fun hcov => hcov.2.2.2)

end Rows

/-! ### The update -/

/-- The rectangle of a frame's damage and the rows sent for it are right. -/
def BgrxFrame.SendsDamage (frame : BgrxFrame) (regions : List DamageRegion) : Prop :=
  match boundingDamageRegion regions frame.width.toNat frame.height.toNat with
  | none =>
      ∀ px < frame.width.toNat, ∀ py < frame.height.toNat, ¬ CoveredBy regions px py
  | some b =>
      b.Inside frame.width.toNat frame.height.toNat ∧
      (∀ px < frame.width.toNat, ∀ py < frame.height.toNat,
        CoveredBy regions px py → b.Covers px py) ∧
      (∀ c : DamageRegion, (∀ px < frame.width.toNat, ∀ py < frame.height.toNat,
        CoveredBy regions px py → c.Covers px py) → b.Within c) ∧
      ∃ compact, compactBgraRegion frame.data (frame.width.toNat * 4) b = some compact ∧
        ∀ target : List UInt8, target.length = frame.data.length →
          ∃ out, overlayRows target frame.width.toNat b compact = some out ∧
            out.length = target.length ∧
            ∀ y < frame.height.toNat, ∀ x < frame.width.toNat,
              pixelAt (frame.width.toNat * 4) out x y =
                if b.Covers x y then pixelAt (frame.width.toNat * 4) frame.data x y
                else pixelAt (frame.width.toNat * 4) target x y

/-- **The Planar rectangle covers the damage and carries the right pixels**, for every frame
and every list of regions. -/
theorem planar_rectangle_correct (frame : BgrxFrame) (regions : List DamageRegion) :
    frame.SendsDamage regions := by
  have hw := frame.width.toNat_lt
  have hh := frame.height.toNat_lt
  have hlt := frame.length_lt
  rw [frame.length_eq] at hlt
  unfold BgrxFrame.SendsDamage
  obtain ⟨hnone, hmiss⟩ | ⟨b, hb, hin, hbw, hbh, hcov⟩ := boundingDamageRegion_spec hw hh regions
  · rw [hnone]
    exact hmiss
  · rw [hb]
    refine ⟨hin, hcov, fun c hc => boundingDamageRegion_least hw hh hb hc, ?_⟩
    obtain ⟨compact, hcompact, hlen, hpixel⟩ :=
      compactBgraRegion_spec frame.length_eq (by omega) hin hbw hbh
    refine ⟨compact, hcompact, fun target htarget => ?_⟩
    exact overlayRows_spec hin (htarget.trans frame.length_eq) hlen hpixel

end LamcoRdp
