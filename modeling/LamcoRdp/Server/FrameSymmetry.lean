/-
LamcoRdp/Server/FrameSymmetry.lean

`apply_frame_transform` and the symmetries of a rectangle.

Transform `t` of `wl_output` and SPA names one of eight: `t % 4` quarter turns
counter-clockwise, from 4 on of the picture flipped left to right (`symmetrySource`).
The code has the turns the other way round: 1 turns clockwise and 3 counter-clockwise,
and 7 does what 3 does (`codeSymmetry`).  A transposed frame whose rows do not fit `u32`
is returned with a stride that is not its own: read with that stride, the end of the
buffer is out of sight (`Image.transform_agree`).

Main result: `frameTransforms_dihedral_iff`.
-/
import LamcoRdp.Server.FrameTransform
import Mathlib.Tactic.IntervalCases

namespace LamcoRdp

open Buffer

/-! ### Images -/

/-- What `apply_frame_transform` takes and returns. -/
structure Image where
  data : List UInt8
  width : ℕ
  height : ℕ
  stride : ℕ
  deriving DecidableEq, Repr

namespace Image

/-- Byte `b` of a pixel. -/
def pixel (bpp : ℕ) (p : Image) (x y b : ℕ) : Option UInt8 :=
  pixelByte bpp p.stride p.data x y b

/-- `apply_frame_transform` on a picture. -/
def transform (bpp t : ℕ) (p : Image) : Option Image :=
  (applyFrameTransform p.data p.width p.height p.stride t bpp).map
    fun (data, width, height, stride) => ⟨data, width, height, stride⟩

/-- The same pixels, compared at `width * bpp` bytes per row. -/
def SamePixels (bpp : ℕ) (p q : Image) : Prop :=
  p.width = q.width ∧ p.height = q.height ∧
    ∀ y < p.height, ∀ x < p.width, ∀ b < bpp, p.pixel bpp x y b = q.pixel bpp x y b

instance (bpp : ℕ) (p q : Image) : Decidable (SamePixels bpp p q) :=
  inferInstanceAs (Decidable (_ ∧ _ ∧ _))

/-- Every row can be read, and rows do not overlap. -/
structure Readable (bpp : ℕ) (p : Image) : Prop where
  width_pos : 1 ≤ p.width
  height_pos : 1 ≤ p.height
  apart : p.height = 1 ∨ p.width * bpp ≤ p.stride
  inside : ∀ y < p.height, y * p.stride + p.width * bpp ≤ p.data.length

/-- The stride of the transposed image fits its type, or is never used. -/
def Fits (bpp : ℕ) (p : Image) : Prop := p.height * bpp < 2 ^ 32 ∨ p.width = 1

end Image

/-! ### The symmetries of a rectangle -/

/-- The sides after `k` quarter turns. -/
def turned (k : ℕ) (sides : ℕ × ℕ) : ℕ × ℕ := if k % 2 = 1 then sides.swap else sides

/-- Where a pixel of the picture turned by a quarter, counter-clockwise, comes from: the
top left one from the top right. -/
def quarterTurnSource (sides p : ℕ × ℕ) : ℕ × ℕ := (sides.1 - 1 - p.2, p.1)

/-- Where a pixel of the picture turned by `k` quarters comes from: the last
turn is undone first. -/
def turnSource (sides : ℕ × ℕ) : ℕ → ℕ × ℕ → ℕ × ℕ
  | 0, p => p
  | k + 1, p => turnSource sides k (quarterTurnSource (turned k sides) p)

/-- Where a pixel of the picture flipped left to right comes from. -/
def flipSource (sides p : ℕ × ℕ) : ℕ × ℕ := (sides.1 - 1 - p.1, p.2)

/-- Transform `t`: 0 to 3 are turns, 4 to 7 are flipped and then turned. -/
def symmetrySource (t : ℕ) (sides p : ℕ × ℕ) : ℕ × ℕ :=
  let source := turnSource sides (t % 4) p
  if 4 ≤ t then flipSource sides source else source

/-- `q` is `p` moved by the symmetry that `t` names. -/
def Image.MovedBy (bpp t : ℕ) (p q : Image) : Prop :=
  (q.width, q.height) = turned t (p.width, p.height) ∧
    ∀ y < q.height, ∀ x < q.width, ∀ b < bpp, q.pixel bpp x y b
      = p.pixel bpp (symmetrySource t (p.width, p.height) (x, y)).1
          (symmetrySource t (p.width, p.height) (x, y)).2 b

/-- The symmetry the code has for `t`. -/
def codeSymmetry (t : ℕ) : ℕ := if t = 3 ∨ t = 7 then 1 else if t = 1 then 3 else t

/-- The eight symmetries, written out. -/
def symmetryTable (t w h x y : ℕ) : ℕ × ℕ :=
  match t with
  | 0 => (x, y)
  | 1 => (w - 1 - y, x)
  | 2 => (w - 1 - x, h - 1 - y)
  | 3 => (y, h - 1 - x)
  | 4 => (w - 1 - x, y)
  | 5 => (y, x)
  | 6 => (x, h - 1 - y)
  | _ => (w - 1 - y, h - 1 - x)

theorem symmetrySource_eq {t w h x y : ℕ} (ht : t ≤ 7)
    (hx : x < (turned t (w, h)).1) (hy : y < (turned t (w, h)).2) :
    symmetrySource t (w, h) (x, y) = symmetryTable t w h x y := by
  interval_cases t <;>
    simp [symmetrySource, turnSource, quarterTurnSource, flipSource, turned, symmetryTable]
      at hx hy ⊢ <;> omega

/-! ### The operations on images -/

namespace Image

variable {bpp : ℕ} {p : Image}

/-- All rows are in the buffer, with their gaps. -/
structure Whole (bpp : ℕ) (p : Image) : Prop where
  width_pos : 1 ≤ p.width
  height_pos : 1 ≤ p.height
  row_le : p.width * bpp ≤ p.stride
  rows_le : p.stride * p.height ≤ p.data.length

theorem Whole.readable (h : p.Whole bpp) : p.Readable bpp := by
  refine ⟨h.width_pos, h.height_pos, Or.inr h.row_le, ?_⟩
  intro y hy
  have hend := rowEnd_le p.stride hy
  have hrow := h.row_le
  have hrows := h.rows_le
  omega

/-- The same image with other bytes of the same number. -/
theorem Readable.withData {out : List UInt8} (h : p.Readable bpp)
    (hlen : out.length = p.data.length) : ({ p with data := out } : Image).Readable bpp := by
  refine ⟨h.width_pos, h.height_pos, h.apart, ?_⟩
  show ∀ y < p.height, y * p.stride + p.width * bpp ≤ out.length
  rw [hlen]
  exact h.inside

theorem Whole.withData {out : List UInt8} (h : p.Whole bpp) (hlen : out.length = p.data.length) :
    ({ p with data := out } : Image).Whole bpp :=
  ⟨h.width_pos, h.height_pos, h.row_le, h.rows_le.trans hlen.ge⟩

theorem flipHorizontal_spec (h : p.Readable bpp) :
    ∃ out, flipHorizontal p.data p.width p.height p.stride bpp = some out ∧
      out.length = p.data.length ∧ ∀ y < p.height, ∀ x < p.width, ∀ b < bpp,
        ({ p with data := out } : Image).pixel bpp x y b
          = p.pixel bpp (p.width - 1 - x) y b := by
  obtain ⟨out, hout, hflip⟩ := flipHorizontal_of_rows p.data h.width_pos h.apart h.inside
  exact ⟨out, hout, hflip.length, hflip.flipped⟩

theorem flipVertical_spec (h : p.Readable bpp)
    (hlen : p.height = 1 ∨ p.stride * p.height ≤ p.data.length) :
    ∃ out, flipVertical p.data p.height p.stride = some out ∧
      out.length = p.data.length ∧ ∀ y < p.height, ∀ x < p.width, ∀ b < bpp,
        ({ p with data := out } : Image).pixel bpp x y b
          = p.pixel bpp x (p.height - 1 - y) b := by
  obtain ⟨out, hout, hlen', hflip⟩ := flipVertical_of_le p.data h.height_pos hlen
  refine ⟨out, hout, hlen', ?_⟩
  intro y hy x hx b hb
  refine hflip y hy (x * bpp + b) ?_
  rcases h.apart with hone | hrow
  · exact Or.inl hone
  · have := pixelEnd_le hrow hx
    exact Or.inr (by omega)

/-- The transposed image, with the stride `transpose` returns for it. -/
def transposed (bpp : ℕ) (p : Image) (out : List UInt8) : Image :=
  ⟨out, p.height, p.width, wrapU32 (p.height * bpp)⟩

theorem transpose_spec (h : p.Readable bpp) (hfit : p.Fits bpp) :
    ∃ out, transpose p.data p.width p.height p.stride bpp
        = some (out, wrapU32 (p.height * bpp)) ∧
      (p.transposed bpp out).Readable bpp ∧
      (p.width = 1 ∨ wrapU32 (p.height * bpp) * p.width ≤ out.length) ∧
      ∀ y < p.height, ∀ x < p.width, ∀ b < bpp,
        (p.transposed bpp out).pixel bpp y x b = p.pixel bpp x y b := by
  obtain ⟨out, hout, hlen, hpix⟩ := transpose_of_rows p.data h.inside
  have hle : wrapU32 (p.height * bpp) ≤ p.height * bpp := Nat.mod_le _ _
  refine ⟨out, hout, ⟨h.height_pos, h.width_pos, ?_, ?_⟩, ?_, ?_⟩
  · rcases hfit with hfit | hone
    · exact Or.inr (wrapU32_of_lt hfit).ge
    · exact Or.inl hone
  · intro x hx
    have hmul : x * wrapU32 (p.height * bpp) ≤ x * (p.height * bpp) := Nat.mul_le_mul_left x hle
    have hend := rowEnd_le (p.height * bpp) (show x < p.width from hx)
    show x * wrapU32 (p.height * bpp) + p.height * bpp ≤ out.length
    omega
  · right
    rw [hlen]
    exact Nat.mul_le_mul_right p.width hle
  · intro y hy x hx b hb
    rw [← show pixelByte bpp (p.height * bpp) out y x b = p.pixel bpp x y b from
      hpix y hy x hx b hb]
    show pixelByte bpp (wrapU32 (p.height * bpp)) out y x b = _
    rcases hfit with hfit | hone
    · rw [wrapU32_of_lt hfit]
    · -- the only row starts at 0
      obtain rfl : x = 0 := by omega
      unfold pixelByte
      rw [Nat.zero_mul, Nat.zero_mul]

/-- The coordinates of the table are those of the symmetry. -/
theorem movedBy_iff {t : ℕ} {q : Image} (ht : t ≤ 7)
    (hsides : (q.width, q.height) = turned t (p.width, p.height)) :
    p.MovedBy bpp t q ↔ ∀ y < q.height, ∀ x < q.width, ∀ b < bpp, q.pixel bpp x y b
      = p.pixel bpp (symmetryTable t p.width p.height x y).1
          (symmetryTable t p.width p.height x y).2 b := by
  have hsource : ∀ y < q.height, ∀ x < q.width,
      symmetrySource t (p.width, p.height) (x, y) = symmetryTable t p.width p.height x y := by
    intro y hy x hx
    refine symmetrySource_eq ht ?_ ?_
    · rw [← hsides]
      exact hx
    · rw [← hsides]
      exact hy
  constructor
  · intro h y hy x hx b hb
    rw [← hsource y hy x hx]
    exact h.2 y hy x hx b hb
  · intro h
    refine ⟨hsides, ?_⟩
    intro y hy x hx b hb
    rw [hsource y hy x hx]
    exact h y hy x hx b hb

/-- **What the odd transforms do**: 1 and 3 turn the other way, and 7 does what 3 does. -/
theorem transform_of_odd {t : ℕ} (ht : t ≤ 7) (hodd : t % 2 = 1) (h : p.Readable bpp)
    (hfit : p.Fits bpp) :
    ∃ q, p.transform bpp t = some q ∧ q.Readable bpp ∧ p.MovedBy bpp (codeSymmetry t) q := by
  obtain ⟨out, hout, hread, hlen, hpix⟩ := transpose_spec h hfit
  obtain rfl | rfl | rfl | rfl : t = 1 ∨ t = 3 ∨ t = 5 ∨ t = 7 := by omega
  · obtain ⟨out', hflip, hlen', hpix'⟩ := flipHorizontal_spec hread
    refine ⟨{ p.transposed bpp out with data := out' }, ?_, hread.withData hlen', ?_⟩
    · change flipHorizontal out p.height p.width (wrapU32 (p.height * bpp)) bpp = _ at hflip
      simp only [transform, applyFrameTransform, hout, hflip, Option.bind_eq_bind,
        Option.bind_some, Option.pure_def, Option.map_some, transposed]
    · refine (movedBy_iff (by decide) rfl).mpr fun y hy x hx b hb => ?_
      have hx : x < p.height := hx
      rw [hpix' y hy x hx b hb]
      exact hpix (p.height - 1 - x) (by omega) y hy b hb
  · obtain ⟨out', hflip, hlen', hpix'⟩ := flipVertical_spec hread hlen
    refine ⟨{ p.transposed bpp out with data := out' }, ?_, hread.withData hlen', ?_⟩
    · change flipVertical out p.width (wrapU32 (p.height * bpp)) = _ at hflip
      simp only [transform, applyFrameTransform, hout, hflip, Option.bind_eq_bind,
        Option.bind_some, Option.pure_def, Option.map_some, transposed]
    · refine (movedBy_iff (by decide) rfl).mpr fun y hy x hx b hb => ?_
      have hy : y < p.width := hy
      rw [hpix' y hy x hx b hb]
      exact hpix x hx (p.width - 1 - y) (by omega) b hb
  · refine ⟨p.transposed bpp out, ?_, hread, ?_⟩
    · simp only [transform, applyFrameTransform, hout, Option.bind_eq_bind, Option.bind_some,
        Option.pure_def, Option.map_some, transposed]
    · refine (movedBy_iff (by decide) rfl).mpr fun y hy x hx b hb => ?_
      exact hpix x hx y hy b hb
  · -- the picture is flipped before it is transposed
    obtain ⟨flipped, hflip, hlen', hpix'⟩ := flipHorizontal_spec h
    obtain ⟨out', hout', hread', -, hpix''⟩ := transpose_spec (h.withData hlen') hfit
    refine ⟨p.transposed bpp out', ?_, hread', ?_⟩
    · change transpose flipped p.width p.height p.stride bpp = _ at hout'
      simp only [transform, applyFrameTransform, hflip, hout', Option.bind_eq_bind,
        Option.bind_some, Option.pure_def, Option.map_some, transposed]
    · refine (movedBy_iff (by decide) rfl).mpr fun y hy x hx b hb => ?_
      have hy : y < p.width := hy
      exact (hpix'' x hx y hy b hb).trans (hpix' x hx y hy b hb)

/-- **What the even transforms do**, gaps and all. -/
theorem transform_of_even {t : ℕ} (ht : t ≤ 7) (heven : t % 2 = 0) (h : p.Whole bpp) :
    ∃ q, p.transform bpp t = some q ∧ q.Whole bpp ∧ p.MovedBy bpp (codeSymmetry t) q := by
  obtain rfl | rfl | rfl | rfl : t = 0 ∨ t = 2 ∨ t = 4 ∨ t = 6 := by omega
  · -- transform 0 is the identity
    refine ⟨p, rfl, h, (movedBy_iff (by decide) rfl).mpr fun y hy x hx b hb => rfl⟩
  · -- 2 is a flip of the rows, then one of the columns
    obtain ⟨buf, hbuf, hlen, hpix⟩ := flipVertical_spec h.readable (Or.inr h.rows_le)
    obtain ⟨out, hout, hlen', hpix'⟩ := flipHorizontal_spec (h.readable.withData hlen)
    refine ⟨{ p with data := out }, ?_, h.withData (hlen'.trans hlen), ?_⟩
    · change flipHorizontal buf p.width p.height p.stride bpp = _ at hout
      simp only [transform, applyFrameTransform, hbuf, hout, Option.bind_eq_bind,
        Option.bind_some, Option.pure_def, Option.map_some]
    · refine (movedBy_iff (by decide) rfl).mpr fun y hy x hx b hb => ?_
      have hx : x < p.width := hx
      exact (hpix' y hy x hx b hb).trans (hpix y hy (p.width - 1 - x) (by omega) b hb)
  · -- 4 flips the columns
    obtain ⟨out, hout, hlen, hpix⟩ := flipHorizontal_spec h.readable
    refine ⟨{ p with data := out }, ?_, h.withData hlen, ?_⟩
    · simp only [transform, applyFrameTransform, hout, Option.bind_eq_bind, Option.bind_some,
        Option.pure_def, Option.map_some]
    · refine (movedBy_iff (by decide) rfl).mpr fun y hy x hx b hb => ?_
      exact hpix y hy x hx b hb
  · -- 6 reverses the rows
    obtain ⟨out, hout, hlen, hrows⟩ := reverseRows_of_le p.data h.rows_le
    refine ⟨{ p with data := out }, ?_, ⟨h.width_pos, h.height_pos, h.row_le, hlen.ge⟩, ?_⟩
    · simp only [transform, applyFrameTransform, hout, Option.bind_eq_bind, Option.bind_some,
        Option.pure_def, Option.map_some]
    · refine (movedBy_iff (by decide) rfl).mpr fun y hy x hx b hb => ?_
      have hend := pixelEnd_le h.row_le hx
      exact hrows y hy (x * bpp + b) (by omega)

end Image

/-! ### Bytes out of sight -/

/-- The same number of bytes, and the same bytes up to `m`. -/
structure AgreeBelow (m : ℕ) (d d' : List UInt8) : Prop where
  le : m ≤ d.length
  length : d.length = d'.length
  bytes : ∀ i < m, d[i]? = d'[i]?

section Agree

variable {m : ℕ} {d d' : List UInt8} {width height stride bpp : ℕ}

theorem swap?_agree {i j : ℕ} (hi : i < m) (hj : j < m) (h : AgreeBelow m d d') :
    Option.Rel (AgreeBelow m) (swap? d i j) (swap? d' i j) := by
  have hle := h.le
  have hlen := h.length
  obtain ⟨e, he, helen, hei, hej, hekeep⟩ := swap?_of_lt d (i := i) (j := j) (by omega) (by omega)
  obtain ⟨e', he', helen', hei', hej', hekeep'⟩ :=
    swap?_of_lt d' (i := i) (j := j) (by omega) (by omega)
  rw [he, he']
  refine .some ⟨by omega, by omega, ?_⟩
  intro k hk
  by_cases hki : k = i
  · rw [hki, hei, hei', h.bytes j hj]
  by_cases hkj : k = j
  · rw [hkj, hej, hej', h.bytes i hi]
  · rw [hekeep k hki hkj, hekeep' k hki hkj, h.bytes k hk]

theorem flipHorizontal_agree (stride bpp : ℕ) (hw : 1 ≤ width)
    (hin : ∀ y < height, y * stride + width * bpp ≤ m) (h : AgreeBelow m d d') :
    Option.Rel (AgreeBelow m) (flipHorizontal d width height stride bpp)
      (flipHorizontal d' width height stride bpp) := by
  refine foldlM_rel (fun row hrow d d' h => ?_) h
  have hend := hin row (List.mem_range.mp hrow)
  rw [if_neg (by omega), if_neg (by omega)]
  refine foldlM_rel (fun k hk d d' h => ?_) h
  have hk := List.mem_range.mp hk
  have hleft := pixelEnd_le (Nat.le_refl (width * bpp)) (show k < width by omega)
  have hright := pixelEnd_le (Nat.le_refl (width * bpp)) (show width - 1 - k < width by omega)
  refine foldlM_rel (fun b hb d d' h => ?_) h
  have hb := List.mem_range.mp hb
  exact swap?_agree (by omega) (by omega) h

theorem flipVertical_agree (hh : 1 ≤ height) (hin : stride * height ≤ m)
    (h : AgreeBelow m d d') :
    Option.Rel (AgreeBelow m) (flipVertical d height stride) (flipVertical d' height stride) := by
  unfold flipVertical
  rw [if_neg (by omega), if_neg (by omega)]
  refine foldlM_rel (fun k hk d d' h => ?_) h
  have hk := List.mem_range.mp hk
  have htop := rowEnd_le stride (show k < height by omega)
  have hbottom := rowEnd_le stride (show height - 1 - k < height by omega)
  refine foldlM_rel (fun i hi d d' h => ?_) h
  have hi := List.mem_range.mp hi
  exact swap?_agree (by omega) (by omega) h

/-- A buffer without gaps is made of its pixels. -/
theorem agreeBelow_of_pixels (hlen : d.length = height * bpp * width)
    (hlen' : d'.length = height * bpp * width) (hm : m ≤ height * bpp * width)
    (hpix : ∀ x < width, ∀ y < height, ∀ b < bpp, x * (height * bpp) + (y * bpp + b) < m →
      pixelByte bpp (height * bpp) d y x b = pixelByte bpp (height * bpp) d' y x b) :
    AgreeBelow m d d' := by
  refine ⟨hlen ▸ hm, hlen.trans hlen'.symm, ?_⟩
  intro i hi
  have hin : i < height * bpp * width := hi.trans_le hm
  have hrow : 0 < height * bpp := Nat.pos_of_mul_pos_right (Nat.zero_lt_of_lt hin)
  have hbpp : 0 < bpp := Nat.pos_of_mul_pos_left hrow
  have hx : i / (height * bpp) < width := Nat.div_lt_of_lt_mul hin
  have hy : i % (height * bpp) / bpp < height :=
    Nat.div_lt_of_lt_mul ((Nat.mod_lt i hrow).trans_eq (Nat.mul_comm height bpp))
  have hb : i % (height * bpp) % bpp < bpp := Nat.mod_lt _ hbpp
  have hi' : i / (height * bpp) * (height * bpp)
      + (i % (height * bpp) / bpp * bpp + i % (height * bpp) % bpp) = i := by
    rw [Nat.div_add_mod', Nat.div_add_mod']
  have h := hpix _ hx _ hy _ hb (by rw [hi']; exact hi)
  unfold pixelByte at h
  rwa [hi'] at h

/-- `transpose` of images with the same pixels. -/
theorem transpose_congr (hin : ∀ y < height, y * stride + width * bpp ≤ d.length)
    (hlen : d.length = d'.length)
    (hpix : ∀ y < height, ∀ x < width, ∀ b < bpp,
      pixelByte bpp stride d x y b = pixelByte bpp stride d' x y b) :
    transpose d width height stride bpp = transpose d' width height stride bpp := by
  obtain ⟨out, hout, hl, hp⟩ := transpose_of_rows d hin
  obtain ⟨out', hout', hl', hp'⟩ := transpose_of_rows d' (hlen ▸ hin)
  have hagree : AgreeBelow (height * bpp * width) out out' := by
    refine agreeBelow_of_pixels hl hl' (Nat.le_refl _) fun x hx y hy b hb _ => ?_
    rw [hp y hy x hx b hb, hp' y hy x hx b hb]
    exact hpix y hy x hx b hb
  rw [hout, hout']
  congr 2
  refine List.ext_getElem? fun i => ?_
  by_cases hi : i < height * bpp * width
  · exact hagree.bytes i hi
  · rw [List.getElem?_eq_none (by omega), List.getElem?_eq_none (by omega)]

end Agree

/-! ### Rows that do not fit their stride -/

namespace Image

variable {bpp t : ℕ} {p : Image} {d' : List UInt8}

/-- The pixel that ends up last in the transposed buffer. -/
def lastSource (t : ℕ) (p : Image) : ℕ := if t = 7 then 0 else p.width - 1

/-- The rows of the transposed image do not fit `u32`, and there is a second one. -/
structure Overflows (bpp : ℕ) (p : Image) : Prop where
  readable : p.Readable bpp
  rows : 2 ≤ p.width
  wraps : 2 ^ 32 ≤ p.height * bpp

/-- The stride that is returned is shorter than a row. -/
theorem Overflows.wrap_lt (h : p.Overflows bpp) :
    wrapU32 (p.height * bpp) + 1 ≤ p.height * bpp :=
  (Nat.mod_lt _ (by norm_num)).trans_le h.wraps

/-- Seen with that stride, the buffer ends early. -/
theorem Overflows.seen_le (h : p.Overflows bpp) {y : ℕ} (hy : y < p.width) :
    y * wrapU32 (p.height * bpp) + p.height * bpp ≤ p.height * bpp * p.width - 1 := by
  have hlt := h.wrap_lt
  have hrows := h.rows
  rcases Nat.eq_zero_or_pos y with rfl | hpos
  · have hmul : p.height * bpp * 2 ≤ p.height * bpp * p.width := Nat.mul_le_mul_left _ hrows
    omega
  · have hend := rowEnd_le (p.height * bpp) hy
    have hmul : y * (wrapU32 (p.height * bpp) + 1) ≤ y * (p.height * bpp) :=
      Nat.mul_le_mul_left y hlt
    rw [Nat.mul_succ] at hmul
    omega

/-- So do the whole rows of that stride. -/
theorem Overflows.rows_le (h : p.Overflows bpp) :
    wrapU32 (p.height * bpp) * p.width ≤ p.height * bpp * p.width - 1 := by
  have hlt := h.wrap_lt
  have hrows := h.rows
  have hmul := Nat.mul_le_mul_right p.width hlt
  rw [Nat.succ_mul] at hmul
  omega

/-- Two images alike but for the last byte of their last pixel, transposed. -/
theorem transpose_agree (h : p.Readable bpp) (hlen : p.data.length = d'.length)
    (hpix : ∀ y < p.height, ∀ x < p.width, ∀ b < bpp,
      ¬(x = p.width - 1 ∧ y = p.height - 1 ∧ b = bpp - 1) →
      p.pixel bpp x y b = ({ p with data := d' } : Image).pixel bpp x y b) :
    ∃ out out', transpose p.data p.width p.height p.stride bpp
        = some (out, wrapU32 (p.height * bpp)) ∧
      transpose d' p.width p.height p.stride bpp = some (out', wrapU32 (p.height * bpp)) ∧
      out.length = p.height * bpp * p.width ∧
      AgreeBelow (p.height * bpp * p.width - 1) out out' := by
  obtain ⟨out, hout, hl, hp⟩ := transpose_of_rows p.data h.inside
  obtain ⟨out', hout', hl', hp'⟩ := transpose_of_rows d' (hlen ▸ h.inside)
  refine ⟨out, out', hout, hout', hl, agreeBelow_of_pixels hl hl' (Nat.sub_le _ _) ?_⟩
  intro x hx y hy b hb hlast
  rw [hp y hy x hx b hb, hp' y hy x hx b hb]
  refine hpix y hy x hx b hb ?_
  rintro ⟨rfl, rfl, rfl⟩
  -- the byte left out is the last one of the result
  have hrow : (p.height - 1) * bpp + bpp = p.height * bpp := by
    rw [← Nat.succ_mul, Nat.succ_eq_add_one, Nat.sub_add_cancel h.height_pos]
  have hall : (p.width - 1) * (p.height * bpp) + p.height * bpp
      = p.height * bpp * p.width := by
    rw [← Nat.succ_mul, Nat.succ_eq_add_one, Nat.sub_add_cancel h.width_pos, Nat.mul_comm]
  omega

/-- Flips of the transposed images, alike where the flip succeeds. -/
theorem transposed_agree {m : ℕ} {r r' : Option (List UInt8)} {q q' : Image}
    (hrel : Option.Rel (AgreeBelow m) r r') (hq : r.map (p.transposed bpp) = some q)
    (hq' : r'.map (p.transposed bpp) = some q') :
    ∃ out out', q = p.transposed bpp out ∧ q' = p.transposed bpp out' ∧ AgreeBelow m out out' := by
  cases hrel with
  | none => cases hq
  | some hagree =>
      obtain rfl := Option.some.inj hq
      obtain rfl := Option.some.inj hq'
      exact ⟨_, _, rfl, rfl, hagree⟩

/-- Of the bytes of the image only one is in the last place of the result, where
the returned stride does not reach. -/
theorem Overflows.transform_agree (h : p.Overflows bpp) (ht : t ≤ 7) (hodd : t % 2 = 1)
    (hlen : p.data.length = d'.length)
    (hpix : ∀ y < p.height, ∀ x < p.width, ∀ b < bpp,
      ¬(x = p.lastSource t ∧ y = p.height - 1 ∧ b = bpp - 1) →
      p.pixel bpp x y b = ({ p with data := d' } : Image).pixel bpp x y b)
    {q q' : Image} (hq : p.transform bpp t = some q)
    (hq' : ({ p with data := d' } : Image).transform bpp t = some q') :
    ∃ out out', q = p.transposed bpp out ∧ q' = p.transposed bpp out' ∧
      AgreeBelow (p.height * bpp * p.width - 1) out out' := by
  by_cases h7 : t = 7
  · subst h7
    -- flipping takes the first pixel of the last row to its end
    obtain ⟨f, hf, hflen, hfpix⟩ := flipHorizontal_spec h.readable
    obtain ⟨f', hf', hflen', hfpix'⟩ := flipHorizontal_spec (h.readable.withData hlen.symm)
    change flipHorizontal d' p.width p.height p.stride bpp = _ at hf'
    obtain ⟨out, out', hout, hout', hl, hagree⟩ := transpose_agree
      (h.readable.withData hflen) (hflen.trans (hlen.trans hflen'.symm)) fun y hy x hx b hb hne => by
        have hx : x < p.width := hx
        refine (hfpix y hy x hx b hb).trans (Eq.trans ?_ (hfpix' y hy x hx b hb).symm)
        refine hpix y hy (p.width - 1 - x) (by omega) b hb ?_
        rintro ⟨hx0, hy0, hb0⟩
        have hx0 : p.width - 1 - x = 0 := hx0
        exact hne ⟨show x = p.width - 1 by omega, hy0, hb0⟩
    simp only [transform, applyFrameTransform, hf, hf', hout, hout', Option.bind_eq_bind,
      Option.bind_some, Option.pure_def] at hq hq'
    exact transposed_agree (.some hagree) hq hq'
  · have hx : p.lastSource t = p.width - 1 := if_neg h7
    rw [hx] at hpix
    obtain ⟨out, out', hout, hout', hl, hagree⟩ := transpose_agree h.readable hlen hpix
    simp only [transform] at hq hq'
    obtain rfl | rfl | rfl : t = 1 ∨ t = 3 ∨ t = 5 := by omega
    · refine transposed_agree (flipHorizontal_agree (wrapU32 (p.height * bpp)) bpp
        h.readable.height_pos (fun y hy => h.seen_le hy) hagree) ?_ ?_
      · rw [← hq]
        simp only [applyFrameTransform, hout, Option.bind_eq_bind, Option.bind_some]
        cases flipHorizontal out p.height p.width (wrapU32 (p.height * bpp)) bpp <;> rfl
      · rw [← hq']
        simp only [applyFrameTransform, hout', Option.bind_eq_bind, Option.bind_some]
        cases flipHorizontal out' p.height p.width (wrapU32 (p.height * bpp)) bpp <;> rfl
    · refine transposed_agree (flipVertical_agree h.readable.width_pos h.rows_le hagree) ?_ ?_
      · rw [← hq]
        simp only [applyFrameTransform, hout, Option.bind_eq_bind, Option.bind_some]
        cases flipVertical out p.width (wrapU32 (p.height * bpp)) <;> rfl
      · rw [← hq']
        simp only [applyFrameTransform, hout', Option.bind_eq_bind, Option.bind_some]
        cases flipVertical out' p.width (wrapU32 (p.height * bpp)) <;> rfl
    · simp only [applyFrameTransform, hout, hout', Option.bind_eq_bind, Option.bind_some,
        Option.pure_def] at hq hq'
      exact transposed_agree (.some hagree) hq hq'

/-- An odd transform reads an image through its rows only. -/
theorem transform_congr {q : Image} {m : ℕ} (ht : t ≤ 7) (hodd : t % 2 = 1) (hw : 1 ≤ q.width)
    (hin : ∀ y < q.height, y * q.stride + q.width * bpp ≤ m)
    (h : AgreeBelow m q.data d') :
    q.transform bpp t = ({ q with data := d' } : Image).transform bpp t := by
  have hcongr : ∀ {e e' : List UInt8}, AgreeBelow m e e' →
      transpose e q.width q.height q.stride bpp = transpose e' q.width q.height q.stride bpp := by
    intro e e' h
    refine transpose_congr (fun y hy => (hin y hy).trans h.le) h.length
      fun y hy x hx b hb => h.bytes _ ?_
    have hend := pixelEnd_le (Nat.le_refl (q.width * bpp)) hx
    have hrow := hin y hy
    omega
  unfold transform
  congr 1
  obtain rfl | rfl | rfl | rfl : t = 1 ∨ t = 3 ∨ t = 5 ∨ t = 7 := by omega
  · simp only [applyFrameTransform, hcongr h]
  · simp only [applyFrameTransform, hcongr h]
  · simp only [applyFrameTransform, hcongr h]
  · have hrel := flipHorizontal_agree q.stride bpp hw hin h
    simp only [applyFrameTransform, Option.bind_eq_bind]
    generalize flipHorizontal q.data q.width q.height q.stride bpp = r at hrel ⊢
    generalize flipHorizontal d' q.width q.height q.stride bpp = r' at hrel ⊢
    cases hrel with
    | none => rfl
    | some hagree => rw [Option.bind_some, Option.bind_some, hcongr hagree]

end Image

/-! ### Images with one mark -/

namespace Image

/-- The images of the frame source: pixels of at least one byte, rows that hold
them, and a buffer of exactly these rows. -/
structure Valid (bpp : ℕ) (p : Image) : Prop where
  width_pos : 1 ≤ p.width
  height_pos : 1 ≤ p.height
  bpp_pos : 1 ≤ bpp
  row_le : p.width * bpp ≤ p.stride
  length : p.data.length = p.stride * p.height
  width_lt : p.width < 2 ^ 32
  height_lt : p.height < 2 ^ 32
  stride_lt : p.stride < 2 ^ 32
  bpp_lt : bpp < 2 ^ 32

/-- The picture with other bytes. -/
def withData (p : Image) (d : List UInt8) : Image := { p with data := d }

variable {bpp : ℕ} {p : Image} {d : List UInt8}

theorem Valid.withData (h : p.Valid bpp) (hd : d.length = p.data.length) :
    (p.withData d).Valid bpp :=
  { h with length := hd.trans h.length }

theorem Valid.whole (h : p.Valid bpp) : p.Whole bpp :=
  ⟨h.width_pos, h.height_pos, h.row_le, h.length.ge⟩

/-- Where a byte is in the buffer. -/
def address (bpp : ℕ) (p : Image) (x y b : ℕ) : ℕ := y * p.stride + (x * bpp + b)

/-- The image is black but for one byte. -/
def marked (bpp : ℕ) (p : Image) (x y b : ℕ) : Image :=
  p.withData ((List.replicate p.data.length 0).set (p.address bpp x y b) 1)

theorem length_marked (bpp : ℕ) (p : Image) (x y b : ℕ) :
    (p.marked bpp x y b).data.length = p.data.length := by
  show ((List.replicate p.data.length 0).set (p.address bpp x y b) 1).length = p.data.length
  rw [List.length_set, List.length_replicate]

theorem Valid.address_lt (h : p.Valid bpp) {x y b : ℕ} (hx : x < p.width) (hy : y < p.height)
    (hb : b < bpp) : p.address bpp x y b < p.data.length := by
  have hrow := rowEnd_le p.stride hy
  have hpix := pixelEnd_le h.row_le hx
  have hlen := h.length
  unfold address
  omega

theorem Valid.address_inj (h : p.Valid bpp) {x y b x' y' b' : ℕ} (hx : x < p.width)
    (hb : b < bpp) (hx' : x' < p.width) (hb' : b' < bpp)
    (heq : p.address bpp x y b = p.address bpp x' y' b') : x = x' ∧ y = y' ∧ b = b' := by
  have hpix := pixelEnd_le h.row_le hx
  have hpix' := pixelEnd_le h.row_le hx'
  unfold address at heq
  have hy : y = y' := by
    by_contra hne
    have := block_disjoint (m := p.stride) hne 0 (b := x * bpp + b) (by omega)
    omega
  subst hy
  have hxx : x = x' := by
    by_contra hne
    have := block_disjoint (m := bpp) hne (y * p.stride) hb
    omega
  subst hxx
  exact ⟨rfl, rfl, by omega⟩

theorem Valid.pixel_marked (h : p.Valid bpp) {x y b x' y' b' : ℕ} (hx : x < p.width)
    (hy : y < p.height) (hb : b < bpp) (hx' : x' < p.width) (hy' : y' < p.height)
    (hb' : b' < bpp) :
    (p.marked bpp x y b).pixel bpp x' y' b'
      = some (if x' = x ∧ y' = y ∧ b' = b then 1 else 0) := by
  have hlt := h.address_lt hx' hy' hb'
  show ((List.replicate p.data.length 0).set (p.address bpp x y b) 1)[p.address bpp x' y' b']? = _
  by_cases heq : x' = x ∧ y' = y ∧ b' = b
  · rw [if_pos heq]
    obtain ⟨rfl, rfl, rfl⟩ := heq
    rw [List.getElem?_set_self (by rwa [List.length_replicate])]
  · rw [if_neg heq, List.getElem?_set_ne, List.getElem?_replicate_of_lt hlt]
    intro hadr
    obtain ⟨rfl, rfl, rfl⟩ := h.address_inj hx hb hx' hb' hadr
    exact heq ⟨rfl, rfl, rfl⟩

/-- The black image. -/
def blank (p : Image) : Image := p.withData (List.replicate p.data.length 0)

theorem Valid.pixel_blank (h : p.Valid bpp) {x y b : ℕ} (hx : x < p.width) (hy : y < p.height)
    (hb : b < bpp) : p.blank.pixel bpp x y b = some 0 :=
  List.getElem?_replicate_of_lt (h.address_lt hx hy hb)

/-- The byte that goes out of sight when the rows of the transposed image do not
fit their stride: whether it is marked or not, the result looks the same. -/
theorem Valid.mark_out_of_sight {t : ℕ} (h : p.Valid bpp) (hfit : ¬p.Fits bpp) (ht : t ≤ 7)
    (hodd : t % 2 = 1) {q q' : Image} (hq : p.blank.transform bpp t = some q)
    (hq' : (p.marked bpp (p.lastSource t) (p.height - 1) (bpp - 1)).transform bpp t = some q') :
    q.SamePixels bpp q' ∧ ∀ t' ≤ 7, t' % 2 = 1 → q.transform bpp t' = q'.transform bpp t' := by
  obtain ⟨hwrap, hone⟩ := not_or.mp hfit
  have hwidth := h.width_pos
  have hheight := h.height_pos
  have hbpp := h.bpp_pos
  have hlast : p.lastSource t < p.width := by
    unfold lastSource
    split <;> omega
  have hover : p.blank.Overflows bpp :=
    ⟨(h.withData List.length_replicate).whole.readable, show 2 ≤ p.width by omega,
      Nat.le_of_not_lt hwrap⟩
  -- the two images agree but for the marked byte
  obtain ⟨out, out', rfl, rfl, hagree⟩ := hover.transform_agree ht hodd
    ((List.length_replicate).trans (length_marked bpp p _ _ _).symm)
    (fun y hy x hx b hb hne => by
      refine (h.pixel_blank hx hy hb).trans (Eq.symm ?_)
      refine (h.pixel_marked hlast (by omega) (by omega) hx hy hb).trans ?_
      exact congrArg some (if_neg hne)) hq hq'
  have hseen : ∀ y < p.width, y * wrapU32 (p.height * bpp) + p.height * bpp
      ≤ p.height * bpp * p.width - 1 := fun y hy => hover.seen_le hy
  constructor
  · -- so the pixels that are read are the same
    refine ⟨rfl, rfl, fun y hy x hx b hb => hagree.bytes _ ?_⟩
    have hrow := hseen y hy
    have hpix := pixelEnd_le (Nat.le_refl (p.height * bpp)) (show x < p.height from hx)
    show y * wrapU32 (p.height * bpp) + (x * bpp + b) < p.height * bpp * p.width - 1
    omega
  · -- and so is the second turn
    intro t' ht' hodd'
    exact transform_congr ht' hodd' hheight hseen hagree

/-- Every pixel goes somewhere, also the one whose last byte goes out of sight. -/
theorem exists_target {t : ℕ} (ht : t ≤ 7) (hodd : t % 2 = 1) (hw : 1 ≤ p.width)
    (hh : 1 ≤ p.height) : ∃ x < p.height, ∃ y < p.width,
      symmetryTable t p.width p.height x y = (p.lastSource t, p.height - 1) := by
  obtain rfl | rfl | rfl | rfl : t = 1 ∨ t = 3 ∨ t = 5 ∨ t = 7 := by omega
  · exact ⟨p.height - 1, by omega, 0, by omega, by simp [symmetryTable, lastSource]⟩
  · exact ⟨0, by omega, p.width - 1, by omega, by simp [symmetryTable, lastSource]⟩
  · exact ⟨p.height - 1, by omega, p.width - 1, by omega, by simp [symmetryTable, lastSource]⟩
  · exact ⟨0, by omega, p.width - 1, by omega, by simp [symmetryTable, lastSource]⟩

/-- If an odd transform moves every image of a layout by its symmetry, then the
transposed rows fit their stride. -/
theorem Valid.fits_of_moved {t : ℕ} (h : p.Valid bpp) (ht : t ≤ 7) (hodd : t % 2 = 1)
    (hmoved : ∀ d, d.length = p.data.length →
      ∃ q, (p.withData d).transform bpp t = some q ∧ (p.withData d).MovedBy bpp t q) :
    p.Fits bpp := by
  by_contra hfit
  have hheight := h.height_pos
  have hbpp := h.bpp_pos
  obtain ⟨x, hx, y, hy, htarget⟩ := exists_target ht hodd h.width_pos hheight
  have hlast : p.lastSource t < p.width := by
    have hwidth := h.width_pos
    unfold lastSource
    split <;> omega
  obtain ⟨q, hq, hmove⟩ := hmoved _ List.length_replicate
  obtain ⟨q', hq', hmove'⟩ := hmoved _
    (length_marked bpp p (p.lastSource t) (p.height - 1) (bpp - 1))
  obtain ⟨⟨hw, hh, hsame⟩, -⟩ := h.mark_out_of_sight hfit ht hodd hq hq'
  have hturned : turned t (p.width, p.height) = (p.height, p.width) := if_pos hodd
  obtain ⟨hqw, hqh⟩ := Prod.mk.inj (hmove.1.trans hturned)
  -- black where nothing is marked, and white where the mark has to be
  have hzero : q.pixel bpp x y (bpp - 1) = some 0 := by
    rw [(movedBy_iff ht hmove.1).mp hmove y (hqh ▸ hy) x (hqw ▸ hx) _ (by omega)]
    show p.blank.pixel bpp (symmetryTable t p.width p.height x y).1
      (symmetryTable t p.width p.height x y).2 (bpp - 1) = _
    rw [htarget]
    exact h.pixel_blank hlast (show p.height - 1 < p.height by omega) (by omega)
  have hone : q'.pixel bpp x y (bpp - 1) = some 1 := by
    rw [(movedBy_iff ht hmove'.1).mp hmove' y (by rw [← hh, hqh]; exact hy) x
      (by rw [← hw, hqw]; exact hx) _ (by omega)]
    show (p.marked bpp (p.lastSource t) (p.height - 1) (bpp - 1)).pixel bpp
      (symmetryTable t p.width p.height x y).1 (symmetryTable t p.width p.height x y).2 (bpp - 1)
      = _
    rw [htarget]
    refine (h.pixel_marked hlast (by omega) (by omega) hlast (show p.height - 1 < p.height by omega)
      (by omega)).trans ?_
    simp
  rw [hsame y (hqh ▸ hy) x (hqw ▸ hx) _ (by omega), hone] at hzero
  exact absurd hzero (by decide)

/-- If two odd transforms in a row give every image of a layout back, then the
transposed rows fit their stride. -/
theorem Valid.fits_of_inverse {t t' : ℕ} (h : p.Valid bpp) (ht : t ≤ 7) (hodd : t % 2 = 1)
    (ht' : t' ≤ 7) (hodd' : t' % 2 = 1)
    (hback : ∀ d, d.length = p.data.length → ∃ q r, (p.withData d).transform bpp t = some q ∧
      q.transform bpp t' = some r ∧ r.SamePixels bpp (p.withData d)) :
    p.Fits bpp := by
  by_contra hfit
  have hheight := h.height_pos
  have hbpp := h.bpp_pos
  have hlast : p.lastSource t < p.width := by
    have hwidth := h.width_pos
    unfold lastSource
    split <;> omega
  -- turn the blank image and the marked one there and back
  obtain ⟨q, r, hq, hr, hw, hh, hpix⟩ := hback _ List.length_replicate
  obtain ⟨q', r', hq', hr', hw', hh', hpix'⟩ := hback _
    (length_marked bpp p (p.lastSource t) (p.height - 1) (bpp - 1))
  obtain ⟨-, hsame⟩ := h.mark_out_of_sight hfit ht hodd hq hq'
  -- after the first turn they cannot be told apart
  obtain rfl : r = r' := Option.some.inj (hr.symm.trans ((hsame t' ht' hodd').trans hr'))
  have hy : p.height - 1 < r.height := by
    rw [hh]
    exact Nat.sub_lt hheight Nat.one_pos
  have hx : p.lastSource t < r.width := by
    rw [hw]
    exact hlast
  -- but the mark should be there in one of them, and is not in the other
  have hzero := (hpix _ hy _ hx (bpp - 1) (by omega)).trans
    (h.pixel_blank hlast (show p.height - 1 < p.height by omega) (by omega))
  have hone := (hpix' _ hy _ hx (bpp - 1) (by omega)).trans
    (h.pixel_marked hlast (by omega) (by omega) hlast (show p.height - 1 < p.height by omega)
      (by omega))
  rw [hzero] at hone
  simp at hone

/-! ### The transforms as a group -/

/-- The transform does what the code has for it, on every image whose transposed
rows fit their stride. -/
theorem Valid.transform_spec {t : ℕ} (h : p.Valid bpp) (ht : t ≤ 7)
    (hfit : t % 2 = 1 → p.Fits bpp) :
    ∃ q, p.transform bpp t = some q ∧ (t % 2 = 1 → q.Readable bpp) ∧
      (t % 2 = 0 → q.Whole bpp) ∧ p.MovedBy bpp (codeSymmetry t) q := by
  rcases Nat.mod_two_eq_zero_or_one t with heven | hodd
  · obtain ⟨q, hq, hwhole, hmoved⟩ := transform_of_even ht heven h.whole
    exact ⟨q, hq, fun hodd => absurd hodd (by omega), fun _ => hwhole, hmoved⟩
  · obtain ⟨q, hq, hread, hmoved⟩ := transform_of_odd ht hodd h.whole.readable (hfit hodd)
    exact ⟨q, hq, fun _ => hread, fun heven => absurd heven (by omega), hmoved⟩

/-- Two symmetries that take every pixel of the result from the same place. -/
theorem MovedBy.congr {s s' : ℕ} {q : Image} (hs : s ≤ 7) (hs' : s' ≤ 7) (h : p.MovedBy bpp s q)
    (hsides : turned s (p.width, p.height) = turned s' (p.width, p.height))
    (hsource : ∀ y < q.height, ∀ x < q.width,
      symmetryTable s p.width p.height x y = symmetryTable s' p.width p.height x y) :
    p.MovedBy bpp s' q := by
  refine (movedBy_iff hs' (h.1.trans hsides)).mpr fun y hy x hx b hb => ?_
  rw [(movedBy_iff hs h.1).mp h y hy x hx b hb, hsource y hy x hx]

/-- Of a single pixel the two quarter turns make the same, and of a single row a quarter
turn and the seventh symmetry. -/
theorem movedBy_of_codeSymmetry {t : ℕ} {q : Image} (ht : t ≤ 7)
    (hturn : t = 1 ∨ t = 3 → p.width = 1 ∧ p.height = 1) (hseven : t = 7 → p.height = 1)
    (h : p.MovedBy bpp (codeSymmetry t) q) : p.MovedBy bpp t q := by
  obtain rfl | rfl | rfl | ⟨h1, h3, h7⟩ : t = 1 ∨ t = 3 ∨ t = 7 ∨ t ≠ 1 ∧ t ≠ 3 ∧ t ≠ 7 := by omega
  · obtain ⟨hw, hh⟩ := hturn (Or.inl rfl)
    refine h.congr (by decide) ht rfl fun y hy x hx => ?_
    obtain ⟨hqw, hqh⟩ := Prod.mk.inj (h.1.trans (show turned 3 _ = (p.height, p.width) from rfl))
    exact Prod.ext (show y = p.width - 1 - y by omega) (show p.height - 1 - x = x by omega)
  · obtain ⟨hw, hh⟩ := hturn (Or.inr rfl)
    refine h.congr (by decide) ht rfl fun y hy x hx => ?_
    obtain ⟨hqw, hqh⟩ := Prod.mk.inj (h.1.trans (show turned 1 _ = (p.height, p.width) from rfl))
    exact Prod.ext (show p.width - 1 - y = y by omega) (show x = p.height - 1 - x by omega)
  · have hh := hseven rfl
    refine h.congr (by decide) ht rfl fun y hy x hx => ?_
    obtain ⟨hqw, hqh⟩ := Prod.mk.inj (h.1.trans (show turned 1 _ = (p.height, p.width) from rfl))
    exact Prod.ext rfl (show x = p.height - 1 - x by omega)
  · rwa [codeSymmetry, if_neg (by omega), if_neg h1] at h

/-- If an odd transform moves every image of a layout by the symmetry it names, then the
first pixel of the result comes from where the code takes it. -/
theorem Valid.first_source {t : ℕ} (h : p.Valid bpp) (hfit : p.Fits bpp) (ht : t ≤ 7)
    (hodd : t % 2 = 1) (hmoved : ∀ d, d.length = p.data.length →
      ∃ q, (p.withData d).transform bpp t = some q ∧ (p.withData d).MovedBy bpp t q) :
    symmetryTable t p.width p.height 0 0
      = symmetryTable (codeSymmetry t) p.width p.height 0 0 := by
  have hw := h.width_pos
  have hh := h.height_pos
  have hb := h.bpp_pos
  obtain ⟨hle, hcode⟩ : codeSymmetry t ≤ 7 ∧ codeSymmetry t % 2 = 1 := by
    unfold codeSymmetry
    split_ifs <;> omega
  have hinside : ∀ s ≤ 7, s % 2 = 1 → (symmetryTable s p.width p.height 0 0).1 < p.width ∧
      (symmetryTable s p.width p.height 0 0).2 < p.height := by
    intro s hs hsodd
    obtain rfl | rfl | rfl | rfl : s = 1 ∨ s = 3 ∨ s = 5 ∨ s = 7 := by omega
    all_goals
      simp only [symmetryTable]
      omega
  obtain ⟨hx, hy⟩ := hinside t ht hodd
  obtain ⟨hx', hy'⟩ := hinside _ hle hcode
  -- one mark, where the code looks
  have hlen := length_marked bpp p (symmetryTable (codeSymmetry t) p.width p.height 0 0).1
    (symmetryTable (codeSymmetry t) p.width p.height 0 0).2 0
  obtain ⟨q, hq, hnamed⟩ := hmoved _ hlen
  obtain ⟨q', hq', -, -, hdone⟩ := (h.withData hlen).transform_spec ht fun _ => hfit
  obtain rfl := Option.some.inj (hq.symm.trans hq')
  obtain ⟨hqw, hqh⟩ := Prod.mk.inj (hnamed.1.trans
    (show turned t (p.width, p.height) = (p.height, p.width) from if_pos hodd))
  have hfar := (movedBy_iff ht hnamed.1).mp hnamed 0 (by omega) 0 (by omega) 0 (by omega)
  have hnear := (movedBy_iff hle hdone.1).mp hdone 0 (by omega) 0 (by omega) 0 (by omega)
  have hone := h.pixel_marked hx' hy' hb hx' hy' hb
  have hmark := h.pixel_marked hx' hy' hb hx hy hb
  by_contra hne
  rw [if_pos ⟨rfl, rfl, rfl⟩] at hone
  rw [if_neg fun heq => hne (Prod.ext heq.1 heq.2.1)] at hmark
  exact absurd (hmark.symm.trans (hfar.symm.trans (hnear.trans hone))) (by decide)

/-- Two moves in a row that lead every pixel back. -/
theorem samePixels_of_moves {s s' : ℕ} {q r : Image} (hs : s ≤ 7) (hs' : s' ≤ 7)
    (hq : p.MovedBy bpp s q) (hr : q.MovedBy bpp s' r)
    (hturn : turned s' (turned s (p.width, p.height)) = (p.width, p.height))
    (hback : ∀ y < p.height, ∀ x < p.width,
      (symmetryTable s' q.width q.height x y).1 < q.width ∧
      (symmetryTable s' q.width q.height x y).2 < q.height ∧
      symmetryTable s p.width p.height (symmetryTable s' q.width q.height x y).1
        (symmetryTable s' q.width q.height x y).2 = (x, y)) :
    r.SamePixels bpp p := by
  have hsides : (r.width, r.height) = (p.width, p.height) := by
    rw [hr.1, hq.1, hturn]
  obtain ⟨hw, hh⟩ := Prod.mk.inj hsides
  refine ⟨hw, hh, fun y hy x hx b hb => ?_⟩
  obtain ⟨hx', hy', hxy⟩ := hback y (hh ▸ hy) x (hw ▸ hx)
  rw [(movedBy_iff hs' hr.1).mp hr y hy x hx b hb,
    (movedBy_iff hs hq.1).mp hq _ hy' _ hx' b hb, hxy]

/-- Two transforms in a row. -/
theorem Valid.transform_twice (h : p.Valid bpp) (t t' : ℕ) (ht : t ≤ 7) (ht' : t' ≤ 7)
    (hparity : t % 2 = t' % 2) (hfit : t % 2 = 1 → p.Fits bpp) :
    ∃ q r, p.transform bpp t = some q ∧ q.transform bpp t' = some r ∧
      p.MovedBy bpp (codeSymmetry t) q ∧ q.MovedBy bpp (codeSymmetry t') r := by
  obtain ⟨q, hq, hread, hwhole, hmoved⟩ := h.transform_spec ht hfit
  rcases Nat.mod_two_eq_zero_or_one t with heven | hodd
  · obtain ⟨r, hr, -, hmoved'⟩ := transform_of_even ht' (hparity ▸ heven) (hwhole heven)
    exact ⟨q, r, hq, hr, hmoved, hmoved'⟩
  · -- the second transposition has the rows of the image again
    have hfit' : q.Fits bpp := by
      left
      have hcode : codeSymmetry t % 2 = 1 := by
        unfold codeSymmetry
        split_ifs <;> omega
      obtain ⟨-, hqh⟩ := Prod.mk.inj (hmoved.1.trans (if_pos hcode))
      rw [hqh]
      exact h.row_le.trans_lt h.stride_lt
    obtain ⟨r, hr, -, hmoved'⟩ := transform_of_odd ht' (hparity ▸ hodd) (hread hodd) hfit'
    exact ⟨q, r, hq, hr, hmoved, hmoved'⟩

/-- The transforms that should undo each other. -/
def inversePairs : List (ℕ × ℕ) := [(1, 3), (3, 1), (2, 2), (4, 4), (5, 5), (6, 6), (7, 7)]

/-- They do, as far as 7 is not one of them. -/
theorem Valid.gives_back {t t' : ℕ} (h : p.Valid bpp) (hpair : (t, t') ∈ inversePairs)
    (hseven : t = 7 → p.width = 1 ∧ p.height = 1) (hfit : t % 2 = 1 → p.Fits bpp) :
    ∃ q r, p.transform bpp t = some q ∧ q.transform bpp t' = some r ∧ r.SamePixels bpp p := by
  have hw := h.width_pos
  have hh := h.height_pos
  simp only [inversePairs, List.mem_cons, Prod.mk.injEq, List.not_mem_nil, or_false] at hpair
  obtain ⟨q, r, hq, hr, hmoved, hmoved'⟩ :=
    h.transform_twice t t' (by omega) (by omega) (by omega) hfit
  refine ⟨q, r, hq, hr, ?_⟩
  have hqw : q.width = (turned (codeSymmetry t) (p.width, p.height)).1 :=
    congrArg Prod.fst hmoved.1
  have hqh : q.height = (turned (codeSymmetry t) (p.width, p.height)).2 :=
    congrArg Prod.snd hmoved.1
  obtain ⟨rfl, rfl⟩ | ⟨rfl, rfl⟩ | ⟨rfl, rfl⟩ | ⟨rfl, rfl⟩ | ⟨rfl, rfl⟩ | ⟨rfl, rfl⟩ | ⟨rfl, rfl⟩ :=
    hpair
  all_goals
    refine samePixels_of_moves (by decide) (by decide) hmoved hmoved' rfl fun y hy x hx => ?_
    simp [turned, symmetryTable, codeSymmetry] at hqw hqh ⊢
    omega

/-- Transform 7 twice is half a turn. -/
theorem Valid.point_of_seven_twice (h : p.Valid bpp) (hfit : p.Fits bpp)
    (hback : ∀ d, d.length = p.data.length → ∃ q r, (p.withData d).transform bpp 7 = some q ∧
      q.transform bpp 7 = some r ∧ r.SamePixels bpp (p.withData d)) :
    p.width = 1 ∧ p.height = 1 := by
  by_contra hne
  have hw := h.width_pos
  have hh := h.height_pos
  have hb := h.bpp_pos
  have hlen := length_marked bpp p 0 0 0
  obtain ⟨q, r, hq, hr, hrw, hrh, hpix⟩ := hback _ hlen
  obtain ⟨q', r', hq', hr', hmoved, hmoved'⟩ :=
    (h.withData hlen).transform_twice 7 7 (by decide) (by decide) rfl fun _ => hfit
  obtain rfl := Option.some.inj (hq.symm.trans hq')
  obtain rfl := Option.some.inj (hr.symm.trans hr')
  have hrw : r.width = p.width := hrw
  have hrh : r.height = p.height := hrh
  have hqw : q.width = p.height := congrArg Prod.fst hmoved.1
  have hqh : q.height = p.width := congrArg Prod.snd hmoved.1
  -- the first pixel, marked, comes from the last one
  have hfirst := h.pixel_marked hw hh hb hw hh hb
  have hlast := h.pixel_marked hw hh hb (show p.width - 1 < p.width by omega)
    (show p.height - 1 < p.height by omega) hb
  rw [if_pos ⟨rfl, rfl, rfl⟩] at hfirst
  rw [if_neg (by omega)] at hlast
  have hback₂ := (movedBy_iff (by decide) hmoved'.1).mp hmoved' 0 (by omega) 0 (by omega) 0
    (by omega)
  have hback₁ := (movedBy_iff (by decide) hmoved.1).mp hmoved 0 (by omega) (q.width - 1)
    (by omega) 0 (by omega)
  have hchain := (hpix 0 (by omega) 0 (by omega) 0 hb).symm.trans (hback₂.trans hback₁)
  change (p.marked bpp 0 0 0).pixel bpp 0 0 0
    = (p.marked bpp 0 0 0).pixel bpp (p.width - 1) (q.width - 1) 0 at hchain
  rw [hqw, hfirst, hlast] at hchain
  exact absurd hchain (by decide)

/-- The two transforms give results that look different. -/
def Differ (bpp t t' : ℕ) (p : Image) : Prop :=
  ∃ q ∈ p.transform bpp t, ∃ q' ∈ p.transform bpp t', ¬q.SamePixels bpp q'

instance (bpp t t' : ℕ) (p : Image) : Decidable (Differ bpp t t' p) :=
  inferInstanceAs (Decidable (∃ q ∈ _, ∃ q' ∈ _, ¬_))

/-- Six numbered pixels, two by three. -/
def numbered : Image := ⟨[1, 2, 3, 4, 5, 6], 2, 3, 2⟩

theorem valid_numbered : numbered.Valid 1 := by
  constructor <;> decide

/-- 3 and 7 look the same wherever their stride can be read. -/
theorem Valid.three_eq_seven (h : p.Valid bpp) (hfit : p.Fits bpp) : ¬Differ bpp 3 7 p := by
  rintro ⟨q, hq, q', hq', hne⟩
  obtain ⟨q₁, hq₁, -, -, hmoved⟩ := h.transform_spec (t := 3) (by decide) fun _ => hfit
  obtain ⟨q₂, hq₂, -, -, hmoved'⟩ := h.transform_spec (t := 7) (by decide) fun _ => hfit
  obtain rfl := Option.some.inj (hq₁.symm.trans hq)
  obtain rfl := Option.some.inj (hq₂.symm.trans hq')
  obtain ⟨hw, hh⟩ := Prod.mk.inj (hmoved.1.trans hmoved'.1.symm)
  refine hne ⟨hw, hh, fun y hy x hx b hb => ?_⟩
  exact (hmoved.2 y hy x hx b hb).trans (hmoved'.2 y (hh ▸ hy) x (hw ▸ hx) b hb).symm

theorem Differ.symm {t t' : ℕ} (h : Differ bpp t t' p) : Differ bpp t' t p := by
  obtain ⟨q, hq, q', hq', hne⟩ := h
  refine ⟨q', hq', q, hq, fun hsame => hne ?_⟩
  obtain ⟨hw, hh, hpix⟩ := hsame
  exact ⟨hw.symm, hh.symm, fun y hy x hx b hb => (hpix y (hh ▸ hy) x (hw ▸ hx) b hb).symm⟩

/-- **The frame transforms as symmetries.**  On every layout the transform moves
the pixels of all images by the symmetry it names exactly if it is neither 1, 3 nor 7, or
there is but one pixel, or for 7 one row, and the rows of a transposed image fit `u32`.
The pairs undo each other if these rows fit, with 7 its own inverse on a single
pixel only.  Two transforms can be told apart on some image unless they are 3 and 7. -/
theorem frameTransforms_dihedral_iff (h : p.Valid bpp) :
    (∀ t ≤ 7, (∀ d, d.length = p.data.length →
        ∃ q, (p.withData d).transform bpp t = some q ∧ (p.withData d).MovedBy bpp t q) ↔
      (t = 1 ∨ t = 3 → p.width = 1 ∧ p.height = 1) ∧ (t = 7 → p.height = 1) ∧
        (t % 2 = 1 → p.Fits bpp)) ∧
    (∀ t t', (t, t') ∈ inversePairs → ((∀ d, d.length = p.data.length →
        ∃ q r, (p.withData d).transform bpp t = some q ∧ q.transform bpp t' = some r ∧
          r.SamePixels bpp (p.withData d)) ↔
      (t = 7 → p.width = 1 ∧ p.height = 1) ∧ (t % 2 = 1 → p.Fits bpp))) ∧
    ∀ t ≤ 7, ∀ t' ≤ 7, t ≠ t' →
      ((∃ (bpp' : ℕ) (p' : Image), p'.Valid bpp' ∧ p'.Fits bpp' ∧ Differ bpp' t t' p') ↔
        ¬(t = 3 ∧ t' = 7) ∧ ¬(t = 7 ∧ t' = 3)) := by
  refine ⟨?_, ?_, ?_⟩
  · intro t ht
    constructor
    · intro hmoved
      -- the result fits, and its first pixel tells which turn was made
      have hfit : t % 2 = 1 → p.Fits bpp := fun hodd => h.fits_of_moved ht hodd hmoved
      have hw := h.width_pos
      have hh := h.height_pos
      refine ⟨?_, ?_, hfit⟩
      · rintro (rfl | rfl)
        · have hsource : (p.width - 1, 0) = (0, p.height - 1) :=
            h.first_source (hfit rfl) ht rfl hmoved
          obtain ⟨hx, hy⟩ := Prod.mk.inj hsource
          omega
        · have hsource : (0, p.height - 1) = (p.width - 1, 0) :=
            h.first_source (hfit rfl) ht rfl hmoved
          obtain ⟨hx, hy⟩ := Prod.mk.inj hsource
          omega
      · rintro rfl
        have hsource : (p.width - 1, p.height - 1) = (p.width - 1, 0) :=
          h.first_source (hfit rfl) ht rfl hmoved
        obtain ⟨-, hy⟩ := Prod.mk.inj hsource
        omega
    · -- conversely, where the turns cannot be told apart the code's is the one named
      rintro ⟨hturn, hseven, hfit⟩ d hd
      obtain ⟨q, hq, -, -, hmoved⟩ := (h.withData hd).transform_spec ht hfit
      exact ⟨q, hq, movedBy_of_codeSymmetry ht hturn hseven hmoved⟩
  · intro t t' hpair
    have hpair' := hpair
    simp only [inversePairs, List.mem_cons, Prod.mk.injEq, List.not_mem_nil, or_false] at hpair'
    constructor
    · -- a pair that inverts each other fits, and 7 twice is the identity on one pixel only
      intro hback
      have hfit : t % 2 = 1 → p.Fits bpp := fun hodd =>
        h.fits_of_inverse (by omega) hodd (by omega) (by omega) hback
      refine ⟨?_, hfit⟩
      rintro rfl
      obtain rfl : t' = 7 := by omega
      exact h.point_of_seven_twice (hfit rfl) hback
    · rintro ⟨hseven, hfit⟩ d hd
      exact (h.withData hd).gives_back hpair hseven hfit
  · -- transforms 3 and 7 are the same turn, any other two differ on a numbered image
    intro t ht t' ht' hne
    constructor
    · rintro ⟨bpp', p', hp', hfit', hdiffer⟩
      constructor
      · rintro ⟨rfl, rfl⟩
        exact hp'.three_eq_seven hfit' hdiffer
      · rintro ⟨rfl, rfl⟩
        exact hp'.three_eq_seven hfit' hdiffer.symm
    · intro hpair
      refine ⟨1, numbered, valid_numbered, Or.inl (by decide), ?_⟩
      interval_cases t <;> interval_cases t' <;>
        first
          | exact absurd rfl hne
          | exact absurd hpair (by decide)
          | decide

/-- The numbered pixels: their layout is one where 7 does not meet its promise. -/
theorem frameTransforms_dihedral_iff_numbered :
    numbered.Valid 1 ∧ ¬∀ d, d.length = numbered.data.length →
      ∃ q, (numbered.withData d).transform 1 7 = some q ∧
        (numbered.withData d).MovedBy 1 7 q := by
  refine ⟨valid_numbered, fun hmoved => ?_⟩
  have hrow := (((frameTransforms_dihedral_iff valid_numbered).1 7 (by decide)).mp hmoved).2.1 rfl
  exact absurd hrow (by decide)

/-- Transform 1 turns the numbered pixels clockwise.  Transform 7 of them is transform 3,
not what it names, and done twice it does not give them back. -/
theorem transforms_miss_their_symmetries :
    (numbered.transform 1 1 = some ⟨[5, 3, 1, 6, 4, 2], 3, 2, 3⟩ ∧
      ¬numbered.MovedBy 1 1 ⟨[5, 3, 1, 6, 4, 2], 3, 2, 3⟩ ∧
      numbered.MovedBy 1 1 ⟨[2, 4, 6, 1, 3, 5], 3, 2, 3⟩) ∧
    numbered.transform 1 7 = numbered.transform 1 3 ∧
      numbered.transform 1 7 = some ⟨[2, 4, 6, 1, 3, 5], 3, 2, 3⟩ ∧
      ¬numbered.MovedBy 1 7 ⟨[2, 4, 6, 1, 3, 5], 3, 2, 3⟩ ∧
      (numbered.transform 1 7).bind (transform 1 7) = some ⟨[6, 5, 4, 3, 2, 1], 2, 3, 2⟩ ∧
      ¬(⟨[6, 5, 4, 3, 2, 1], 2, 3, 2⟩ : Image).SamePixels 1 numbered := by
  refine ⟨⟨by decide, ?_, rfl, by decide⟩, by decide, by decide, ?_, by decide, by decide⟩
  · rintro ⟨-, hpix⟩
    exact absurd (hpix 0 (by decide) 0 (by decide) 0 (by decide)) (by decide)
  · rintro ⟨-, hpix⟩
    exact absurd (hpix 0 (by decide) 0 (by decide) 0 (by decide)) (by decide)

end Image

end LamcoRdp
