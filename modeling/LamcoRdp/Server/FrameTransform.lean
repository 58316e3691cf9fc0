/-
LamcoRdp/Server/FrameTransform.lean

What `apply_frame_transform` does to the pixels of a frame.

Both flips are one loop at two scales: `reverseBlocks_of_le` says that swapping
block `k` with block `n - 1 - k` for every `k < n / 2` reverses `n` blocks, and a
block is a row for `flip_vertical` and a pixel for `flip_horizontal`.  With
`transpose` and the row copy of transform 6 this gives the coordinates every
pixel comes from.
-/
import LamcoRdp.Server.FrameOps

namespace LamcoRdp

open Buffer

/-! ### Rows of a buffer -/

/-- The end of a row. -/
theorem rowEnd_le (stride : ℕ) {y n : ℕ} (hy : y < n) : y * stride + stride ≤ stride * n := by
  rw [Nat.mul_comm stride]
  exact RowMajor.rowEnd_le stride hy

/-- The end of a pixel in its row. -/
theorem pixelEnd_le {width bpp stride x : ℕ} (hrow : width * bpp ≤ stride) (hx : x < width) :
    x * bpp + bpp ≤ stride := by
  have h := rowEnd_le bpp hx
  rw [Nat.mul_comm bpp width] at h
  omega

/-- Byte `b` of the pixel at `(x, y)`. -/
def pixelByte (bpp stride : ℕ) (buf : List UInt8) (x y b : ℕ) : Option UInt8 :=
  buf[y * stride + (x * bpp + b)]?

/-! ### Swaps -/

section Swaps

variable (data : List UInt8)

theorem swap?_of_lt {i j : ℕ} (hi : i < data.length) (hj : j < data.length) :
    ∃ out, swap? data i j = some out ∧ out.length = data.length ∧
      out[i]? = data[j]? ∧ out[j]? = data[i]? ∧ ∀ p, p ≠ i → p ≠ j → out[p]? = data[p]? := by
  have hgi : data[i]? = some (data.getD i 0) := by
    rw [List.getD_eq_getElem _ _ hi, List.getElem?_eq_getElem hi]
  have hgj : data[j]? = some (data.getD j 0) := by
    rw [List.getD_eq_getElem _ _ hj, List.getElem?_eq_getElem hj]
  refine ⟨_, if_pos ⟨hi, hj⟩, ?_, ?_, ?_, ?_⟩
  · rw [List.length_set, List.length_set]
  · by_cases hij : i = j
    · subst hij
      rw [List.getElem?_set_self (by rwa [List.length_set]), hgi]
    · rw [List.getElem?_set_ne (Ne.symm hij), List.getElem?_set_self hi, hgj]
  · rw [List.getElem?_set_self (by rwa [List.length_set]), hgi]
  · intro p hpi hpj
    rw [List.getElem?_set_ne (Ne.symm hpj), List.getElem?_set_ne (Ne.symm hpi)]

/-- Two blocks of `n` bytes trade places, byte by byte. -/
theorem swapBlocks_of_le {i j n : ℕ} (hij : i + n ≤ j) (hj : j + n ≤ data.length) :
    ∃ out, (List.range n).foldlM (fun data b => swap? data (i + b) (j + b)) data = some out ∧
      out.length = data.length ∧ (∀ b < n, out[i + b]? = data[j + b]?) ∧
      (∀ b < n, out[j + b]? = data[i + b]?) ∧
      ∀ p, p < i ∨ i + n ≤ p → p < j ∨ j + n ≤ p → out[p]? = data[p]? := by
  -- the same for the first `k` bytes of the blocks
  refine foldlM_range_inv (fun k (out : List UInt8) => out.length = data.length ∧
    (∀ b < k, out[i + b]? = data[j + b]?) ∧ (∀ b < k, out[j + b]? = data[i + b]?) ∧
    ∀ p, p < i ∨ i + k ≤ p → p < j ∨ j + k ≤ p → out[p]? = data[p]?) n
    ⟨rfl, fun b hb => absurd hb (Nat.not_lt_zero b), fun b hb => absurd hb (Nat.not_lt_zero b),
      fun _ _ _ => rfl⟩ ?_
  rintro k hk out ⟨hlen, hleft, hright, hrest⟩
  obtain ⟨out', hswap, hlen', hi', hj', hrest'⟩ :=
    swap?_of_lt out (show i + k < out.length by omega) (show j + k < out.length by omega)
  refine ⟨out', hswap, hlen'.trans hlen, ?_, ?_, ?_⟩
  · intro b hb
    rcases Nat.lt_succ_iff_lt_or_eq.mp hb with hb | rfl
    · rw [hrest' _ (by omega) (by omega), hleft b hb]
    · rw [hi', hrest _ (by omega) (by omega)]
  · intro b hb
    rcases Nat.lt_succ_iff_lt_or_eq.mp hb with hb | rfl
    · rw [hrest' _ (by omega) (by omega), hright b hb]
    · rw [hj', hrest _ (by omega) (by omega)]
  · intro p hpi hpj
    rw [hrest' p (by omega) (by omega), hrest p (by omega) (by omega)]

/-- Block `x` reaches into no other block. -/
theorem block_disjoint {m x y : ℕ} (hxy : x ≠ y) (base : ℕ) {b : ℕ} (hb : b < m) :
    base + x * m + b < base + y * m ∨ base + y * m + m ≤ base + x * m + b := by
  rcases Nat.lt_or_gt_of_ne hxy with h | h
  · have hend := RowMajor.rowEnd_le m h
    omega
  · have hend := RowMajor.rowEnd_le m h
    omega

/-- Blocks `k` from either end are in place. -/
structure ReversedUpTo (base n m k : ℕ) (data out : List UInt8) : Prop where
  length : out.length = data.length
  done : ∀ x < n, x < k ∨ n - 1 - x < k → ∀ b < m,
    out[base + x * m + b]? = data[base + (n - 1 - x) * m + b]?
  todo : ∀ x < n, ¬(x < k ∨ n - 1 - x < k) → ∀ b < m,
    out[base + x * m + b]? = data[base + x * m + b]?
  rest : ∀ p, p < base ∨ base + n * m ≤ p → out[p]? = data[p]?

/-- One pass of the reversal. -/
theorem ReversedUpTo.step {base n m k : ℕ} {data out : List UInt8} (hk : k < n / 2)
    (hlen : base + n * m ≤ data.length) (h : ReversedUpTo base n m k data out) :
    ∃ out', (List.range m).foldlM (fun data b =>
        swap? data (base + k * m + b) (base + (n - 1 - k) * m + b)) out = some out' ∧
      ReversedUpTo base n m (k + 1) data out' := by
  have hgap := RowMajor.rowEnd_le m (show k < n - 1 - k by omega)
  have hend := RowMajor.rowEnd_le m (show n - 1 - k < n by omega)
  -- the blocks `k` and `n - 1 - k` change places
  obtain ⟨out', hswap, hlen', hleft, hright, hkeep⟩ :=
    swapBlocks_of_le out (show base + k * m + m ≤ base + (n - 1 - k) * m by omega)
      (show base + (n - 1 - k) * m + m ≤ out.length by rw [h.length]; omega)
  refine ⟨out', hswap, hlen'.trans h.length, ?_, ?_, ?_⟩
  · intro x hx hdone b hb
    by_cases hxk : x = k
    · subst hxk
      rw [hleft b hb, h.todo (n - 1 - x) (by omega) (by omega) b hb]
    by_cases hxr : x = n - 1 - k
    · subst hxr
      have hback : n - 1 - (n - 1 - k) = k := by omega
      rw [hright b hb, hback, h.todo k (by omega) (by omega) b hb]
    · rw [hkeep _ (block_disjoint hxk base hb) (block_disjoint hxr base hb)]
      exact h.done x hx (by omega) b hb
  · -- the blocks between are untouched
    intro x hx htodo b hb
    rw [hkeep _ (block_disjoint (by omega) base hb) (block_disjoint (by omega) base hb)]
    exact h.todo x hx (by omega) b hb
  · -- and so is all outside
    intro p hp
    rw [hkeep p (by omega) (by omega)]
    exact h.rest p hp

/-- The order of `n` blocks of `m` bytes is reversed by swapping the first half
with the second. -/
theorem reverseBlocks_of_le (base n m : ℕ) (hlen : base + n * m ≤ data.length) :
    ∃ out, (List.range (n / 2)).foldlM (fun data k => (List.range m).foldlM (fun data b =>
        swap? data (base + k * m + b) (base + (n - 1 - k) * m + b)) data) data = some out ∧
      out.length = data.length ∧
      (∀ x < n, ∀ b < m, out[base + x * m + b]? = data[base + (n - 1 - x) * m + b]?) ∧
      ∀ p, p < base ∨ base + n * m ≤ p → out[p]? = data[p]? := by
  have hstart : ReversedUpTo base n m 0 data data :=
    ⟨rfl, fun x _ hx => absurd hx (by omega), fun _ _ _ _ _ => rfl, fun _ _ => rfl⟩
  obtain ⟨out, hout, h⟩ := foldlM_range_inv (fun k out => ReversedUpTo base n m k data out)
    (n / 2) hstart fun k hk out h => h.step hk hlen
  refine ⟨out, hout, h.length, ?_, h.rest⟩
  intro x hx b hb
  by_cases hhalf : x < n / 2 ∨ n - 1 - x < n / 2
  · exact h.done x hx hhalf b hb
  · -- the block in the middle stays
    rw [h.todo x hx hhalf b hb, show n - 1 - x = x by omega]

end Swaps

/-! ### The four operations -/

section Operations

variable (data : List UInt8) {width height stride bpp : ℕ}

/-- One row alone stays, whatever the stride. -/
theorem flipVertical_of_le (hh : 1 ≤ height)
    (hlen : height = 1 ∨ stride * height ≤ data.length) :
    ∃ out, flipVertical data height stride = some out ∧ out.length = data.length ∧
      ∀ y < height, ∀ i, height = 1 ∨ i < stride →
        out[y * stride + i]? = data[(height - 1 - y) * stride + i]? := by
  unfold flipVertical
  rw [if_neg (by omega)]
  by_cases hone : height = 1
  · subst hone
    refine ⟨data, rfl, rfl, ?_⟩
    intro y hy i _
    rw [show 1 - 1 - y = y by omega]
  · have hlen := hlen.resolve_left hone
    rw [Nat.mul_comm] at hlen
    obtain ⟨out, hout, hlen', hrows, -⟩ :=
      reverseBlocks_of_le data 0 height stride (by rwa [Nat.zero_add])
    simp only [Nat.zero_add] at hout hrows
    exact ⟨out, hout, hlen', fun y hy i hi => hrows y hy i (hi.resolve_left hone)⟩

/-- The first `n` rows are flipped, the others not yet. -/
structure FlippedRows (width height stride bpp n : ℕ) (data out : List UInt8) : Prop where
  length : out.length = data.length
  flipped : ∀ y < n, ∀ x < width, ∀ b < bpp,
    pixelByte bpp stride out x y b = pixelByte bpp stride data (width - 1 - x) y b
  rest : ∀ y < height, n ≤ y → ∀ x < width, ∀ b < bpp,
    pixelByte bpp stride out x y b = pixelByte bpp stride data x y b

/-- The rows must not overlap, unless there is but one. -/
theorem flipHorizontal_of_rows (hw : 1 ≤ width) (hrow : height = 1 ∨ width * bpp ≤ stride)
    (hin : ∀ y < height, y * stride + width * bpp ≤ data.length) :
    ∃ out, flipHorizontal data width height stride bpp = some out ∧
      FlippedRows width height stride bpp height data out := by
  unfold flipHorizontal
  refine foldlM_range_inv (fun n out => FlippedRows width height stride bpp n data out) height
    ⟨rfl, fun y hy => absurd hy (Nat.not_lt_zero y), fun _ _ _ _ _ _ _ => rfl⟩ ?_
  intro row hr out h
  rw [if_neg (by omega)]
  obtain ⟨out', hrev, hlen', hpix, hrest⟩ := reverseBlocks_of_le out (row * stride) width bpp
    (by rw [h.length]; exact hin row hr)
  -- the pass leaves every other row
  have hother : ∀ y < height, y ≠ row → ∀ x < width, ∀ b < bpp,
      pixelByte bpp stride out' x y b = pixelByte bpp stride out x y b := by
    intro y hy hne x hx b hb
    have hrow : width * bpp ≤ stride := by omega
    have hxend := pixelEnd_le (Nat.le_refl (width * bpp)) hx
    refine hrest _ ?_
    rcases Nat.lt_or_gt_of_ne hne with hlt | hgt
    · have := RowMajor.rowEnd_le stride hlt
      omega
    · have := RowMajor.rowEnd_le stride hgt
      omega
  refine ⟨out', hrev, hlen'.trans h.length, ?_, ?_⟩
  · intro y hy x hx b hb
    by_cases hyr : y = row
    · subst hyr
      have hkeep := h.rest y hr (Nat.le_refl y) (width - 1 - x) (by omega) b hb
      rw [← hkeep]
      unfold pixelByte
      rw [← Nat.add_assoc, hpix x hx b hb, Nat.add_assoc]
    · rw [hother y (by omega) hyr x hx b hb]
      exact h.flipped y (by omega) x hx b hb
  · intro y hy hle x hx b hb
    rw [hother y hy (by omega) x hx b hb]
    exact h.rest y hy (by omega) x hx b hb

/-- The pixels `transpose` has copied when it is at `(x, y)`. -/
def TransposedUpTo (data : List UInt8) (width height stride bpp x y : ℕ) (out : List UInt8) :
    Prop :=
  out.length = height * bpp * width ∧ ∀ y' < height, ∀ x' < width, y' < y ∨ y' = y ∧ x' < x →
    ∀ b < bpp, pixelByte bpp (height * bpp) out y' x' b = pixelByte bpp stride data x' y' b

/-- One pixel of the transposition. -/
theorem TransposedUpTo.step {data out : List UInt8} {x y : ℕ}
    (hin : ∀ y < height, y * stride + width * bpp ≤ data.length) (hx : x < width)
    (hy : y < height)
    (h : TransposedUpTo data width height stride bpp x y out) :
    ∃ out', (do
        let px ← read? data (y * stride + x * bpp) bpp
        write? out (x * (height * bpp) + y * bpp) px) = some out' ∧
      TransposedUpTo data width height stride bpp (x + 1) y out' := by
  obtain ⟨hout, hcopied⟩ := h
  have hsrc := hin y hy
  have hdst := rowEnd_le (height * bpp) hx
  have hxend := pixelEnd_le (Nat.le_refl (width * bpp)) hx
  have hyend := pixelEnd_le (Nat.le_refl (height * bpp)) hy
  obtain ⟨px, hread, hpx, hget⟩ := read?_of_le data (y * stride + x * bpp) bpp (by omega)
  obtain ⟨out', hwrite, hlen', hpart, hkeep⟩ :=
    write?_of_le out (x * (height * bpp) + y * bpp) px (by omega)
  refine ⟨out', by rw [hread]; exact hwrite, hlen'.trans hout, ?_⟩
  intro y' hy' x' hx' hdone b hb
  have hy'end := pixelEnd_le (Nat.le_refl (height * bpp)) hy'
  unfold pixelByte
  by_cases hhere : y' = y ∧ x' = x
  · obtain ⟨rfl, rfl⟩ := hhere
    rw [← Nat.add_assoc, hpart b (by omega), hget b hb, Nat.add_assoc]
  · -- a different pixel of the output: another row of it, or another place in the row
    rw [hkeep]
    · exact hcopied y' hy' x' hx' (by omega) b hb
    · rw [hpx]
      by_cases hxx : x' = x
      · subst hxx
        have hne : y' ≠ y := fun hyy => hhere ⟨hyy, rfl⟩
        have := block_disjoint hne (x' * (height * bpp)) hb
        omega
      · rcases Nat.lt_or_gt_of_ne hxx with hlt | hgt
        · have := RowMajor.rowEnd_le (height * bpp) hlt
          omega
        · have := RowMajor.rowEnd_le (height * bpp) hgt
          omega

/-- `transpose` reads any rows that are in the buffer, also rows that overlap. -/
theorem transpose_of_rows (hin : ∀ y < height, y * stride + width * bpp ≤ data.length) :
    ∃ out, transpose data width height stride bpp = some (out, wrapU32 (height * bpp)) ∧
      out.length = height * bpp * width ∧ ∀ y < height, ∀ x < width, ∀ b < bpp,
        pixelByte bpp (height * bpp) out y x b = pixelByte bpp stride data x y b := by
  have hstart : TransposedUpTo data width height stride bpp 0 0
      (List.replicate (height * bpp * width) 0) :=
    ⟨List.length_replicate, fun _ _ _ _ h => absurd h (by omega)⟩
  obtain ⟨out, hout, hlen', h⟩ := foldlM_range_inv
    (fun y out => TransposedUpTo data width height stride bpp 0 y out) height hstart
    fun y hy out h => by
      obtain ⟨out', hout', hlen', h'⟩ := foldlM_range_inv
        (fun x out => TransposedUpTo data width height stride bpp x y out) width h
        fun x hx out h => h.step hin hx hy
      exact ⟨out', hout', hlen', fun y' hy' x' hx' hdone => h' y' hy' x' hx' (by omega)⟩
  refine ⟨out, ?_, hlen', fun y hy x hx => h y hy x hx (Or.inl hy)⟩
  exact congrArg (Option.map fun out => (out, wrapU32 (height * bpp))) hout

/-- The copy in reverse order, as one list of rows. -/
theorem reverseRows_eq (hlen : stride * height ≤ data.length) :
    reverseRows data height stride
      = some (rows data height (fun k => (height - 1 - k) * stride) stride) := by
  have hrange : (List.range height).reverse
      = (List.range height).map fun k => height - 1 - k := by
    rw [List.range_eq_range', List.reverse_range', List.range_eq_range', Nat.zero_add]
  have hstep : ∀ k < height, ∀ buf : List UInt8,
      buf = rows data k (fun k => (height - 1 - k) * stride) stride →
      ∃ buf', (do
          let r ← read? data ((height - 1 - k) * stride) stride
          return buf ++ r) = some buf' ∧
        buf' = rows data (k + 1) (fun k => (height - 1 - k) * stride) stride := by
    rintro k hk _ rfl
    have hend := rowEnd_le stride (show height - 1 - k < height by omega)
    refine ⟨_, ?_, (rows_succ data k _ stride).symm⟩
    rw [read?, if_pos (by omega)]
    rfl
  obtain ⟨buf, hbuf, rfl⟩ := foldlM_range_inv
    (fun n buf => buf = rows data n (fun k => (height - 1 - k) * stride) stride) height rfl hstep
  unfold reverseRows
  rw [hrange, List.foldlM_map]
  exact hbuf

theorem reverseRows_of_le (hlen : stride * height ≤ data.length) :
    ∃ out, reverseRows data height stride = some out ∧ out.length = stride * height ∧
      ∀ y < height, ∀ i < stride, out[y * stride + i]? = data[(height - 1 - y) * stride + i]? := by
  have hin : ∀ k < height, (height - 1 - k) * stride + stride ≤ data.length := by
    intro k hk
    have := rowEnd_le stride (show height - 1 - k < height by omega)
    omega
  refine ⟨_, reverseRows_eq data hlen, ?_, fun y hy i hi => getElem?_rows hin hy hi⟩
  rw [length_rows hin, Nat.mul_comm]

end Operations

end LamcoRdp
