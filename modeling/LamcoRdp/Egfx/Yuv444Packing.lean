/-
LamcoRdp/Egfx/Yuv444Packing.lean

Two 4:2:0 views of a 4:4:4 frame (`egfx/yuv444_packing.rs`).

The main view has the luma and the averaged chroma.  The auxiliary view has the
chroma that the averages lose: the odd rows of U and V as luma rows, eight of either
in every sixteen, and the odd columns of the even rows as chroma.

Auxiliary row `r` holds row `sourceRow r` of U or of V, as the two counters of the
loop say (`OddRows`).  The sixteen rows of a group come from the same sixteen rows of
the frame, so a frame whose height is a multiple of sixteen keeps everything.  Of any
other frame the last group is incomplete: its V rows begin with the ninth auxiliary
row, and the final truncation to the height of the frame takes some of them away
(`pack_dual_views_keeps_chroma_iff`).
-/
import Mathlib.Algebra.Order.Group.Int
import Mathlib.Algebra.Order.Group.Abs
import LamcoRdp.Egfx.ChromaSubsample
import LamcoRdp.Lib.Buffer

namespace LamcoRdp

open Buffer

/-! ### Frames -/

/-- A 4:2:0 frame. -/
structure Yuv420Frame where
  y : List UInt8
  u : List UInt8
  v : List UInt8
  width : ℕ
  height : ℕ
  deriving DecidableEq, Repr

/-- `validate_for_encoding`. -/
def Yuv420Frame.validateForEncoding (frame : Yuv420Frame) : Except String Unit :=
  let width := frame.width
  let height := frame.height
  let expectedY := width * height
  let expectedUv := (width / 2) * (height / 2)
  let yLen := frame.y.length
  let uLen := frame.u.length
  let vLen := frame.v.length
  if width % 2 ≠ 0 then .error s!"Width {width} must be even for YUV420"
  else if height % 2 ≠ 0 then .error s!"Height {height} must be even for YUV420"
  else if yLen ≠ expectedY then
    .error s!"Y plane size {yLen} doesn't match expected {expectedY}"
  else if uLen ≠ expectedUv then
    .error s!"U plane size {uLen} doesn't match expected {expectedUv}"
  else if vLen ≠ expectedUv then
    .error s!"V plane size {vLen} doesn't match expected {expectedUv}"
  else .ok ()

/-- `validate_dimensions`. -/
def validateDimensions (width height : ℕ) : Bool :=
  width % 2 = 0 && height % 2 = 0 && width > 0 && height > 0

/-! ### Packing -/

/-- `pack_main_view`. -/
def packMainView (target : SimdTarget) (yuv444 : Yuv444Frame) : Option Yuv420Frame := do
  let width := yuv444.width
  let height := yuv444.height
  let u ← subsampleChroma420 target yuv444.u width height
  let v ← subsampleChroma420 target yuv444.v width height
  some { y := yuv444.y, u, v, width, height }

/-- The state of the loop over auxiliary rows. -/
structure OddRowLoop where
  auxY : List UInt8
  uRowCounter : ℕ
  vRowCounter : ℕ

/-- Copy an entire row into the auxiliary luma; rows beyond the frame stay neutral. -/
def copyRow (plane : List UInt8) (width height sourceRow auxRow : ℕ) (auxY : List UInt8) :
    Option (List UInt8) :=
  if sourceRow ≥ height then some auxY
  else do
    let auxStart := auxRow * width
    let srcStart := sourceRow * width
    let row ← read? plane srcStart width
    write? auxY auxStart row

/-- One pass of the loop over auxiliary rows. -/
def packOddRow (yuv444 : Yuv444Frame) (s : OddRowLoop) (auxRow : ℕ) : Option OddRowLoop := do
  let macroblockRow := auxRow % 16
  if macroblockRow < 8 then
    let sourceRow := 2 * s.uRowCounter + 1
    let auxY ← copyRow yuv444.u yuv444.width yuv444.height sourceRow auxRow s.auxY
    some { s with auxY, uRowCounter := s.uRowCounter + 1 }
  else
    let sourceRow := 2 * s.vRowCounter + 1
    let auxY ← copyRow yuv444.v yuv444.width yuv444.height sourceRow auxRow s.auxY
    some { s with auxY, vRowCounter := s.vRowCounter + 1 }

/-- The loop over the odd columns of the even rows, for one of its two planes. -/
def packOddColumns (plane : List UInt8) (width height : ℕ) : Option (List UInt8) :=
  let chromaWidth := width / 2
  let chromaHeight := height / 2
  (List.range chromaHeight).foldlM (fun out cy =>
    let y := cy * 2
    (List.range chromaWidth).foldlM (fun out cx => do
      let x := cx * 2 + 1
      let idx := y * width + x
      let outIdx := cy * chromaWidth + cx
      let sample ← plane[idx]?
      write? out outIdx [sample]) out)
    (List.replicate (chromaWidth * chromaHeight) 128)

/-- `pack_auxiliary_view_spec_compliant`. -/
def packAuxiliaryViewSpecCompliant (yuv444 : Yuv444Frame) : Option Yuv420Frame := do
  let width := yuv444.width
  let height := yuv444.height
  let paddedHeight := (height + 15) / 16 * 16
  let auxY := List.replicate (paddedHeight * width) 128
  let rows ← (List.range paddedHeight).foldlM (packOddRow yuv444) ⟨auxY, 0, 0⟩
  let auxU ← packOddColumns yuv444.u width height
  let auxV ← packOddColumns yuv444.v width height
  -- `truncate` takes the rows that pad the last group, and the rows of V behind them
  some { y := rows.auxY.take (height * width), u := auxU, v := auxV, width, height }

/-- `pack_auxiliary_view`. -/
def packAuxiliaryView (yuv444 : Yuv444Frame) : Option Yuv420Frame :=
  packAuxiliaryViewSpecCompliant yuv444

/-- `pack_dual_views`; `none` is a panic. -/
def packDualViews (target : SimdTarget) (yuv444 : Yuv444Frame) :
    Option (Yuv420Frame × Yuv420Frame) := do
  let mainView ← packMainView target yuv444
  let auxView ← packAuxiliaryView yuv444
  some (mainView, auxView)

/-! ### The rows of the auxiliary luma -/

/-- The row of the frame in auxiliary row `r`. -/
def sourceRow (r : ℕ) : ℕ := 16 * (r / 16) + 2 * (r % 8) + 1

/-- The plane in auxiliary row `r`. -/
def sourcePlane (yuv444 : Yuv444Frame) (r : ℕ) : List UInt8 :=
  if r % 16 < 8 then yuv444.u else yuv444.v

/-- What is asked of a frame: even dimensions, and planes of that size. -/
structure Yuv444Frame.Proper (f : Yuv444Frame) : Prop where
  dims : validateDimensions f.width f.height = true
  y : f.y.length = f.width * f.height
  u : f.u.length = f.width * f.height
  v : f.v.length = f.width * f.height

/-- The loop after `m` auxiliary rows. -/
structure OddRows (f : Yuv444Frame) (paddedHeight m : ℕ) (s : OddRowLoop) : Prop where
  length : s.auxY.length = paddedHeight * f.width
  uRowCounter : s.uRowCounter = 8 * (m / 16) + min (m % 16) 8
  vRowCounter : s.vRowCounter = 8 * (m / 16) + (m % 16 - 8)
  rows : ∀ r < m, sourceRow r < f.height → ∀ x < f.width,
    s.auxY[r * f.width + x]? = (sourcePlane f r)[sourceRow r * f.width + x]?

section Rows

variable {f : Yuv444Frame} {paddedHeight m : ℕ} {s : OddRowLoop}

theorem Yuv444Frame.Proper.length_sourcePlane (hf : f.Proper) (r : ℕ) :
    (sourcePlane f r).length = f.width * f.height := by
  unfold sourcePlane
  split
  · exact hf.u
  · exact hf.v

/-- A row is copied to its place, or is beyond the frame. -/
theorem copyRow_of_length {plane auxY : List UInt8} {width h s auxRow : ℕ}
    (hplane : plane.length = width * h) (haux : auxRow * width + width ≤ auxY.length) :
    ∃ out, copyRow plane width h s auxRow auxY = some out ∧
      out.length = auxY.length ∧ (∀ j < auxRow * width, out[j]? = auxY[j]?) ∧
      (s < h → ∀ x < width, out[auxRow * width + x]? = plane[s * width + x]?) := by
  unfold copyRow
  split
  · next hbeyond =>
      exact ⟨auxY, rfl, rfl, fun _ _ => rfl, fun h => absurd h (Nat.not_lt.mpr hbeyond)⟩
  · next hsource =>
      have hfits : s * width + width ≤ plane.length := by
        have hend := RowMajor.rowEnd_le width (Nat.not_le.mp hsource)
        rwa [Nat.mul_comm h, ← hplane] at hend
      obtain ⟨row, hrow, hlength, hread⟩ := read?_of_le plane (s * width) width hfits
      obtain ⟨out, hout, houtLength, hwritten, hkept⟩ :=
        write?_of_le auxY (auxRow * width) row (by rwa [hlength])
      refine ⟨out, ?_, houtLength, fun j hj => hkept j (.inl hj), fun _ x hx => ?_⟩
      · dsimp only
        rw [hrow]
        exact hout
      · rw [hwritten x (hlength ▸ hx), hread x hx]

/-- One auxiliary row: the counter of its plane is at its row of the frame. -/
theorem OddRows.step (hf : f.Proper) (hm : m < paddedHeight) (hs : OddRows f paddedHeight m s) :
    ∃ t, packOddRow f s m = some t ∧ OddRows f paddedHeight (m + 1) t := by
  have haux : m * f.width + f.width ≤ s.auxY.length := by
    rw [hs.length]
    exact RowMajor.rowEnd_le _ hm
  obtain ⟨out, hout, hlength, hkept, hnew⟩ :=
    copyRow_of_length (s := sourceRow m) (h := f.height) (hf.length_sourcePlane m) haux
  have hrows : ∀ r < m + 1, sourceRow r < f.height → ∀ x < f.width,
      out[r * f.width + x]? = (sourcePlane f r)[sourceRow r * f.width + x]? := by
    intro r hr hsource x hx
    -- the rows before are kept, and row `m` is new
    rcases Nat.lt_succ_iff_lt_or_eq.mp hr with hr | rfl
    · rw [hkept _ (RowMajor.index_lt hx hr), hs.rows r hr hsource x hx]
    · exact hnew hsource x hx
  have hu := hs.uRowCounter
  have hv := hs.vRowCounter
  unfold packOddRow
  dsimp only
  by_cases hhalf : m % 16 < 8
  · have hsource : 2 * s.uRowCounter + 1 = sourceRow m := by
      unfold sourceRow
      omega
    have hplane : sourcePlane f m = f.u := if_pos hhalf
    rw [if_pos hhalf, hsource, ← hplane, hout]
    exact ⟨_, rfl, hlength.trans hs.length, by dsimp only; omega, by dsimp only; omega, hrows⟩
  · have hsource : 2 * s.vRowCounter + 1 = sourceRow m := by
      unfold sourceRow
      omega
    have hplane : sourcePlane f m = f.v := if_neg hhalf
    rw [if_neg hhalf, hsource, ← hplane, hout]
    exact ⟨_, rfl, hlength.trans hs.length, by dsimp only; omega, by dsimp only; omega, hrows⟩

/-- The whole loop. -/
theorem oddRows_loop (hf : f.Proper) (paddedHeight : ℕ) :
    ∃ s, (List.range paddedHeight).foldlM (packOddRow f)
        ⟨List.replicate (paddedHeight * f.width) 128, 0, 0⟩ = some s ∧
      OddRows f paddedHeight paddedHeight s := by
  refine foldlM_range_inv (OddRows f paddedHeight) paddedHeight
    ⟨List.length_replicate, rfl, rfl, fun r hr => absurd hr (Nat.not_lt_zero r)⟩ ?_
  exact fun m hm s hs => hs.step hf hm

end Rows

/-! ### The odd columns -/

section Columns

variable {plane : List UInt8} {width height : ℕ}

/-- The loop over odd columns after `k` samples. -/
structure OddColumns (plane : List UInt8) (width height k : ℕ) (out : List UInt8) : Prop where
  length : out.length = width / 2 * (height / 2)
  samples : ∀ j < k, out[j]? = plane[j / (width / 2) * 2 * width + (j % (width / 2) * 2 + 1)]?

theorem OddColumns.step (hplane : plane.length = width * height) {cy cx : ℕ}
    (hcy : cy < height / 2) (hcx : cx < width / 2) {out : List UInt8}
    (hout : OddColumns plane width height (cy * (width / 2) + cx) out) :
    ∃ out', (do
        let sample ← plane[cy * 2 * width + (cx * 2 + 1)]?
        write? out (cy * (width / 2) + cx) [sample]) = some out' ∧
      OddColumns plane width height (cy * (width / 2) + (cx + 1)) out' := by
  have hread : cy * 2 * width + (cx * 2 + 1) < plane.length := by
    rw [hplane, Nat.mul_comm width]
    exact RowMajor.index_lt (by omega) (by omega)
  have hwrite : cy * (width / 2) + cx + 1 ≤ out.length := by
    rw [hout.length, Nat.mul_comm (width / 2)]
    exact RowMajor.index_lt hcx hcy
  obtain ⟨out', hout', hlength, hwritten, hkept⟩ :=
    write?_of_le out (cy * (width / 2) + cx) [plane[cy * 2 * width + (cx * 2 + 1)]] hwrite
  refine ⟨out', ?_, hlength.trans hout.length, fun j hj => ?_⟩
  · rw [List.getElem?_eq_getElem hread]
    exact hout'
  · rcases Nat.lt_or_ge j (cy * (width / 2) + cx) with hbefore | hafter
    · rw [hkept j (.inl hbefore), hout.samples j hbefore]
    · -- the sample just written
      obtain rfl : j = cy * (width / 2) + cx := by omega
      rw [RowMajor.div_index hcx, Nat.mul_add_mod_of_lt hcx, List.getElem?_eq_getElem hread]
      exact hwritten 0 Nat.one_pos

/-- Both loops. -/
theorem oddColumns_loop (hplane : plane.length = width * height) :
    ∃ out, packOddColumns plane width height = some out ∧
      OddColumns plane width height (height / 2 * (width / 2)) out := by
  refine foldlM_range_inv (fun cy => OddColumns plane width height (cy * (width / 2)))
    (height / 2) ⟨List.length_replicate, fun j hj => ?_⟩ fun cy hcy out hout => ?_
  · rw [Nat.zero_mul] at hj
    exact absurd hj (Nat.not_lt_zero j)
  · rw [Nat.succ_mul]
    exact foldlM_range_inv (fun cx => OddColumns plane width height (cy * (width / 2) + cx))
      (width / 2) hout fun cx hcx out hout => hout.step hplane hcy hcx

end Columns

/-! ### What the views keep -/

/-- Four times the average less the other three samples of the block is the first, up to 2. -/
def WithinTwo (plane : List UInt8) (width : ℕ) (averages : List UInt8) (y x : ℕ) : Prop :=
  let sample := fun y x => ((plane.getD (y * width + x) 0).toNat : ℤ)
  ∃ average, averages[y / 2 * (width / 2) + x / 2]? = some average ∧
    |4 * (average.toNat : ℤ) - (sample y (x + 1) + sample (y + 1) x + sample (y + 1) (x + 1))
      - sample y x| ≤ 2

/-- From the two views all of the frame can be recovered: the luma, the odd rows and the odd
columns of the chroma exactly, and the rest from the averages, up to 2. -/
structure KeepsChroma (f : Yuv444Frame) (main aux : Yuv420Frame) : Prop where
  luma : main.y = f.y
  oddRowsU : ∀ y < f.height, y % 2 = 1 → ∀ x < f.width,
    aux.y[(16 * (y / 16) + y % 16 / 2) * f.width + x]? = f.u[y * f.width + x]?
  oddRowsV : ∀ y < f.height, y % 2 = 1 → ∀ x < f.width,
    aux.y[(16 * (y / 16) + 8 + y % 16 / 2) * f.width + x]? = f.v[y * f.width + x]?
  oddColumnsU : ∀ y < f.height, y % 2 = 0 → ∀ x < f.width, x % 2 = 1 →
    aux.u[y / 2 * (f.width / 2) + x / 2]? = f.u[y * f.width + x]?
  oddColumnsV : ∀ y < f.height, y % 2 = 0 → ∀ x < f.width, x % 2 = 1 →
    aux.v[y / 2 * (f.width / 2) + x / 2]? = f.v[y * f.width + x]?
  evenU : ∀ y < f.height, y % 2 = 0 → ∀ x < f.width, x % 2 = 0 → WithinTwo f.u f.width main.u y x
  evenV : ∀ y < f.height, y % 2 = 0 → ∀ x < f.width, x % 2 = 0 → WithinTwo f.v f.width main.v y x
  mainValid : main.validateForEncoding = .ok ()
  auxValid : aux.validateForEncoding = .ok ()

/-- What the auxiliary view holds. -/
structure AuxiliaryOf (f : Yuv444Frame) (aux : Yuv420Frame) : Prop where
  width : aux.width = f.width
  height : aux.height = f.height
  yLength : aux.y.length = f.height * f.width
  rows : ∀ r < f.height, sourceRow r < f.height → ∀ x < f.width,
    aux.y[r * f.width + x]? = (sourcePlane f r)[sourceRow r * f.width + x]?
  u : OddColumns f.u f.width f.height (f.height / 2 * (f.width / 2)) aux.u
  v : OddColumns f.v f.width f.height (f.height / 2 * (f.width / 2)) aux.v

section Views

variable {f : Yuv444Frame} {main aux : Yuv420Frame}

theorem Yuv444Frame.Proper.even (hf : f.Proper) :
    f.width % 2 = 0 ∧ f.height % 2 = 0 ∧ 0 < f.width ∧ 0 < f.height := by
  simpa [validateDimensions, and_assoc] using hf.dims

theorem packAuxiliaryView_spec (hf : f.Proper) :
    ∃ aux, packAuxiliaryView f = some aux ∧ AuxiliaryOf f aux := by
  obtain ⟨s, hs, hodd⟩ := oddRows_loop hf ((f.height + 15) / 16 * 16)
  obtain ⟨u, hu, hcolumnsU⟩ := oddColumns_loop hf.u
  obtain ⟨v, hv, hcolumnsV⟩ := oddColumns_loop hf.v
  have hpadded : f.height ≤ (f.height + 15) / 16 * 16 := by omega
  refine ⟨{ y := s.auxY.take (f.height * f.width), u, v, width := f.width, height := f.height },
    ?_, rfl, rfl, ?_, ?_, hcolumnsU, hcolumnsV⟩
  · unfold packAuxiliaryView packAuxiliaryViewSpecCompliant
    dsimp only
    rw [hs, hu, hv]
    rfl
  · refine List.length_take_of_le ?_
    rw [hodd.length]
    exact Nat.mul_le_mul_right _ hpadded
  · intro r hr hsource x hx
    rw [List.getElem?_take_of_lt (RowMajor.index_lt hx hr)]
    exact hodd.rows r (by omega) hsource x hx

/-- What the main view holds. -/
def averagedView (f : Yuv444Frame) : Yuv420Frame where
  y := f.y
  u := (List.range (f.height / 2 * (f.width / 2))).map (averageAt f.u f.width)
  v := (List.range (f.height / 2 * (f.width / 2))).map (averageAt f.v f.width)
  width := f.width
  height := f.height

theorem packMainView_eq (hf : f.Proper) (target : SimdTarget) :
    packMainView target f = some (averagedView f) := by
  obtain ⟨hwidth, hheight, -, -⟩ := hf.even
  unfold packMainView
  dsimp only
  rw [subsampleChroma420_eq target hwidth hheight hf.u,
    subsampleChroma420_eq target hwidth hheight hf.v]
  rfl

/-- A rounded average determines each of its samples up to 2, given the others. -/
theorem abs_boxAverage_sub_le (plane : List UInt8) (i j k l : ℕ) :
    |4 * ((boxAverage plane i j k l).toNat : ℤ) - ((plane.getD j 0).toNat
      + (plane.getD k 0).toNat + (plane.getD l 0).toNat) - (plane.getD i 0).toNat| ≤ 2 := by
  have hi := (plane.getD i 0).toNat_lt
  have hj := (plane.getD j 0).toNat_lt
  have hk := (plane.getD k 0).toNat_lt
  have hl := (plane.getD l 0).toNat_lt
  unfold boxAverage
  rw [UInt8.toNat_ofNat', Nat.mod_eq_of_lt (by omega), abs_le]
  omega

theorem withinTwo_averages (plane : List UInt8) {width height y x : ℕ} (hwidth : width % 2 = 0)
    (hheight : height % 2 = 0) (hy : y < height) (hy2 : y % 2 = 0) (hx : x < width)
    (hx2 : x % 2 = 0) : WithinTwo plane width
      ((List.range (height / 2 * (width / 2))).map (averageAt plane width)) y x := by
  refine ⟨_, getElem?_averages (y := y / 2) (x := x / 2) (by omega) (by omega), ?_⟩
  have hy' : 2 * (y / 2) = y := by omega
  have hx' : 2 * (x / 2) = x := by omega
  rw [hy', hx']
  exact abs_boxAverage_sub_le plane _ _ _ _

/-- The rows of V are all there exactly if the last group of sixteen is complete. -/
theorem AuxiliaryOf.oddRowsV_iff (hf : f.Proper) (haux : AuxiliaryOf f aux) :
    (∀ y < f.height, y % 2 = 1 → ∀ x < f.width,
      aux.y[(16 * (y / 16) + 8 + y % 16 / 2) * f.width + x]? = f.v[y * f.width + x]?) ↔
      f.height % 16 = 0 := by
  obtain ⟨hwidth, hheight, hpos, hpos'⟩ := hf.even
  constructor
  · intro hrows
    by_contra hpartial
    -- the last row of the frame belongs behind the end
    have hlast := hrows (f.height - 1) (by omega) (by omega) 0 hpos
    have hinside : (f.height - 1) * f.width + 0 < f.v.length := by
      rw [hf.v, Nat.mul_comm f.width]
      exact RowMajor.index_lt hpos (Nat.sub_one_lt_of_lt hpos')
    have htruncated : aux.y.length ≤
        (16 * ((f.height - 1) / 16) + 8 + (f.height - 1) % 16 / 2) * f.width + 0 := by
      rw [haux.yLength]
      exact Nat.mul_le_mul_right _ (by omega)
    rw [List.getElem?_eq_none htruncated, List.getElem?_eq_getElem hinside] at hlast
    cases hlast
  · intro hwhole y hy hodd x hx
    have hsource : sourceRow (16 * (y / 16) + 8 + y % 16 / 2) = y := by
      unfold sourceRow
      omega
    have hrow := haux.rows (16 * (y / 16) + 8 + y % 16 / 2) (by omega) (by omega) x hx
    rw [hsource] at hrow
    rw [hrow]
    unfold sourcePlane
    rw [if_neg (by omega)]

/-- The rows of U come first in their group, and are always there. -/
theorem AuxiliaryOf.oddRowsU (haux : AuxiliaryOf f aux) :
    ∀ y < f.height, y % 2 = 1 → ∀ x < f.width,
      aux.y[(16 * (y / 16) + y % 16 / 2) * f.width + x]? = f.u[y * f.width + x]? := by
  intro y hy hodd x hx
  have hsource : sourceRow (16 * (y / 16) + y % 16 / 2) = y := by
    unfold sourceRow
    omega
  have hrow := haux.rows (16 * (y / 16) + y % 16 / 2) (by omega) (by omega) x hx
  rw [hsource] at hrow
  rw [hrow]
  unfold sourcePlane
  rw [if_pos (by omega)]

/-- The odd columns of the even rows, of either plane. -/
theorem OddColumns.recovers {plane out : List UInt8} {width height : ℕ}
    (hout : OddColumns plane width height (height / 2 * (width / 2)) out)
    (hwidth : width % 2 = 0) (hheight : height % 2 = 0) :
    ∀ y < height, y % 2 = 0 → ∀ x < width, x % 2 = 1 →
      out[y / 2 * (width / 2) + x / 2]? = plane[y * width + x]? := by
  intro y hy heven x hx hodd
  have hcolumn : x / 2 < width / 2 := by omega
  have hrow : y / 2 < height / 2 := by omega
  have hy' : y / 2 * 2 = y := by omega
  have hx' : x / 2 * 2 + 1 = x := by omega
  rw [hout.samples _ (RowMajor.index_lt hcolumn hrow), RowMajor.div_index hcolumn,
    Nat.mul_add_mod_of_lt hcolumn, hy', hx']

/-- Planes of the right sizes are valid. -/
theorem Yuv420Frame.validateForEncoding_eq_ok {frame : Yuv420Frame}
    (hwidth : frame.width % 2 = 0) (hheight : frame.height % 2 = 0)
    (hy : frame.y.length = frame.width * frame.height)
    (hu : frame.u.length = frame.width / 2 * (frame.height / 2))
    (hv : frame.v.length = frame.width / 2 * (frame.height / 2)) :
    frame.validateForEncoding = .ok () := by
  simp [validateForEncoding, hwidth, hheight, hy, hu, hv]

theorem averagedView_valid (hf : f.Proper) : (averagedView f).validateForEncoding = .ok () := by
  obtain ⟨hwidth, hheight, -, -⟩ := hf.even
  have hlength : ∀ plane : List UInt8,
      ((List.range (f.height / 2 * (f.width / 2))).map (averageAt plane f.width)).length
        = f.width / 2 * (f.height / 2) := by
    intro plane
    rw [List.length_map, List.length_range, Nat.mul_comm]
  exact Yuv420Frame.validateForEncoding_eq_ok hwidth hheight hf.y (hlength f.u) (hlength f.v)

theorem AuxiliaryOf.valid (hf : f.Proper) (haux : AuxiliaryOf f aux) :
    aux.validateForEncoding = .ok () := by
  obtain ⟨hwidth, hheight, -, -⟩ := hf.even
  refine Yuv420Frame.validateForEncoding_eq_ok ?_ ?_ ?_ ?_ ?_
  · rw [haux.width, hwidth]
  · rw [haux.height, hheight]
  · rw [haux.yLength, haux.width, haux.height, Nat.mul_comm]
  · rw [haux.u.length, haux.width, haux.height]
  · rw [haux.v.length, haux.width, haux.height]

/-- Only the rows of V depend on the height. -/
theorem AuxiliaryOf.keepsChroma_iff (hf : f.Proper) (haux : AuxiliaryOf f aux) :
    KeepsChroma f (averagedView f) aux ↔ f.height % 16 = 0 := by
  obtain ⟨hwidth, hheight, -, -⟩ := hf.even
  refine ⟨fun hkeeps => (haux.oddRowsV_iff hf).mp hkeeps.oddRowsV, fun hwhole => ?_⟩
  exact {
    luma := rfl
    oddRowsU := haux.oddRowsU
    oddRowsV := (haux.oddRowsV_iff hf).mpr hwhole
    oddColumnsU := haux.u.recovers hwidth hheight
    oddColumnsV := haux.v.recovers hwidth hheight
    evenU := fun y hy hy2 x hx hx2 => withinTwo_averages f.u hwidth hheight hy hy2 hx hx2
    evenV := fun y hy hy2 x hx hx2 => withinTwo_averages f.v hwidth hheight hy hy2 hx hx2
    mainValid := averagedView_valid hf
    auxValid := haux.valid hf }

end Views

/-! ### The packing -/

/-- **Everything is kept exactly of the frames whose height is a multiple of sixteen.**  Of
any other frame rows of V are lost: the final truncation takes them for padding. -/
theorem pack_dual_views_keeps_chroma_iff {f : Yuv444Frame} (hf : f.Proper) (target : SimdTarget) :
    (∃ main aux, packDualViews target f = some (main, aux) ∧ KeepsChroma f main aux) ↔
      f.height % 16 = 0 := by
  obtain ⟨aux, haux, hspec⟩ := packAuxiliaryView_spec hf
  have hpack : packDualViews target f = some (averagedView f, aux) := by
    unfold packDualViews
    rw [packMainView_eq hf target, haux]
    rfl
  refine ⟨?_, fun hwhole => ⟨_, aux, hpack, (hspec.keepsChroma_iff hf).mpr hwhole⟩⟩
  rintro ⟨main', aux', hpack', hkeeps⟩
  rw [hpack] at hpack'
  obtain ⟨rfl, rfl⟩ := Prod.mk.inj (Option.some.inj hpack')
  exact (hspec.keepsChroma_iff hf).mp hkeeps

/-- One group of sixteen rows. -/
theorem pack_dual_views_keeps_sixteen_rows :
    ∃ main aux, packDualViews .scalar
        ⟨List.replicate 32 9, List.replicate 32 8, List.replicate 32 7, 2, 16⟩
          = some (main, aux) ∧
      KeepsChroma ⟨List.replicate 32 9, List.replicate 32 8, List.replicate 32 7, 2, 16⟩
        main aux :=
  (pack_dual_views_keeps_chroma_iff ⟨rfl, rfl, rfl, rfl⟩ .scalar).mpr rfl

/-- Two frames of two rows that differ in the second row of V, with the same views. -/
theorem pack_dual_views_loses_row :
    packDualViews .scalar ⟨[9, 9, 9, 9], [8, 8, 8, 8], [7, 7, 0, 4], 2, 2⟩
        = packDualViews .scalar ⟨[9, 9, 9, 9], [8, 8, 8, 8], [7, 7, 4, 0], 2, 2⟩ ∧
      ¬ ∃ main aux, packDualViews .scalar ⟨[9, 9, 9, 9], [8, 8, 8, 8], [7, 7, 0, 4], 2, 2⟩
          = some (main, aux) ∧
        KeepsChroma ⟨[9, 9, 9, 9], [8, 8, 8, 8], [7, 7, 0, 4], 2, 2⟩ main aux := by
  have hpack : packDualViews .scalar ⟨[9, 9, 9, 9], [8, 8, 8, 8], [7, 7, 0, 4], 2, 2⟩
      = some (⟨[9, 9, 9, 9], [8], [5], 2, 2⟩, ⟨[8, 8, 128, 128], [8], [7], 2, 2⟩) := rfl
  refine ⟨hpack.trans rfl, ?_⟩
  rintro ⟨main, aux, hpack', hkeeps⟩
  rw [hpack] at hpack'
  obtain ⟨-, rfl⟩ := Prod.mk.inj (Option.some.inj hpack')
  exact absurd (hkeeps.oddRowsV 1 (by decide) rfl 0 (by decide)) (by decide)

end LamcoRdp
