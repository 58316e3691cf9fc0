/-
LamcoRdp/Server/PlanarEncoder.lean

The RDP6 planar encoder.

A bitmap is split into its four planes, every plane is replaced by the zig-zag
coded differences of its rows, and the rows of the R, G and B planes are
run-length coded one by one.  A scanline is cut into segments of raw bytes and a
run of the last of them; what a segment cannot hold is cut further, by two
functions that call each other.

The working buffers of the encoder live from one frame to the next and may be
longer than the frame needs, but a plane and its delta plane have the same
length; that is part of the type.  Reads and writes are checked, `none` stands for
the panic, byte arithmetic wraps.
-/
import LamcoRdp.Lib.Buffer
import LamcoRdp.Lib.RowMajor
import Mathlib.Logic.Function.Basic
import Mathlib.Data.Fin.VecNotation

namespace LamcoRdp

/-! ### Zig-zag deltas -/

/-- `zig_zag_encode`. -/
def zigZagEncode (delta : Int16) : UInt8 :=
  -- truncated to a signed byte; negating -128 wraps
  let s := delta.toInt8
  if 0 ≤ s then s.toUInt8 <<< 1 else (-s).toUInt8 * 2 - 1

/-- `cur as i16 - prev as i16`. -/
def rowDelta (cur prev : UInt8) : Int16 := cur.toUInt16.toInt16 - prev.toUInt16.toInt16

/-! ### Segments -/

mutual

/-- `encode_segment`: the bytes it adds to the output. -/
def encodeSegment (raw : List UInt8) (run : ℕ) : List UInt8 :=
  if raw = [] then []
  else if 15 < raw.length then
    -- one pass of the loop; what is left is not empty
    encodeSegment (raw.take 15) 0 ++ encodeSegment (raw.drop 15) run
  else
    (UInt8.ofNat raw.length <<< 4 ||| UInt8.ofNat (min run 15)) :: raw ++
      if 15 < run then encodeLongSequence (run - 15) (raw.getLastD 0) else []
termination_by (run, raw.length)
decreasing_by
  · rcases Nat.eq_zero_or_pos run with rfl | hrun
    · apply Prod.Lex.right
      rw [List.length_take]
      omega
    · exact Prod.Lex.left _ _ hrun
  · apply Prod.Lex.right
    rw [List.length_drop]
    omega
  · apply Prod.Lex.left
    omega

/-- `encode_long_sequence`: the bytes it adds to the output. -/
def encodeLongSequence (run : ℕ) (last : UInt8) : List UInt8 :=
  if 16 ≤ run then
    let current := min run 47
    let cRawBytes := min (current / 16) 2
    let nRunLength := current - cRawBytes * 16
    (UInt8.ofNat nRunLength <<< 4 ||| UInt8.ofNat cRawBytes) ::
      encodeLongSequence (run - current) last
  else if run = 0 then []
  else if run ≤ 3 then encodeSegment (List.replicate run last) 0
  else encodeSegment [last] (run - 1)
termination_by (run, 0)
decreasing_by
  all_goals
    apply Prod.Lex.left
    omega

end

/-! ### Scanlines -/

/-- The variables of the loop of `encode_rle_scanline`: the raw bytes kept back,
the byte last read with the number of its repeats, and the output. -/
structure Scan where
  /-- `raw` -/
  raw : List UInt8
  /-- `seq.0` -/
  last : UInt8
  /-- `seq.1` -/
  count : ℕ
  /-- what the scanline adds to `output` -/
  output : List UInt8

/-- What the loop does with a run that ends: long ones end a segment, short ones
become raw bytes. -/
def Scan.endRun (s : Scan) : Scan :=
  match s.count with
  | 0 => s
  | 1 => { s with raw := s.raw ++ [s.last] }
  | 2 => { s with raw := s.raw ++ [s.last, s.last] }
  | count => { s with output := s.output ++ encodeSegment s.raw count, raw := [] }

/-- One pass of the loop of `encode_rle_scanline`. -/
def Scan.next (s : Scan) (byte : UInt8) : Scan :=
  if byte = s.last then { s with count := s.count + 1 }
  else { s.endRun with raw := s.endRun.raw ++ [byte], last := byte, count := 0 }

/-- The code after the loop. -/
def Scan.finish (s : Scan) : List UInt8 :=
  if s.count < 3 then s.output ++ encodeSegment (s.raw ++ List.replicate s.count s.last) 0
  else s.output ++ encodeSegment s.raw s.count

/-- `encode_rle_scanline`: the bytes it adds to the output. -/
def encodeRleScanline (input : List UInt8) : List UInt8 :=
  match input with
  | [] => []
  | first :: iter => (iter.foldl Scan.next ⟨[first], first, 0, []⟩).finish

/-- `rle_compress_plane`. -/
def rleCompressPlane (plane : List UInt8) (width height : ℕ) : Option (List UInt8) :=
  (List.range height).foldlM (fun output y =>
    (Buffer.read? plane (y * width) width).map fun row => output ++ encodeRleScanline row) []

/-! ### The encoder -/

/-- `PlanarEncoder`: the planes A, R, G, B and their deltas. -/
structure PlanarEncoder where
  /-- `planes` -/
  planes : Fin 4 → List UInt8
  /-- `delta_planes` -/
  deltaPlanes : Fin 4 → List UInt8
  /-- a plane and its delta plane have one length -/
  sized : ∀ i, (deltaPlanes i).length = (planes i).length

namespace PlanarEncoder

/-- `PlanarEncoder::new`. -/
def new (width height : ℕ) : PlanarEncoder where
  planes := fun _ => List.replicate (width * height) 0
  deltaPlanes := fun _ => List.replicate (width * height) 0
  sized := fun _ => rfl

/-- The buffers after the loop that makes them large enough. -/
def ensure (e : PlanarEncoder) (planeSize : ℕ) : PlanarEncoder where
  planes := fun i =>
    if (e.planes i).length < planeSize then List.replicate planeSize 0 else e.planes i
  deltaPlanes := fun i =>
    if (e.planes i).length < planeSize then List.replicate planeSize 0 else e.deltaPlanes i
  sized := by
    intro i
    split
    · rfl
    · exact e.sized i

/-- `self.planes[i][k] = value i`, for the four planes. -/
def setPixel (e : PlanarEncoder) (k : ℕ) (value : Fin 4 → UInt8) : Option PlanarEncoder :=
  if ∀ i, k < (e.planes i).length then
    some
      { planes := fun i => (e.planes i).set k (value i)
        deltaPlanes := e.deltaPlanes
        sized := by
          intro i
          rw [List.length_set]
          exact e.sized i }
  else none

/-- Another content of the same length for one delta plane. -/
def putDelta (e : PlanarEncoder) (p : Fin 4) (l : List UInt8)
    (h : l.length = (e.deltaPlanes p).length) : PlanarEncoder where
  planes := e.planes
  deltaPlanes := Function.update e.deltaPlanes p l
  sized := by
    intro i
    rcases eq_or_ne i p with rfl | hi
    · rw [Function.update_self, h, e.sized]
    · rw [Function.update_of_ne hi, e.sized]

/-- `self.delta_planes[p][k] = v`. -/
def setDelta (e : PlanarEncoder) (p : Fin 4) (k : ℕ) (v : UInt8) : Option PlanarEncoder :=
  if k < (e.deltaPlanes p).length then
    some (e.putDelta p ((e.deltaPlanes p).set k v) List.length_set)
  else none

/-- `self.delta_planes[p][..width].copy_from_slice(&self.planes[p][..width])`. -/
def copyFirstRow (e : PlanarEncoder) (width : ℕ) (p : Fin 4) : Option PlanarEncoder :=
  match Buffer.read? (e.planes p) 0 width with
  | none => none
  | some row =>
      match h : Buffer.write? (e.deltaPlanes p) 0 row with
      | none => none
      | some l => some (e.putDelta p l (Buffer.length_of_write? h))

/-- Step 1 for the pixel in row `y` and column `x`. -/
def splitPixel (bgraData : List UInt8) (width scanline y : ℕ) (e : PlanarEncoder) (x : ℕ) :
    Option PlanarEncoder := do
  let off := y * scanline + x * 4
  let b ← bgraData[off]?
  let g ← bgraData[off + 1]?
  let r ← bgraData[off + 2]?
  let a ← bgraData[off + 3]?
  e.setPixel (y * width + x) ![a, r, g, b]

/-- Step 1: the bitmap split into planes. -/
def split (bgraData : List UInt8) (width height scanline : ℕ) (e : PlanarEncoder) :
    Option PlanarEncoder :=
  (List.range height).foldlM (fun e y =>
    (List.range width).foldlM (splitPixel bgraData width scanline y) e) e

/-- Step 2 for one byte. -/
def deltaPixel (width : ℕ) (p : Fin 4) (y : ℕ) (e : PlanarEncoder) (x : ℕ) :
    Option PlanarEncoder := do
  let cur ← (e.planes p)[y * width + x]?
  let prev ← (e.planes p)[(y - 1) * width + x]?
  e.setDelta p (y * width + x) (zigZagEncode (rowDelta cur prev))

/-- Step 2 for one plane; the rows are taken from the last to the second. -/
def deltaPlane (width height : ℕ) (e : PlanarEncoder) (p : Fin 4) : Option PlanarEncoder := do
  let e ← e.copyFirstRow width p
  (List.range' 1 (height - 1)).reverse.foldlM (fun e y =>
    (List.range width).foldlM (deltaPixel width p y) e) e

/-- `PlanarEncoder::encode`. -/
def encode (e : PlanarEncoder) (bgraData : List UInt8) (width height scanline : ℕ) :
    Option (PlanarEncoder × List UInt8) := do
  let scanline := if scanline = 0 then width * 4 else scanline
  let e := e.ensure (width * height)
  let e ← split bgraData width height scanline e
  let e ← (List.finRange 4).foldlM (deltaPlane width height) e
  let rleR ← rleCompressPlane (e.deltaPlanes 1) width height
  let rleG ← rleCompressPlane (e.deltaPlanes 2) width height
  let rleB ← rleCompressPlane (e.deltaPlanes 3) width height
  some (e, 0x30 :: rleR ++ rleG ++ rleB)

/-! ### What the loops leave in the planes

Every byte of a plane is written by one pass, with the byte it has to be, and no
pass writes another one over it. -/

/-- The four planes have the bytes `t` at position `k`. -/
def HasBytes (t : Fin 4 → ℕ → UInt8) (k : ℕ) (e : PlanarEncoder) : Prop :=
  ∀ i, (e.planes i)[k]? = some (t i k)

/-- The delta plane `p` has the byte `d p k` at position `k`. -/
def HasDelta (d : Fin 4 → ℕ → UInt8) (p : Fin 4) (k : ℕ) (e : PlanarEncoder) : Prop :=
  (e.deltaPlanes p)[k]? = some (d p k)

/-- The planes have room for a bitmap of `n` pixels. -/
def Fits (n : ℕ) (e : PlanarEncoder) : Prop := ∀ i, n ≤ (e.planes i).length

/-- The bytes that were right in the planes still are. -/
def KeepsBytes (t : Fin 4 → ℕ → UInt8) (e e' : PlanarEncoder) : Prop :=
  ∀ k, e.HasBytes t k → e'.HasBytes t k

/-- The bytes that were right in the delta planes still are. -/
def KeepsDeltas (d : Fin 4 → ℕ → UInt8) (e e' : PlanarEncoder) : Prop :=
  ∀ p k, e.HasDelta d p k → e'.HasDelta d p k

theorem ensure_fits (e : PlanarEncoder) (n : ℕ) : (e.ensure n).Fits n := by
  intro i
  show n ≤ (if (e.planes i).length < n then List.replicate n 0 else e.planes i).length
  split
  · rw [List.length_replicate]
  · next h => exact Nat.le_of_not_lt h

/-- Writing the byte that has to be there keeps every byte that is right. -/
theorem getElem?_set_right {l : List UInt8} {t : ℕ → UInt8} {k k' : ℕ}
    (h : l[k']? = some (t k')) : (l.set k (t k))[k']? = some (t k') := by
  rcases eq_or_ne k k' with rfl | hne
  · rw [List.getElem?_set_self (List.getElem?_eq_some_iff.mp h).1]
  · rw [List.getElem?_set_ne hne, h]

theorem setPixel_spec {e : PlanarEncoder} {n k : ℕ} (t : Fin 4 → ℕ → UInt8) (he : e.Fits n)
    (hk : k < n) : ∃ e', e.setPixel k (fun i => t i k) = some e' ∧ e'.Fits n ∧
      e'.HasBytes t k ∧ KeepsBytes t e e' := by
  have hlt : ∀ i, k < (e.planes i).length := fun i => Nat.lt_of_lt_of_le hk (he i)
  refine ⟨_, if_pos hlt, ?_, ?_, ?_⟩
  · intro i
    show n ≤ ((e.planes i).set k (t i k)).length
    rw [List.length_set]
    exact he i
  · intro i
    exact List.getElem?_set_self (hlt i)
  · intro k' h i
    exact getElem?_set_right (h i)

theorem setDelta_spec {e : PlanarEncoder} {k : ℕ} (d : Fin 4 → ℕ → UInt8) (p : Fin 4)
    (hk : k < (e.planes p).length) : ∃ e', e.setDelta p k (d p k) = some e' ∧
      e'.planes = e.planes ∧ e'.HasDelta d p k ∧ KeepsDeltas d e e' := by
  rw [← e.sized] at hk
  refine ⟨_, if_pos hk, rfl, ?_, ?_⟩
  · show (Function.update e.deltaPlanes p _ p)[k]? = some (d p k)
    rw [Function.update_self, List.getElem?_set_self hk]
  · intro p' k' h
    show (Function.update e.deltaPlanes p _ p')[k']? = some (d p' k')
    rcases eq_or_ne p' p with rfl | hp
    · rw [Function.update_self]
      exact getElem?_set_right h
    · rw [Function.update_of_ne hp]
      exact h

theorem copyFirstRow_spec {e : PlanarEncoder} {width : ℕ} {d : Fin 4 → ℕ → UInt8} {p : Fin 4}
    (hw : width ≤ (e.planes p).length) (hd : ∀ k < width, (e.planes p)[k]? = some (d p k)) :
    ∃ e', e.copyFirstRow width p = some e' ∧ e'.planes = e.planes ∧
      (∀ k < width, e'.HasDelta d p k) ∧ KeepsDeltas d e e' := by
  obtain ⟨row, hrow, hlen, hget⟩ := Buffer.read?_of_le (e.planes p) 0 width (by omega)
  have hsized := e.sized p
  obtain ⟨l, hl, -, hin, hout⟩ := Buffer.write?_of_le (e.deltaPlanes p) 0 row (by omega)
  -- the row is where the differences of the first row belong
  have hcopied : ∀ k < width, l[k]? = some (d p k) := by
    intro k hk
    have hl := hin k (by omega)
    rw [Nat.zero_add] at hl
    have hr := hget k hk
    rw [Nat.zero_add] at hr
    rw [hl, hr, hd k hk]
  refine ⟨e.putDelta p l (Buffer.length_of_write? hl), ?_, rfl, ?_, ?_⟩
  · unfold copyFirstRow
    rw [hrow]
    simp only
    split
    · next h =>
        rw [hl] at h
        cases h
    · next l' h =>
        obtain rfl := Option.some.inj (hl.symm.trans h)
        rfl
  · intro k hk
    show (Function.update e.deltaPlanes p l p)[k]? = some (d p k)
    rw [Function.update_self, hcopied k hk]
  · -- other positions are as they were
    intro p' k' h
    show (Function.update e.deltaPlanes p l p')[k']? = some (d p' k')
    rcases eq_or_ne p' p with rfl | hp
    · rw [Function.update_self]
      rcases Nat.lt_or_ge k' width with hk' | hk'
      · exact hcopied k' hk'
      · rw [hout k' (.inr (by omega))]
        exact h
    · rw [Function.update_of_ne hp]
      exact h

/-- A loop over passes that each write some bytes of the planes. -/
theorem foldlM_bytes {γ : Type*} {n : ℕ} {t : Fin 4 → ℕ → UInt8} (at_ : γ → ℕ → Prop)
    {f : PlanarEncoder → γ → Option PlanarEncoder} {l : List γ} {e : PlanarEncoder}
    (he : e.Fits n) (hstep : ∀ c ∈ l, ∀ e, e.Fits n → ∃ e', f e c = some e' ∧ e'.Fits n ∧
      (∀ k, at_ c k → e'.HasBytes t k) ∧ KeepsBytes t e e') :
    ∃ e', l.foldlM f e = some e' ∧ e'.Fits n ∧ (∀ c ∈ l, ∀ k, at_ c k → e'.HasBytes t k) ∧
      KeepsBytes t e e' :=
  Buffer.foldlM_establish (Fits n) (fun c e => ∀ k, at_ c k → e.HasBytes t k) (KeepsBytes t)
    (fun _ _ h => h) (fun h h' k hk => h' k (h k hk)) (fun h h' k hk => h k (h' k hk)) he hstep

/-- A loop over passes that each write some bytes of the delta planes. -/
theorem foldlM_deltas {γ : Type*} {planes : Fin 4 → List UInt8} {d : Fin 4 → ℕ → UInt8}
    (at_ : γ → Fin 4 → ℕ → Prop) {f : PlanarEncoder → γ → Option PlanarEncoder} {l : List γ}
    {e : PlanarEncoder} (he : e.planes = planes)
    (hstep : ∀ c ∈ l, ∀ e : PlanarEncoder, e.planes = planes → ∃ e', f e c = some e' ∧
      e'.planes = planes ∧ (∀ p k, at_ c p k → e'.HasDelta d p k) ∧ KeepsDeltas d e e') :
    ∃ e', l.foldlM f e = some e' ∧ e'.planes = planes ∧
      (∀ c ∈ l, ∀ p k, at_ c p k → e'.HasDelta d p k) ∧ KeepsDeltas d e e' :=
  Buffer.foldlM_establish (fun e : PlanarEncoder => e.planes = planes)
    (fun c e => ∀ p k, at_ c p k → e.HasDelta d p k) (KeepsDeltas d) (fun _ _ _ h => h)
    (fun h h' p k hk => h' p k (h p k hk)) (fun h h' p k hk => h p k (h' p k hk)) he hstep

end PlanarEncoder

/-! ### The planes of a bitmap -/

/-- The byte of plane `p` (A, R, G, B) for the `k`-th pixel of a bitmap whose rows
are `stride` bytes apart. -/
def planeByte (bgraData : List UInt8) (width stride : ℕ) (p : Fin 4) (k : ℕ) : UInt8 :=
  bgraData.getD (k / width * stride + k % width * 4 + (3 - p.val)) 0

/-- The byte of a delta plane, from the bytes of its plane. -/
def deltaByte (width : ℕ) (t : Fin 4 → ℕ → UInt8) (p : Fin 4) (k : ℕ) : UInt8 :=
  if k < width then t p k else zigZagEncode (rowDelta (t p k) (t p (k - width)))

section Loops

open PlanarEncoder

variable {bgraData : List UInt8} {width height stride : ℕ} {t : Fin 4 → ℕ → UInt8}
  {e : PlanarEncoder}

/-- The position of a pixel gives back its row and column. -/
theorem pixel_lt {x y : ℕ} (hx : x < width) (hy : y < height) :
    y * width + x < width * height := by
  rw [Nat.mul_comm width]
  exact RowMajor.index_lt hx hy

/-- Every position is that of a pixel. -/
theorem exists_pixel {k : ℕ} (hk : k < width * height) :
    ∃ y < height, ∃ x < width, k = y * width + x := by
  rw [Nat.mul_comm width] at hk
  exact RowMajor.exists_index hk

theorem splitPixel_spec {x y : ℕ} (hx : x < width) (hy : y < height)
    (he : e.Fits (width * height)) (hin : y * stride + x * 4 + 3 < bgraData.length) :
    ∃ e', splitPixel bgraData width stride y e x = some e' ∧ e'.Fits (width * height) ∧
      e'.HasBytes (planeByte bgraData width stride) (y * width + x) ∧
      KeepsBytes (planeByte bgraData width stride) e e' := by
  -- the four bytes of the pixel are in the data
  have hread : ∀ j ≤ 3, bgraData[y * stride + x * 4 + j]? =
      some (bgraData.getD (y * stride + x * 4 + j) 0) := by
    intro j hj
    have hlt : y * stride + x * 4 + j < bgraData.length := by omega
    rw [List.getElem?_eq_getElem hlt, List.getD_eq_getElem _ _ hlt]
  -- and go to the planes in the order A, R, G, B
  have hvalue : ![bgraData.getD (y * stride + x * 4 + 3) 0,
      bgraData.getD (y * stride + x * 4 + 2) 0, bgraData.getD (y * stride + x * 4 + 1) 0,
      bgraData.getD (y * stride + x * 4) 0] =
      fun i => planeByte bgraData width stride i (y * width + x) := by
    funext i
    rw [planeByte, RowMajor.div_index hx, Nat.mul_add_mod_of_lt hx]
    match i with
    | 0 => rfl
    | 1 => rfl
    | 2 => rfl
    | 3 => rfl
  have hb := hread 0 (by omega)
  rw [Nat.add_zero] at hb
  unfold splitPixel
  simp only [hb, hread 1 (by omega), hread 2 (by omega), hread 3 (by omega), bind, Option.bind]
  rw [hvalue]
  exact setPixel_spec _ he (pixel_lt hx hy)

/-- Step 1 fills the planes. -/
theorem split_spec (he : e.Fits (width * height))
    (hin : ∀ y < height, ∀ x < width, y * stride + x * 4 + 3 < bgraData.length) :
    ∃ e', split bgraData width height stride e = some e' ∧ e'.Fits (width * height) ∧
      ∀ k < width * height, e'.HasBytes (planeByte bgraData width stride) k := by
  have hrows := foldlM_bytes (l := List.range height) (t := planeByte bgraData width stride)
    (f := fun e y => (List.range width).foldlM (splitPixel bgraData width stride y) e)
    (fun y k => ∃ x < width, k = y * width + x) he ?_
  · obtain ⟨e', he', hfits, hbytes, -⟩ := hrows
    refine ⟨e', he', hfits, fun k hk => ?_⟩
    obtain ⟨y, hy, hpixel⟩ := exists_pixel hk
    exact hbytes y (List.mem_range.mpr hy) k hpixel
  · intro y hy e he
    have hrow := foldlM_bytes (l := List.range width) (t := planeByte bgraData width stride)
      (f := splitPixel bgraData width stride y) (fun x k => k = y * width + x) he ?_
    · obtain ⟨e', he', hfits, hbytes, hkeep⟩ := hrow
      refine ⟨e', he', hfits, ?_, hkeep⟩
      rintro k ⟨x, hx, rfl⟩
      exact hbytes x (List.mem_range.mpr hx) _ rfl
    · intro x hx e he
      rw [List.mem_range] at hx hy
      obtain ⟨e', he', hfits, hbytes, hkeep⟩ := splitPixel_spec hx hy he (hin y hy x hx)
      exact ⟨e', he', hfits, fun k hk => hk ▸ hbytes, hkeep⟩

theorem deltaPixel_spec (he : e.Fits (width * height))
    (ht : ∀ k < width * height, e.HasBytes t k) (p : Fin 4) {x y : ℕ} (hx : x < width)
    (hy : y < height) (hpos : 0 < y) :
    ∃ e', deltaPixel width p y e x = some e' ∧ e'.planes = e.planes ∧
      e'.HasDelta (deltaByte width t) p (y * width + x) ∧
      KeepsDeltas (deltaByte width t) e e' := by
  have hk := pixel_lt hx hy
  have hmul := Nat.mul_le_mul_right width hpos
  have habove : (y - 1) * width + x = y * width + x - width := by
    rw [Nat.sub_mul, Nat.one_mul]
    omega
  have hcur := ht _ hk p
  have hprev := ht (y * width + x - width) (by omega) p
  have hbyte : zigZagEncode (rowDelta (t p (y * width + x)) (t p (y * width + x - width))) =
      deltaByte width t p (y * width + x) := by
    rw [deltaByte, if_neg (by omega)]
  unfold deltaPixel
  rw [habove]
  simp only [hcur, hprev, bind, Option.bind]
  rw [hbyte]
  exact setDelta_spec (deltaByte width t) p (Nat.lt_of_lt_of_le hk (he p))

/-- Step 2 for one plane. -/
theorem deltaPlane_spec (hh : 0 < height) (he : e.Fits (width * height))
    (ht : ∀ k < width * height, e.HasBytes t k) (p : Fin 4) :
    ∃ e', deltaPlane width height e p = some e' ∧ e'.planes = e.planes ∧
      (∀ k < width * height, e'.HasDelta (deltaByte width t) p k) ∧
      KeepsDeltas (deltaByte width t) e e' := by
  have hwidth : width ≤ width * height := Nat.le_mul_of_pos_right width hh
  have hfirstRow : ∀ k < width, (e.planes p)[k]? = some (deltaByte width t p k) := by
    intro k hk
    rw [deltaByte, if_pos hk]
    exact ht k (by omega) p
  obtain ⟨e₁, he₁, hplanes₁, hfirst, hkeep₁⟩ :=
    copyFirstRow_spec (Nat.le_trans hwidth (he p)) hfirstRow
  -- the rows from the last to the second, each from the row above, still unchanged
  have hrows := foldlM_deltas (d := deltaByte width t) (l := (List.range' 1 (height - 1)).reverse)
    (f := fun e y => (List.range width).foldlM (deltaPixel width p y) e)
    (fun y p' k => p' = p ∧ ∃ x < width, k = y * width + x) hplanes₁ ?_
  · obtain ⟨e₂, he₂, hplanes₂, hset, hkeep₂⟩ := hrows
    refine ⟨e₂, ?_, hplanes₂, ?_, fun p' k h => hkeep₂ p' k (hkeep₁ p' k h)⟩
    · unfold deltaPlane
      rw [he₁]
      exact he₂
    · intro k hk
      obtain ⟨y, hy, x, hx, rfl⟩ := exists_pixel hk
      -- the first row was copied, the others were set by the loop
      rcases Nat.eq_zero_or_pos y with rfl | hpos
      · rw [Nat.zero_mul, Nat.zero_add]
        exact hkeep₂ p x (hfirst x hx)
      · refine hset y ?_ p _ ⟨rfl, x, hx, rfl⟩
        rw [List.mem_reverse, List.mem_range'_1]
        omega
  · -- one row
    intro y hy e' he'
    have hrow := foldlM_deltas (d := deltaByte width t) (l := List.range width)
      (f := deltaPixel width p y) (fun x p' k => p' = p ∧ k = y * width + x) he' ?_
    · obtain ⟨e₂, he₂, hplanes₂, hset, hkeep₂⟩ := hrow
      refine ⟨e₂, he₂, hplanes₂, ?_, hkeep₂⟩
      rintro p' k ⟨rfl, x, hx, rfl⟩
      exact hset x (List.mem_range.mpr hx) p' _ ⟨rfl, rfl⟩
    · -- one pixel of it: the planes are those from the start
      intro x hx e'' he''
      rw [List.mem_range] at hx
      rw [List.mem_reverse, List.mem_range'_1] at hy
      have hfits : e''.Fits (width * height) := by
        intro i
        rw [he'']
        exact he i
      have hbytes : ∀ k < width * height, e''.HasBytes t k := by
        intro k hk i
        rw [he'']
        exact ht k hk i
      obtain ⟨e₂, he₂, hplanes₂, hset, hkeep₂⟩ :=
        deltaPixel_spec (y := y) hfits hbytes p hx (by omega) (by omega)
      refine ⟨e₂, he₂, hplanes₂.trans he'', ?_, hkeep₂⟩
      rintro p' k ⟨rfl, rfl⟩
      exact hset

/-- Step 2 for the four planes. -/
theorem deltaPlanes_spec (hh : 0 < height) (he : e.Fits (width * height))
    (ht : ∀ k < width * height, e.HasBytes t k) :
    ∃ e', (List.finRange 4).foldlM (deltaPlane width height) e = some e' ∧
      e'.Fits (width * height) ∧ ∀ p, ∀ k < width * height, e'.HasDelta (deltaByte width t) p k := by
  have hplanes := foldlM_deltas (d := deltaByte width t) (l := List.finRange 4)
    (f := deltaPlane width height) (fun p p' k => p' = p ∧ k < width * height)
    (rfl : e.planes = e.planes) ?_
  · obtain ⟨e', he', hsame, hset, -⟩ := hplanes
    refine ⟨e', he', ?_, fun p k hk => hset p (List.mem_finRange p) p k ⟨rfl, hk⟩⟩
    intro i
    rw [hsame]
    exact he i
  · intro p _ e' he'
    have hfits : e'.Fits (width * height) := by
      intro i
      rw [he']
      exact he i
    have hbytes : ∀ k < width * height, e'.HasBytes t k := by
      intro k hk i
      rw [he']
      exact ht k hk i
    obtain ⟨e₂, he₂, hplanes₂, hset, hkeep₂⟩ := deltaPlane_spec hh hfits hbytes p
    refine ⟨e₂, he₂, hplanes₂.trans he', ?_, hkeep₂⟩
    rintro p' k ⟨rfl, hk⟩
    exact hset k hk

/-- Row `y` of a plane whose bytes are `d`. -/
def planeRow (width : ℕ) (d : ℕ → UInt8) (y : ℕ) : List UInt8 :=
  (List.range width).map fun x => d (y * width + x)

/-- A row sliced out of a plane. -/
theorem read?_planeRow {plane : List UInt8} {d : ℕ → UInt8} {y : ℕ} (hy : y < height)
    (hlen : width * height ≤ plane.length)
    (hplane : ∀ k < width * height, plane[k]? = some (d k)) :
    Buffer.read? plane (y * width) width = some (planeRow width d y) := by
  have hend := RowMajor.rowEnd_le width hy
  rw [Nat.mul_comm height] at hend
  obtain ⟨row, hrow, hrowlen, hget⟩ := Buffer.read?_of_le plane (y * width) width (by omega)
  rw [hrow]
  congr 1
  apply List.ext_getElem?
  intro x
  rw [planeRow, List.getElem?_map]
  rcases Nat.lt_or_ge x width with hx | hx
  · rw [hget x hx, hplane _ (pixel_lt hx hy), List.getElem?_range hx]
    rfl
  · rw [List.getElem?_eq_none (by omega), List.getElem?_eq_none (by rw [List.length_range]; exact hx)]
    rfl

/-- Step 3 for one plane: its rows, coded one after the other. -/
theorem rleCompressPlane_spec {plane : List UInt8} {d : ℕ → UInt8}
    (hlen : width * height ≤ plane.length)
    (hplane : ∀ k < width * height, plane[k]? = some (d k)) :
    rleCompressPlane plane width height =
      some ((List.range height).flatMap fun y => encodeRleScanline (planeRow width d y)) := by
  have hloop := Buffer.foldlM_range_inv (b := [])
    (fun n output => output =
      (List.range n).flatMap fun y => encodeRleScanline (planeRow width d y))
    (f := fun output y => (Buffer.read? plane (y * width) width).map fun row =>
      output ++ encodeRleScanline row) height rfl ?_
  · obtain ⟨output, houtput, rfl⟩ := hloop
    exact houtput
  · rintro y hy output rfl
    rw [read?_planeRow hy hlen hplane]
    refine ⟨_, rfl, ?_⟩
    rw [List.range_succ, List.flatMap_append, List.flatMap_singleton]

/-- `encode` on a bitmap that is as long as its rows need: the header, and the
coded delta planes R, G, B. -/
theorem encode_spec {scanline : ℕ} (hh : 0 < height)
    (hstride : stride = if scanline = 0 then width * 4 else scanline)
    (hin : ∀ y < height, ∀ x < width, y * stride + x * 4 + 3 < bgraData.length) :
    ∃ e', e.encode bgraData width height scanline = some (e', 0x30 ::
      [1, 2, 3].flatMap fun p => (List.range height).flatMap fun y =>
        encodeRleScanline
          (planeRow width (deltaByte width (planeByte bgraData width stride) p) y)) := by
  subst hstride
  obtain ⟨e₁, he₁, hfits₁, hbytes⟩ := split_spec (ensure_fits e (width * height)) hin
  obtain ⟨e₂, he₂, hfits₂, hdeltas⟩ := deltaPlanes_spec hh hfits₁ hbytes
  have hplane : ∀ p : Fin 4, rleCompressPlane (e₂.deltaPlanes p) width height =
      some ((List.range height).flatMap fun y => encodeRleScanline (planeRow width
        (deltaByte width (planeByte bgraData width
          (if scanline = 0 then width * 4 else scanline)) p) y)) := by
    intro p
    apply rleCompressPlane_spec
    · rw [e₂.sized]
      exact hfits₂ p
    · exact hdeltas p
  refine ⟨e₂, ?_⟩
  simp only [encode, he₁, he₂, hplane, bind, Option.bind, List.flatMap_cons, List.flatMap_nil,
    List.append_nil, List.cons_append, List.append_assoc]

end Loops

end LamcoRdp
