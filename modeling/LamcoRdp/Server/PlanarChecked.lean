/-
LamcoRdp/Server/PlanarChecked.lean

The planar encoder with its arithmetic and its reads checked.

`Server/PlanarEncoder.lean` computes as a release build does.  Here a sum or a product
that is no `usize`, a subtraction below zero, a byte that is too large, the negation of
-128 and an index out of range stop the encoder.

Cutting segments and run-length coding never fault.  Splitting a bitmap into planes
faults exactly if its last row is not in the buffer, since the address of a pixel in the
buffer is an exact `usize`.  The zig-zag code faults for one difference, -128, and the
differences are taken in all four planes, the unused alpha plane too:
`encodeChecked_ok_iff`.
-/
import LamcoRdp.Lib.Checked
import LamcoRdp.Lib.Signed16
import LamcoRdp.Server.PlanarRoundTrip

namespace LamcoRdp

open Checked

/-! ### Zig-zag deltas -/

/-- `-s`, for a signed byte. -/
def negateChecked (s : Int8) : Checked Int8 := if s = -128 then .error .overflow else .ok (-s)

/-- `zig_zag_encode`. -/
def zigZagEncodeChecked (delta : Int16) : Checked UInt8 :=
  let s := delta.toInt8
  if 0 ≤ s then .ok (s.toUInt8 <<< 1)
  else do
    let n ← negateChecked s
    let twice ← mul 8 n.toUInt8.toNat 2
    let value ← sub twice 1
    .ok (UInt8.ofNat value)

/-- `cur as i16 - prev as i16`. -/
def rowDeltaChecked (cur prev : UInt8) : Checked Int16 :=
  Signed16.Arith.sub cur.toUInt16.toInt16 prev.toUInt16.toInt16

/-- The bytes lie half the range of a byte apart. -/
def HalfApart (a b : UInt8) : Prop := a.toNat + 128 = b.toNat ∨ b.toNat + 128 = a.toNat

instance (a b : UInt8) : Decidable (HalfApart a b) := by
  unfold HalfApart
  infer_instance

/-- The checked code of a negative signed byte other than -128. -/
theorem negative_code {s : Int8} (hneg : ¬ 0 ≤ s) (hs : s ≠ -128) :
    (do let n ← negateChecked s
        let twice ← mul 8 n.toUInt8.toNat 2
        let value ← sub twice 1
        .ok (UInt8.ofNat value)) = (.ok ((-s).toUInt8 * 2 - 1) : Checked UInt8) := by
  have hall : ∀ b : Fin 256, ¬ 0 ≤ (UInt8.ofFin b).toInt8 → (UInt8.ofFin b).toInt8 ≠ -128 →
      (-(UInt8.ofFin b).toInt8).toUInt8.toNat * 2 < 2 ^ 8 ∧
      1 ≤ (-(UInt8.ofFin b).toInt8).toUInt8.toNat * 2 ∧
      UInt8.ofNat ((-(UInt8.ofFin b).toInt8).toUInt8.toNat * 2 - 1) =
        (-(UInt8.ofFin b).toInt8).toUInt8 * 2 - 1 := by
    decide +kernel
  have hcode : (-s).toUInt8.toNat * 2 < 2 ^ 8 ∧ 1 ≤ (-s).toUInt8.toNat * 2 ∧
      UInt8.ofNat ((-s).toUInt8.toNat * 2 - 1) = (-s).toUInt8 * 2 - 1 :=
    hall s.toUInt8.toFin hneg hs
  obtain ⟨hmul, hsub, hvalue⟩ := hcode
  rw [negateChecked, if_neg hs, ok_bind, mul_ok hmul, ok_bind, sub_ok hsub, ok_bind]
  exact congrArg Except.ok hvalue

/-- The zig-zag code faults for -128, and for nothing else. -/
theorem zigZagEncodeChecked_eq (delta : Int16) : zigZagEncodeChecked delta =
    if delta.toInt8 = -128 then .error .overflow else .ok (zigZagEncode delta) := by
  simp only [zigZagEncodeChecked, zigZagEncode]
  by_cases hneg : 0 ≤ delta.toInt8
  · have hs : delta.toInt8 ≠ -128 := by
      intro h
      rw [h] at hneg
      exact absurd hneg (by decide)
    rw [if_pos hneg, if_pos hneg, if_neg hs]
  · rw [if_neg hneg, if_neg hneg]
    by_cases hs : delta.toInt8 = -128
    · rw [if_pos hs, hs]
      rfl
    · rw [if_neg hs]
      exact negative_code hneg hs

/-- A difference of bytes is a 16-bit number. -/
theorem rowDeltaChecked_eq (cur prev : UInt8) :
    rowDeltaChecked cur prev = .ok (rowDelta cur prev) := by
  have hvalue : ∀ b : UInt8, b.toUInt16.toInt16.toInt = b.toNat := by
    intro b
    have hb := b.toNat_lt
    show (BitVec.setWidth 16 b.toBitVec).toInt = b.toNat
    rw [BitVec.toInt_eq_toNat_of_lt, BitVec.toNat_setWidth, UInt8.toNat_toBitVec,
      Nat.mod_eq_of_lt (by omega)]
    rw [BitVec.toNat_setWidth, UInt8.toNat_toBitVec, Nat.mod_eq_of_lt (by omega)]
    omega
  have hcur := cur.toNat_lt
  have hprev := prev.toNat_lt
  rw [rowDeltaChecked, Signed16.sub_eq_ok, hvalue, hvalue]
  refine ⟨by omega, ?_⟩
  rw [rowDelta, Int16.toInt_sub, hvalue, hvalue]
  exact Int.bmod_eq_of_le (by omega) (by omega)

/-- The difference that is -128, as a relation between the bytes. -/
theorem toInt8_rowDelta_eq_iff (cur prev : UInt8) :
    (rowDelta cur prev).toInt8 = -128 ↔ HalfApart cur prev := by
  have hcur := cur.toNat_lt
  have hprev := prev.toNat_lt
  have hsub : (cur - prev).toNat = (2 ^ 8 - prev.toNat + cur.toNat) % 2 ^ 8 := UInt8.toNat_sub ..
  have htoNat : (rowDelta cur prev).toInt8 = -128 ↔ (cur - prev).toNat = 128 := by
    rw [← toUInt8_rowDelta]
    constructor
    · intro h
      rw [h]
      rfl
    · intro h
      have hbyte : (rowDelta cur prev).toInt8.toUInt8 = 128 := UInt8.toNat_inj.mp h
      rw [← Int8.toInt8_toUInt8 (rowDelta cur prev).toInt8, hbyte]
      rfl
  rw [htoNat, hsub, HalfApart]
  omega

/-! ### Segments -/

mutual

/-- `encode_segment`.  A difference that is no error is the one `encodeSegment` takes. -/
def encodeSegmentChecked (raw : List UInt8) (run : ℕ) : Checked (List UInt8) :=
  if raw = [] then .ok []
  else if 15 < raw.length then do
    let _ ← inRange (Buffer.read? raw 0 15)
    let front ← encodeSegmentChecked (raw.take 15) 0
    let back ← encodeSegmentChecked (raw.drop 15) run
    .ok (front ++ back)
  else do
    let control := UInt8.ofNat raw.length <<< 4 ||| UInt8.ofNat (min run 15)
    if 15 < run then
      let last ← inRange raw.getLast?
      let _ ← sub run 15
      let long ← encodeLongSequenceChecked (run - 15) last
      .ok (control :: raw ++ long)
    else .ok (control :: raw ++ [])
termination_by (run, raw.length)
decreasing_by
  · rcases Nat.eq_zero_or_pos run with rfl | hrun
    · apply Prod.Lex.right
      rw [List.length_take]
      omega
    · exact Prod.Lex.left _ _ hrun
  · apply Prod.Lex.right
    rw [List.length_drop]
    omega
  · apply Prod.Lex.left
    omega

/-- `encode_long_sequence`. -/
def encodeLongSequenceChecked (run : ℕ) (last : UInt8) : Checked (List UInt8) :=
  if 16 ≤ run then do
    let current := min run 47
    let cRawBytes := min (current / 16) 2
    let held ← mul 64 cRawBytes 16
    let nRunLength ← sub current held
    let _ ← sub run current
    let rest ← encodeLongSequenceChecked (run - current) last
    .ok ((UInt8.ofNat nRunLength <<< 4 ||| UInt8.ofNat cRawBytes) :: rest)
  else if run = 0 then .ok []
  else if run ≤ 3 then encodeSegmentChecked (List.replicate run last) 0
  else do
    let _ ← sub run 1
    encodeSegmentChecked [last] (run - 1)
termination_by (run, 0)
decreasing_by
  all_goals
    apply Prod.Lex.left
    omega

end

/-- Cutting runs never faults. -/
theorem segmentChecked_all :
    (∀ raw run, encodeSegmentChecked raw run = .ok (encodeSegment raw run)) ∧
      ∀ run last, encodeLongSequenceChecked run last = .ok (encodeLongSequence run last) := by
  apply encodeSegment.mutual_induct
  · intro run
    rw [encodeSegmentChecked, encodeSegment, if_pos rfl, if_pos rfl]
  · -- a long raw part is cut into pieces of fifteen
    intro raw run hne hlong hfront hback
    have hread : Buffer.read? raw 0 15 = some (raw.take 15) := by
      rw [Buffer.read?, if_pos (by omega), List.drop_zero]
    rw [encodeSegmentChecked, encodeSegment, if_neg hne, if_neg hne, if_pos hlong, if_pos hlong,
      hread, inRange_some, ok_bind, hfront, ok_bind, hback, ok_bind]
  · -- a short one is followed by its run
    intro raw run hne hshort hmore
    rw [encodeSegmentChecked, encodeSegment, if_neg hne, if_neg hne, if_neg hshort, if_neg hshort]
    by_cases hrun : 15 < run
    · have hlast : raw.getLast? = some (raw.getLastD 0) := by
        rw [List.getLastD_eq_getLast?, List.getLast?_eq_some_getLast hne]
        rfl
      dsimp only
      rw [if_pos hrun, if_pos hrun, hlast, inRange_some, ok_bind, sub_ok (by omega), ok_bind,
        hmore hrun, ok_bind]
    · dsimp only
      rw [if_neg hrun, if_neg hrun]
  · -- a long run takes at most 47 of it at a time
    intro run last hge current hrest
    have hheld : min (min run 47 / 16) 2 * 16 < 2 ^ 64 := by omega
    rw [encodeLongSequenceChecked, encodeLongSequence, if_pos hge, if_pos hge]
    dsimp only
    rw [mul_ok hheld, ok_bind, sub_ok (by omega), ok_bind, sub_ok (by omega), ok_bind, hrest,
      ok_bind]
  · intro last _
    rw [encodeLongSequenceChecked, if_neg (by decide), if_pos rfl, encodeLongSequence,
      if_neg (by decide), if_pos rfl]
  · -- a rest of at most three bytes goes out raw
    intro run last hlt hne hfew hseg
    rw [encodeLongSequenceChecked, encodeLongSequence, if_neg hlt, if_neg hlt, if_neg hne,
      if_neg hne, if_pos hfew, if_pos hfew, hseg]
  · -- any other rest is a run of its own
    intro run last hlt hne hmany hseg
    rw [encodeLongSequenceChecked, encodeLongSequence, if_neg hlt, if_neg hlt, if_neg hne,
      if_neg hne, if_neg hmany, if_neg hmany, sub_ok (by omega), ok_bind, hseg]

/-- A segment is at most twice as long as what it codes. -/
theorem segment_length_all :
    (∀ raw run, (encodeSegment raw run).length ≤ 2 * (raw.length + run)) ∧
      ∀ run last, (encodeLongSequence run last).length ≤ 2 * run := by
  apply encodeSegment.mutual_induct
  · intro run
    rw [encodeSegment, if_pos rfl]
    exact Nat.zero_le _
  · -- each part by its share: a segment of raw bytes and run no longer than twice their number
    intro raw run hne hlong hfront hback
    rw [List.length_take] at hfront
    rw [List.length_drop] at hback
    rw [encodeSegment, if_neg hne, if_pos hlong, List.length_append]
    omega
  · intro raw run hne hshort hmore
    have hpos : 0 < raw.length := List.length_pos_iff.mpr hne
    rw [encodeSegment, if_neg hne, if_neg hshort]
    split
    · next hrun =>
        have hlong := hmore hrun
        rw [List.length_append, List.length_cons]
        omega
    · rw [List.append_nil, List.length_cons]
      omega
  · -- a control byte stands for a run of at least sixteen
    intro run last hge current hrest
    have hcurrent : current = min run 47 := rfl
    rw [hcurrent] at hrest
    rw [encodeLongSequence, if_pos hge, List.length_cons]
    omega
  · intro last _
    rw [encodeLongSequence, if_neg (by decide), if_pos rfl]
    exact Nat.zero_le _
  · intro run last hlt hne hfew hseg
    rw [List.length_replicate] at hseg
    rw [encodeLongSequence, if_neg hlt, if_neg hne, if_pos hfew]
    exact hseg
  · intro run last hlt hne hmany hseg
    rw [List.length_singleton] at hseg
    rw [encodeLongSequence, if_neg hlt, if_neg hne, if_neg hmany]
    omega

/-! ### Scanlines -/

namespace Scan

variable {s : Scan}

/-- What the loop does with a run that ends. -/
def endRunChecked (s : Scan) : Checked Scan :=
  match s.count with
  | 0 => .ok s
  | 1 => .ok { s with raw := s.raw ++ [s.last] }
  | 2 => .ok { s with raw := s.raw ++ [s.last, s.last] }
  | count => do
      let segment ← encodeSegmentChecked s.raw count
      .ok { s with output := s.output ++ segment, raw := [] }

/-- One pass of the loop of `encode_rle_scanline`. -/
def nextChecked (s : Scan) (byte : UInt8) : Checked Scan :=
  if byte = s.last then do
    let count ← add 64 s.count 1
    .ok { s with count := count }
  else do
    let ended ← s.endRunChecked
    .ok { ended with raw := ended.raw ++ [byte], last := byte, count := 0 }

/-- The code after the loop. -/
def finishChecked (s : Scan) : Checked (List UInt8) :=
  if s.count < 3 then do
    let segment ← encodeSegmentChecked (s.raw ++ List.replicate s.count s.last) 0
    .ok (s.output ++ segment)
  else do
    let segment ← encodeSegmentChecked s.raw s.count
    .ok (s.output ++ segment)

theorem endRunChecked_eq (s : Scan) : s.endRunChecked = .ok s.endRun := by
  obtain ⟨raw, last, count, output⟩ := s
  match count with
  | 0 => rfl
  | 1 => rfl
  | 2 => rfl
  | count + 3 =>
      show (encodeSegmentChecked raw (count + 3) >>= _) = _
      rw [segmentChecked_all.1, ok_bind]
      rfl

theorem finishChecked_eq (s : Scan) : s.finishChecked = .ok s.finish := by
  unfold finishChecked finish
  split
  · rw [segmentChecked_all.1, ok_bind]
  · rw [segmentChecked_all.1, ok_bind]

theorem nextChecked_eq (byte : UInt8) (h : s.count + 1 < 2 ^ 64) :
    s.nextChecked byte = .ok (s.next byte) := by
  unfold nextChecked next
  split
  · rw [add_ok h, ok_bind]
  · rw [endRunChecked_eq, ok_bind]

/-- What a scan has taken up, twice: an upper bound of what it puts out. -/
def Bounded (s : Scan) (read : ℕ) : Prop :=
  s.output.length + 2 * s.raw.length + 2 * s.count ≤ 2 * read

theorem Bounded.count_le {read : ℕ} (h : s.Bounded read) : s.count ≤ read := by
  rw [Bounded] at h
  omega

theorem Bounded.endRun {read : ℕ} (h : s.Bounded read) :
    s.endRun.output.length + 2 * s.endRun.raw.length ≤ 2 * read := by
  rw [Bounded] at h
  unfold Scan.endRun
  split
  · omega
  · show s.output.length + 2 * (s.raw ++ [s.last]).length ≤ 2 * read
    rw [List.length_append, List.length_singleton]
    omega
  · show s.output.length + 2 * (s.raw ++ [s.last, s.last]).length ≤ 2 * read
    rw [List.length_append, List.length_cons, List.length_singleton]
    omega
  · have hsegment := segment_length_all.1 s.raw s.count
    rw [List.length_append, List.length_nil]
    omega

theorem Bounded.next {read : ℕ} (h : s.Bounded read) (byte : UInt8) :
    (s.next byte).Bounded (read + 1) := by
  unfold Scan.next
  split
  · rw [Bounded] at h ⊢
    show s.output.length + 2 * s.raw.length + 2 * (s.count + 1) ≤ 2 * (read + 1)
    omega
  · have hended := h.endRun
    show s.endRun.output.length + 2 * (s.endRun.raw ++ [byte]).length + 2 * 0 ≤ 2 * (read + 1)
    rw [List.length_append, List.length_singleton]
    omega

theorem Bounded.finish {read : ℕ} (h : s.Bounded read) : s.finish.length ≤ 2 * read := by
  rw [Bounded] at h
  unfold Scan.finish
  split
  · have hsegment := segment_length_all.1 (s.raw ++ List.replicate s.count s.last) 0
    rw [List.length_append, List.length_replicate] at hsegment
    rw [List.length_append]
    omega
  · have hsegment := segment_length_all.1 s.raw s.count
    rw [List.length_append]
    omega

/-- A whole scanline: the loop does not fault, and what it leaves is bounded. -/
theorem foldlM_nextChecked {read : ℕ} (bytes : List UInt8) (h : s.Bounded read)
    (hlen : read + bytes.length < 2 ^ 64) :
    bytes.foldlM nextChecked s = .ok (bytes.foldl Scan.next s) ∧
      (bytes.foldl Scan.next s).Bounded (read + bytes.length) := by
  induction bytes generalizing s read with
  | nil => exact ⟨rfl, h⟩
  | cons byte bytes ih =>
      rw [List.length_cons] at hlen
      have hcount := h.count_le
      obtain ⟨hrest, hbounded⟩ := ih (h.next byte) (by omega)
      rw [List.foldlM_cons, nextChecked_eq byte (by omega), ok_bind, List.foldl_cons,
        List.length_cons, Nat.add_comm bytes.length 1, ← Nat.add_assoc]
      exact ⟨hrest, hbounded⟩

end Scan

/-- `encode_rle_scanline`. -/
def encodeRleScanlineChecked (input : List UInt8) : Checked (List UInt8) :=
  match input with
  | [] => .ok []
  | first :: iter => do
      let s ← iter.foldlM Scan.nextChecked ⟨[first], first, 0, []⟩
      s.finishChecked

/-- A scanline is coded without a fault, in at most twice its length. -/
theorem encodeRleScanlineChecked_eq {input : List UInt8} (hlen : input.length < 2 ^ 64) :
    encodeRleScanlineChecked input = .ok (encodeRleScanline input) ∧
      (encodeRleScanline input).length ≤ 2 * input.length := by
  cases input with
  | nil => exact ⟨rfl, Nat.le_refl _⟩
  | cons first iter =>
      rw [List.length_cons] at hlen ⊢
      have hstart : Scan.Bounded ⟨[first], first, 0, []⟩ 1 := Nat.le_refl 2
      obtain ⟨hloop, hbounded⟩ := Scan.foldlM_nextChecked iter hstart (by omega)
      rw [encodeRleScanlineChecked, hloop, ok_bind, Scan.finishChecked_eq]
      refine ⟨rfl, ?_⟩
      rw [Nat.add_comm]
      exact hbounded.finish

/-! ### Planes -/

/-- `rle_compress_plane`. -/
def rleCompressPlaneChecked (plane : List UInt8) (width height : ℕ) : Checked (List UInt8) := do
  -- the capacity of the output
  let _ ← mul 64 width height
  (List.range height).foldlM (fun output y => do
    let start ← mul 64 y width
    let next ← add 64 y 1
    let stop ← mul 64 next width
    let length ← sub stop start
    let row ← inRange (Buffer.read? plane start length)
    let coded ← encodeRleScanlineChecked row
    .ok (output ++ coded)) []

namespace PlanarEncoder

/-- Step 1 for the pixel in row `y` and column `x`. -/
def splitPixelChecked (bgraData : List UInt8) (width rowOffset y : ℕ) (e : PlanarEncoder) (x : ℕ) :
    Checked PlanarEncoder := do
  let column ← mul 64 x 4
  let off ← add 64 rowOffset column
  let b ← inRange bgraData[off]?
  let off₁ ← add 64 off 1
  let g ← inRange bgraData[off₁]?
  let off₂ ← add 64 off 2
  let r ← inRange bgraData[off₂]?
  let off₃ ← add 64 off 3
  let a ← inRange bgraData[off₃]?
  let rowStart ← mul 64 y width
  let k ← add 64 rowStart x
  inRange (e.setPixel k ![a, r, g, b])

/-- Step 1. -/
def splitChecked (bgraData : List UInt8) (width height scanline : ℕ) (e : PlanarEncoder) :
    Checked PlanarEncoder :=
  (List.range height).foldlM (fun e y => do
    let rowOffset ← mul 64 y scanline
    (List.range width).foldlM (splitPixelChecked bgraData width rowOffset y) e) e

/-- Step 2 for one byte. -/
def deltaPixelChecked (rowStart prevStart : ℕ) (p : Fin 4) (e : PlanarEncoder) (x : ℕ) :
    Checked PlanarEncoder := do
  let k ← add 64 rowStart x
  let cur ← inRange (e.planes p)[k]?
  let above ← add 64 prevStart x
  let prev ← inRange (e.planes p)[above]?
  let delta ← rowDeltaChecked cur prev
  let value ← zigZagEncodeChecked delta
  inRange (e.setDelta p k value)

/-- Step 2 for one row of one plane. -/
def deltaRowChecked (width : ℕ) (p : Fin 4) (e : PlanarEncoder) (y : ℕ) :
    Checked PlanarEncoder := do
  let rowStart ← mul 64 y width
  let before ← sub y 1
  let prevStart ← mul 64 before width
  (List.range width).foldlM (deltaPixelChecked rowStart prevStart p) e

/-- Step 2 for one plane. -/
def deltaPlaneChecked (width height : ℕ) (e : PlanarEncoder) (p : Fin 4) :
    Checked PlanarEncoder := do
  let e ← inRange (e.copyFirstRow width p)
  (List.range' 1 (height - 1)).reverse.foldlM (deltaRowChecked width p) e

/-- The bytes from one row of the bitmap to the next. -/
def bytesPerRowChecked (width scanline : ℕ) : Checked ℕ :=
  if scanline = 0 then mul 64 width 4 else .ok scanline

/-- There are four planes. -/
theorem neZero_planes : NeZero 4 := ⟨by decide⟩

attribute [local instance] neZero_planes in
/-- `PlanarEncoder::encode`. -/
def encodeChecked (e : PlanarEncoder) (bgraData : List UInt8) (width height scanline : ℕ) :
    Checked (PlanarEncoder × List UInt8) := do
  let scanline ← bytesPerRowChecked width scanline
  let planeSize ← mul 64 width height
  let e := e.ensure planeSize
  let e ← splitChecked bgraData width height scanline e
  let e ← (List.finRange 4).foldlM (deltaPlaneChecked width height) e
  let rleR ← rleCompressPlaneChecked (e.deltaPlanes 1) width height
  let rleG ← rleCompressPlaneChecked (e.deltaPlanes 2) width height
  let rleB ← rleCompressPlaneChecked (e.deltaPlanes 3) width height
  -- the capacity of the output
  let capacity ← add 64 1 rleR.length
  let capacity ← add 64 capacity rleG.length
  let _ ← add 64 capacity rleB.length
  .ok (e, 0x30 :: rleR ++ rleG ++ rleB)

end PlanarEncoder

/-! ### Bitmaps whose rows are in the buffer -/

/-- The rows of a bitmap lie one after the other in its buffer, which is no longer than a
slice can be. -/
structure RowsFit (bgraData : List UInt8) (width height stride : ℕ) : Prop where
  height_pos : 1 ≤ height
  wide : 4 * width ≤ stride
  inBuffer : (height - 1) * stride + 4 * width ≤ bgraData.length
  small : bgraData.length < 2 ^ 63

namespace RowsFit

variable {bgraData : List UInt8} {width height stride x y : ℕ}

theorem address_lt (h : RowsFit bgraData width height stride) (hy : y < height) (hx : x < width) :
    y * stride + x * 4 + 3 < bgraData.length := by
  have hrow := Nat.mul_le_mul_right stride (show y ≤ height - 1 by omega)
  have hin := h.inBuffer
  omega

/-- A bitmap has at most a quarter as many pixels as its buffer has bytes. -/
theorem pixels_lt (h : RowsFit bgraData width height stride) : width * height < 2 ^ 61 := by
  have hrows := Nat.mul_le_mul_left (height - 1) h.wide
  have hpixels : 4 * (width * height) = (height - 1) * (4 * width) + 4 * width := by
    rw [← Nat.succ_mul, Nat.succ_eq_add_one, Nat.sub_add_cancel h.height_pos,
      Nat.mul_comm height, Nat.mul_assoc]
  have hin := h.inBuffer
  have hsmall := h.small
  omega

theorem index_lt (h : RowsFit bgraData width height stride) (hy : y < height) (hx : x < width) :
    y * width + x < 2 ^ 61 :=
  Nat.lt_trans (pixel_lt hx hy) h.pixels_lt

end RowsFit

section Loops

open PlanarEncoder

variable {bgraData : List UInt8} {width height stride : ℕ} {t : Fin 4 → ℕ → UInt8}
  {e : PlanarEncoder} {p : Fin 4}

/-! ### Step 1 -/

theorem splitPixelChecked_eq (h : RowsFit bgraData width height stride) {x y : ℕ}
    (hy : y < height) (hx : x < width) (e : PlanarEncoder) :
    splitPixelChecked bgraData width (y * stride) y e x =
      inRange (splitPixel bgraData width stride y e x) := by
  have haddress := h.address_lt hy hx
  have hindex := h.index_lt hy hx
  have hsmall := h.small
  have hcolumn := mul_ok (w := 64) (a := x) (b := 4) (by omega)
  have hoff := add_ok (w := 64) (a := y * stride) (b := x * 4) (by omega)
  have hoff₁ := add_ok (w := 64) (a := y * stride + x * 4) (b := 1) (by omega)
  have hoff₂ := add_ok (w := 64) (a := y * stride + x * 4) (b := 2) (by omega)
  have hoff₃ := add_ok (w := 64) (a := y * stride + x * 4) (b := 3) (by omega)
  have hrow := mul_ok (w := 64) (a := y) (b := width) (by omega)
  have hk := add_ok (w := 64) (a := y * width) (b := x) (by omega)
  unfold splitPixelChecked splitPixel
  simp only [Option.bind_eq_bind, inRange_bind, hcolumn, hoff, hoff₁, hoff₂, hoff₃, hrow, hk,
    ok_bind]

/-- Where the rows are in the buffer, step 1 is that of the release build. -/
theorem splitChecked_eq (h : RowsFit bgraData width height stride) (e : PlanarEncoder) :
    splitChecked bgraData width height stride e =
      inRange (split bgraData width height stride e) := by
  refine foldlM_inRange (fun _ => True) (fun y hy e _ => ?_) (fun _ _ _ _ _ _ => trivial) trivial
  rw [List.mem_range] at hy
  have hrow : y * stride < 2 ^ 64 := by
    have hrows := Nat.mul_le_mul_right stride (show y ≤ height - 1 by omega)
    have hin := h.inBuffer
    have hsmall := h.small
    omega
  rw [mul_ok hrow, ok_bind]
  exact foldlM_inRange (fun _ => True)
    (fun x hx e _ => splitPixelChecked_eq h hy (List.mem_range.mp hx) e)
    (fun _ _ _ _ _ _ => trivial) trivial

/-- A pixel that is not in the buffer stops step 1, if no sum before it does. -/
theorem splitPixelChecked_faults {rowOffset x y : ℕ}
    (hout : bgraData.length ≤ rowOffset + x * 4 + 3) (e : PlanarEncoder) :
    Faults (splitPixelChecked bgraData width rowOffset y e x) := by
  refine faults_bind fun column hcolumn => faults_bind fun off hoff => faults_bind fun _ _ =>
    faults_bind fun _ _ => faults_bind fun _ _ => faults_bind fun _ _ => faults_bind fun _ _ =>
    faults_bind fun off₃ hoff₃ => ?_
  obtain ⟨-, rfl⟩ := mul_eq_ok.mp hcolumn
  obtain ⟨-, rfl⟩ := add_eq_ok.mp hoff
  obtain ⟨-, rfl⟩ := add_eq_ok.mp hoff₃
  rw [List.getElem?_eq_none hout]
  exact (faults_error _).bind _

/-- Step 1 faults if the last row is not in the buffer. -/
theorem splitChecked_faults (hw : 1 ≤ width) (hh : 1 ≤ height)
    (hout : bgraData.length < (height - 1) * stride + 4 * width) (e : PlanarEncoder) :
    Faults (splitChecked bgraData width height stride e) := by
  refine foldlM_faults (fun _ => True) (c := height - 1) (List.mem_range.mpr (by omega))
    (fun _ _ _ _ _ => trivial) (fun e _ => faults_bind fun rowOffset hrow => ?_) trivial
  obtain ⟨-, rfl⟩ := mul_eq_ok.mp hrow
  exact foldlM_faults (fun _ => True) (c := width - 1) (List.mem_range.mpr (by omega))
    (fun _ _ _ _ _ => trivial) (fun e _ => splitPixelChecked_faults (by omega) e) trivial

/-! ### Step 2 -/

theorem planes_of_setDelta {e' : PlanarEncoder} {k : ℕ} {v : UInt8}
    (h : e.setDelta p k v = some e') : e'.planes = e.planes := by
  unfold setDelta at h
  split at h
  · rw [← Option.some.inj h]
    rfl
  · cases h

theorem planes_of_copyFirstRow {e' : PlanarEncoder} (h : e.copyFirstRow width p = some e') :
    e'.planes = e.planes := by
  unfold copyFirstRow at h
  split at h
  · cases h
  · split at h
    · cases h
    · rw [← Option.some.inj h]
      rfl

theorem planes_of_deltaPixelChecked {e' : PlanarEncoder} {rowStart prevStart x : ℕ}
    (h : deltaPixelChecked rowStart prevStart p e x = .ok e') : e'.planes = e.planes := by
  obtain ⟨k, -, h⟩ := bind_eq_ok.mp h
  obtain ⟨cur, -, h⟩ := bind_eq_ok.mp h
  obtain ⟨above, -, h⟩ := bind_eq_ok.mp h
  obtain ⟨prev, -, h⟩ := bind_eq_ok.mp h
  obtain ⟨delta, -, h⟩ := bind_eq_ok.mp h
  obtain ⟨value, -, h⟩ := bind_eq_ok.mp h
  exact planes_of_setDelta (inRange_eq_ok.mp h)

theorem planes_of_deltaRowChecked {e' : PlanarEncoder} {y : ℕ}
    (h : deltaRowChecked width p e y = .ok e') : e'.planes = e.planes := by
  obtain ⟨rowStart, -, h⟩ := bind_eq_ok.mp h
  obtain ⟨before, -, h⟩ := bind_eq_ok.mp h
  obtain ⟨prevStart, -, h⟩ := bind_eq_ok.mp h
  exact foldlM_keeps (fun e' => e'.planes = e.planes)
    (fun _ _ _ he h => (planes_of_deltaPixelChecked h).trans he) rfl h

theorem planes_of_deltaPlaneChecked {e' : PlanarEncoder}
    (h : deltaPlaneChecked width height e p = .ok e') : e'.planes = e.planes := by
  obtain ⟨e₁, he₁, h⟩ := bind_eq_ok.mp h
  have hfirst := planes_of_copyFirstRow (inRange_eq_ok.mp he₁)
  exact foldlM_keeps (fun e' => e'.planes = e.planes)
    (fun _ _ _ he h => (planes_of_deltaRowChecked h).trans he) hfirst h

/-- The bytes of a pixel and of the one above it lie half the range apart in plane `p`. -/
def HalfStep (width : ℕ) (t : Fin 4 → ℕ → UInt8) (p : Fin 4) (y x : ℕ) : Prop :=
  HalfApart (t p (y * width + x)) (t p ((y - 1) * width + x))

instance (width : ℕ) (t : Fin 4 → ℕ → UInt8) (p : Fin 4) (y x : ℕ) :
    Decidable (HalfStep width t p y x) := by
  unfold HalfStep
  infer_instance

/-- One byte of step 2: it faults for a half step, and else is that of the release build. -/
theorem deltaPixelChecked_eq (hpixels : width * height < 2 ^ 61)
    (ht : ∀ k < width * height, e.HasBytes t k) {x y : ℕ} (hpos : 0 < y) (hy : y < height)
    (hx : x < width) :
    deltaPixelChecked (y * width) ((y - 1) * width) p e x =
      if HalfStep width t p y x then .error .overflow
      else inRange (deltaPixel width p y e x) := by
  have hindex := pixel_lt hx hy
  have habove : (y - 1) * width + x < width * height := pixel_lt hx (by omega)
  have hk := add_ok (w := 64) (a := y * width) (b := x) (by omega)
  have hprev := add_ok (w := 64) (a := (y - 1) * width) (b := x) (by omega)
  unfold deltaPixelChecked deltaPixel
  simp only [Option.bind_eq_bind, inRange_bind, hk, hprev, ht _ hindex p, ht _ habove p,
    inRange_some, ok_bind, rowDeltaChecked_eq, zigZagEncodeChecked_eq, toInt8_rowDelta_eq_iff]
  by_cases hhalf : HalfApart (t p (y * width + x)) (t p ((y - 1) * width + x))
  · have hstep : HalfStep width t p y x := hhalf
    rw [if_pos hhalf, if_pos hstep]
    rfl
  · have hstep : ¬ HalfStep width t p y x := hhalf
    rw [if_neg hhalf, if_neg hstep, ok_bind]

/-- The planes of the encoder are those of the bitmap. -/
def Holds (width height : ℕ) (t : Fin 4 → ℕ → UInt8) (e : PlanarEncoder) : Prop :=
  e.Fits (width * height) ∧ ∀ k < width * height, e.HasBytes t k

theorem Holds.of_planes {e' : PlanarEncoder} (h : Holds width height t e)
    (he : e'.planes = e.planes) : Holds width height t e' := by
  constructor
  · intro i
    rw [he]
    exact h.1 i
  · intro k hk i
    rw [he]
    exact h.2 k hk i

/-- One row without a half step. -/
theorem deltaRowChecked_eq (hpixels : width * height < 2 ^ 61) (he : Holds width height t e)
    {y : ℕ} (hpos : 0 < y) (hy : y < height) (happart : ∀ x < width, ¬ HalfStep width t p y x) :
    deltaRowChecked width p e y = inRange ((List.range width).foldlM (deltaPixel width p y) e) := by
  have hrow := RowMajor.rowEnd_le width hy
  have habove := Nat.mul_le_mul_right width (show y - 1 ≤ y by omega)
  rw [Nat.mul_comm height] at hrow
  rw [deltaRowChecked, mul_ok (by omega), ok_bind, sub_ok (show 1 ≤ y from hpos), ok_bind,
    mul_ok (by omega), ok_bind]
  refine foldlM_inRange (Holds width height t) (fun x hx e he => ?_) (fun x hx e e' he h => ?_) he
  · rw [List.mem_range] at hx
    rw [deltaPixelChecked_eq hpixels he.2 hpos hy hx, if_neg (happart x hx)]
  · obtain ⟨e'', he'', hplanes, -⟩ := deltaPixel_spec he.1 he.2 p (List.mem_range.mp hx) hy hpos
    obtain rfl := Option.some.inj (he''.symm.trans h)
    exact he.of_planes hplanes

/-- A row with a half step. -/
theorem deltaRowChecked_faults (hpixels : width * height < 2 ^ 61) (he : Holds width height t e)
    {x y : ℕ} (hpos : 0 < y) (hy : y < height) (hx : x < width) (hhalf : HalfStep width t p y x) :
    Faults (deltaRowChecked width p e y) := by
  refine faults_bind fun rowStart hrow => faults_bind fun before hbefore =>
    faults_bind fun prevStart hprev => ?_
  obtain ⟨-, rfl⟩ := mul_eq_ok.mp hrow
  obtain ⟨-, rfl⟩ := sub_eq_ok.mp hbefore
  obtain ⟨-, rfl⟩ := mul_eq_ok.mp hprev
  refine foldlM_faults (Holds width height t) (List.mem_range.mpr hx)
    (fun _ _ _ he h => he.of_planes (planes_of_deltaPixelChecked h)) (fun e he => ?_) he
  rw [deltaPixelChecked_eq hpixels he.2 hpos hy hx, if_pos hhalf]
  exact faults_error _

/-- The rows of step 2 are those from the second on. -/
theorem mem_deltaRows {y : ℕ} :
    y ∈ (List.range' 1 (height - 1)).reverse ↔ 0 < y ∧ y < height := by
  rw [List.mem_reverse, List.mem_range'_1]
  omega

/-- One plane without a half step. -/
theorem deltaPlaneChecked_eq (hpixels : width * height < 2 ^ 61) (he : Holds width height t e)
    (hapart : ∀ y, 0 < y → y < height → ∀ x < width, ¬ HalfStep width t p y x) :
    deltaPlaneChecked width height e p = inRange (deltaPlane width height e p) := by
  unfold deltaPlaneChecked deltaPlane
  rw [Option.bind_eq_bind, inRange_bind]
  rcases hfirst : e.copyFirstRow width p with - | e₁
  · rfl
  rw [inRange_some, ok_bind, ok_bind]
  refine foldlM_inRange (Holds width height t) (fun y hy e he => ?_) (fun y hy e e' he h => ?_)
    (he.of_planes (planes_of_copyFirstRow hfirst))
  · obtain ⟨hpos, hy⟩ := mem_deltaRows.mp hy
    exact deltaRowChecked_eq hpixels he hpos hy (hapart y hpos hy)
  · obtain ⟨hpos, hy⟩ := mem_deltaRows.mp hy
    rw [← inRange_eq_ok, ← deltaRowChecked_eq hpixels he hpos hy (hapart y hpos hy)] at h
    exact he.of_planes (planes_of_deltaRowChecked h)

/-- A plane with a half step. -/
theorem deltaPlaneChecked_faults (hpixels : width * height < 2 ^ 61) (he : Holds width height t e)
    {x y : ℕ} (hpos : 0 < y) (hy : y < height) (hx : x < width) (hhalf : HalfStep width t p y x) :
    Faults (deltaPlaneChecked width height e p) := by
  refine faults_bind fun e₁ he₁ => ?_
  exact foldlM_faults (f := deltaRowChecked width p) (Holds width height t)
    (mem_deltaRows.mpr ⟨hpos, hy⟩)
    (fun _ _ _ he h => he.of_planes (planes_of_deltaRowChecked h))
    (fun _ he => deltaRowChecked_faults hpixels he hpos hy hx hhalf)
    (he.of_planes (planes_of_copyFirstRow (inRange_eq_ok.mp he₁)))

/-- The four planes without a half step. -/
theorem deltaPlanesChecked_eq (hpixels : width * height < 2 ^ 61) (he : Holds width height t e)
    (hapart : ∀ p y, 0 < y → y < height → ∀ x < width, ¬ HalfStep width t p y x) :
    (List.finRange 4).foldlM (deltaPlaneChecked width height) e =
      inRange ((List.finRange 4).foldlM (deltaPlane width height) e) := by
  refine foldlM_inRange (Holds width height t) (fun p _ e he => ?_) (fun p _ e e' he h => ?_) he
  · exact deltaPlaneChecked_eq hpixels he (hapart p)
  · rw [← inRange_eq_ok, ← deltaPlaneChecked_eq hpixels he (hapart p)] at h
    exact he.of_planes (planes_of_deltaPlaneChecked h)

/-- A half step in any of the four planes. -/
theorem deltaPlanesChecked_faults (hpixels : width * height < 2 ^ 61)
    (he : Holds width height t e) {x y : ℕ} (hpos : 0 < y) (hy : y < height) (hx : x < width)
    (hhalf : HalfStep width t p y x) :
    Faults ((List.finRange 4).foldlM (deltaPlaneChecked width height) e) :=
  foldlM_faults (f := deltaPlaneChecked width height) (Holds width height t)
    (List.mem_finRange p)
    (fun _ _ _ he h => he.of_planes (planes_of_deltaPlaneChecked h))
    (fun _ he => deltaPlaneChecked_faults hpixels he hpos hy hx hhalf) he

/-! ### Step 3 -/

/-- The coded rows of a plane are at most twice as long as the plane. -/
theorem length_codedRows (hwidth : width < 2 ^ 64) (d : ℕ → UInt8) (height : ℕ) :
    ((List.range height).flatMap fun y => encodeRleScanline (planeRow width d y)).length ≤
      2 * (width * height) := by
  induction height with
  | zero => exact Nat.zero_le _
  | succ height ih =>
      have hfits : (planeRow width d height).length < 2 ^ 64 := by
        rw [length_planeRow]
        exact hwidth
      have hrow := (encodeRleScanlineChecked_eq hfits).2
      rw [length_planeRow] at hrow
      rw [List.range_succ, List.flatMap_append, List.length_append, List.flatMap_singleton,
        Nat.mul_succ]
      omega

/-- Step 3 for one plane. -/
theorem rleCompressPlaneChecked_eq (hpixels : width * height < 2 ^ 61) (hw : 1 ≤ width)
    (hh : 1 ≤ height) {plane : List UInt8} {d : ℕ → UInt8} (hlen : width * height ≤ plane.length)
    (hplane : ∀ k < width * height, plane[k]? = some (d k)) :
    ∃ coded, rleCompressPlaneChecked plane width height = .ok coded ∧
      rleCompressPlane plane width height = some coded ∧
      coded.length ≤ 2 * (width * height) := by
  have hwidth : width ≤ width * height := Nat.le_mul_of_pos_right width hh
  have hheight : height ≤ width * height := Nat.le_mul_of_pos_left height hw
  have hspec := rleCompressPlane_spec hlen hplane
  refine ⟨_, ?_, hspec, length_codedRows (by omega) d height⟩
  rw [rleCompressPlaneChecked, mul_ok (by omega), ok_bind, ← inRange_some, ← hspec]
  refine foldlM_inRange (fun _ => True) (fun y hy output _ => ?_) (fun _ _ _ _ _ _ => trivial)
    trivial
  rw [List.mem_range] at hy
  have hend := RowMajor.rowEnd_le width hy
  have hnext : (y + 1) * width = y * width + width := Nat.succ_mul y width
  rw [Nat.mul_comm height] at hend
  rw [mul_ok (by omega), ok_bind, add_ok (by omega), ok_bind, mul_ok (by omega), ok_bind,
    sub_ok (by omega), ok_bind, hnext, Nat.add_sub_cancel_left, inRange_map]
  rcases hrow : Buffer.read? plane (y * width) width with - | row
  · rfl
  · have hlength := Buffer.length_of_read? hrow
    rw [inRange_some, ok_bind, ok_bind, (encodeRleScanlineChecked_eq (by omega)).1, ok_bind]

/-! ### The encoder -/

/-- The stride, where it is a `usize`. -/
theorem bytesPerRowChecked_eq_ok {scanline stride : ℕ}
    (h : bytesPerRowChecked width scanline = .ok stride) :
    stride = bytesPerRow width scanline := by
  unfold bytesPerRowChecked at h
  unfold bytesPerRow
  split at h
  · next hzero =>
      rw [if_pos hzero]
      exact (mul_eq_ok.mp h).2.symm
  · next hscan =>
      rw [if_neg hscan]
      exact (Except.ok.inj h).symm

/-- Without a half step the encoder does what the release build does. -/
theorem encodeChecked_eq {scanline : ℕ} (hw : 1 ≤ width)
    (h : RowsFit bgraData width height (bytesPerRow width scanline))
    (hapart : ∀ p y, 0 < y → y < height → ∀ x < width,
      ¬ HalfStep width (planeByte bgraData width (bytesPerRow width scanline)) p y x)
    (e : PlanarEncoder) :
    ∃ r, e.encodeChecked bgraData width height scanline = .ok r ∧
      e.encode bgraData width height scanline = some r := by
  -- every index is below the number of pixels
  have hpixels := h.pixels_lt
  have hwidth : width ≤ width * height := Nat.le_mul_of_pos_right width h.height_pos
  have hstride : bytesPerRowChecked width scanline = .ok (bytesPerRow width scanline) := by
    unfold bytesPerRowChecked bytesPerRow
    split
    · exact mul_ok (by omega)
    · rfl
  -- the planes are split and their differences taken without a fault
  obtain ⟨e₁, he₁, hfits₁, hbytes⟩ :=
    split_spec (ensure_fits e (width * height)) fun y hy x hx => h.address_lt hy hx
  obtain ⟨e₂, he₂, hfits₂, hdeltas⟩ := deltaPlanes_spec h.height_pos hfits₁ hbytes
  have hplanes := deltaPlanesChecked_eq hpixels ⟨hfits₁, hbytes⟩ hapart
  -- each plane is compressed to at most twice its size
  have hcoded : ∀ p : Fin 4, ∃ coded,
      rleCompressPlaneChecked (e₂.deltaPlanes p) width height = .ok coded ∧
      rleCompressPlane (e₂.deltaPlanes p) width height = some coded ∧
      coded.length ≤ 2 * (width * height) := by
    intro p
    refine rleCompressPlaneChecked_eq hpixels hw h.height_pos ?_ (hdeltas p)
    rw [e₂.sized]
    exact hfits₂ p
  obtain ⟨rleR, hR, hR', hlenR⟩ := hcoded 1
  obtain ⟨rleG, hG, hG', hlenG⟩ := hcoded 2
  obtain ⟨rleB, hB, hB', hlenB⟩ := hcoded 3
  refine ⟨(e₂, 0x30 :: rleR ++ rleG ++ rleB), ?_, ?_⟩
  · -- so the sums of the sizes do not overflow either
    rw [encodeChecked, hstride, ok_bind, mul_ok (by omega), ok_bind]
    dsimp only
    rw [splitChecked_eq h, he₁, inRange_some, ok_bind, hplanes, he₂, inRange_some, ok_bind, hR,
      ok_bind, hG, ok_bind, hB, ok_bind, add_ok (by omega), ok_bind, add_ok (by omega), ok_bind,
      add_ok (by omega), ok_bind]
  · have hsplit : split bgraData width height (if scanline = 0 then width * 4 else scanline)
        (e.ensure (width * height)) = some e₁ := he₁
    simp only [encode, hsplit, he₂, hR', hG', hB', bind, Option.bind]

/-- With a half step in any of the four planes it does not get through. -/
theorem encodeChecked_faults {scanline : ℕ}
    (h : RowsFit bgraData width height (bytesPerRow width scanline)) {x y : ℕ} (hpos : 0 < y)
    (hy : y < height) (hx : x < width)
    (hhalf : HalfStep width (planeByte bgraData width (bytesPerRow width scanline)) p y x)
    (e : PlanarEncoder) : Faults (e.encodeChecked bgraData width height scanline) := by
  refine faults_bind fun stride hstride => faults_bind fun planeSize hsize => ?_
  obtain rfl := bytesPerRowChecked_eq_ok hstride
  obtain ⟨-, rfl⟩ := mul_eq_ok.mp hsize
  obtain ⟨e₁, he₁, hfits₁, hbytes⟩ :=
    split_spec (ensure_fits e (width * height)) fun y hy x hx => h.address_lt hy hx
  dsimp only
  rw [splitChecked_eq h, he₁, inRange_some, ok_bind]
  exact (deltaPlanesChecked_faults h.pixels_lt ⟨hfits₁, hbytes⟩ hpos hy hx hhalf).bind _

/-- Neither does it if the last row is not in the buffer. -/
theorem encodeChecked_faults_short {scanline : ℕ} (hw : 1 ≤ width) (hh : 1 ≤ height)
    (hout : bgraData.length < (height - 1) * bytesPerRow width scanline + 4 * width)
    (e : PlanarEncoder) : Faults (e.encodeChecked bgraData width height scanline) := by
  refine faults_bind fun stride hstride => faults_bind fun planeSize hsize => ?_
  obtain rfl := bytesPerRowChecked_eq_ok hstride
  exact (splitChecked_faults hw hh hout _).bind _

/-- A half step, in the bytes of the bitmap. -/
theorem halfStep_planeByte {x y : ℕ} (hx : x < width) :
    HalfStep width (planeByte bgraData width stride) p y x ↔
      HalfApart (bgraData.getD (y * stride + x * 4 + (3 - p.val)) 0)
        (bgraData.getD ((y - 1) * stride + x * 4 + (3 - p.val)) 0) := by
  rw [HalfStep, planeByte, planeByte, RowMajor.div_index hx, RowMajor.div_index hx,
    Nat.mul_add_mod_of_lt hx, Nat.mul_add_mod_of_lt hx]

end Loops

/-- **When planar encoding fails**: for a buffer of any content that is no longer than a
slice can be, and rows that do not overlap, `encode` overflows nothing and stays in range
exactly if the last row is in the buffer and no byte lies 128 away from the one of the
same channel in the pixel above. -/
theorem encodeChecked_ok_iff (e : PlanarEncoder) (bgraData : List UInt8)
    (width height scanline : ℕ) (hw : 1 ≤ width) (hh : 1 ≤ height)
    (hscan : scanline = 0 ∨ 4 * width ≤ scanline) (hsmall : bgraData.length < 2 ^ 63) :
    (∃ r, e.encodeChecked bgraData width height scanline = .ok r) ↔
      (height - 1) * bytesPerRow width scanline + 4 * width ≤ bgraData.length ∧
      ∀ y, 0 < y → y < height → ∀ x < width, ∀ c < 4,
        ¬ HalfApart (bgraData.getD (y * bytesPerRow width scanline + x * 4 + c) 0)
          (bgraData.getD ((y - 1) * bytesPerRow width scanline + x * 4 + c) 0) := by
  have hwide : 4 * width ≤ bytesPerRow width scanline := by
    unfold bytesPerRow
    split <;> omega
  constructor
  · -- a fault-free call has the data, and no two rows that are half a range apart
    rintro ⟨r, hr⟩
    have hin : (height - 1) * bytesPerRow width scanline + 4 * width ≤ bgraData.length := by
      by_contra hout
      exact encodeChecked_faults_short hw hh (Nat.lt_of_not_le hout) e r hr
    refine ⟨hin, fun y hpos hy x hx c hc hhalf => ?_⟩
    have hplane : HalfStep width (planeByte bgraData width (bytesPerRow width scanline))
        ⟨3 - c, by omega⟩ y x := by
      rw [halfStep_planeByte hx, show 3 - (3 - c) = c by omega]
      exact hhalf
    exact encodeChecked_faults ⟨hh, hwide, hin, hsmall⟩ hpos hy hx hplane e r hr
  · -- and with both no operation fails
    rintro ⟨hin, hapart⟩
    obtain ⟨r, hr, -⟩ := encodeChecked_eq hw ⟨hh, hwide, hin, hsmall⟩
      (fun p y hpos hy x hx h => hapart y hpos hy x hx (3 - p.val) (by omega)
        ((halfStep_planeByte hx).mp h)) e
    exact ⟨r, hr⟩

/-- A column of two pixels whose bytes are one apart. -/
theorem encodeChecked_ok_iff_column :
    (∃ r, (PlanarEncoder.new 1 2).encodeChecked [1, 2, 3, 4, 2, 3, 4, 5] 1 2 0 = .ok r) ↔
      (2 - 1) * bytesPerRow 1 0 + 4 * 1 ≤ 8 ∧
      ∀ y, 0 < y → y < 2 → ∀ x < 1, ∀ c < 4,
        ¬ HalfApart (([1, 2, 3, 4, 2, 3, 4, 5] : List UInt8).getD
            (y * bytesPerRow 1 0 + x * 4 + c) 0)
          (([1, 2, 3, 4, 2, 3, 4, 5] : List UInt8).getD
            ((y - 1) * bytesPerRow 1 0 + x * 4 + c) 0) :=
  encodeChecked_ok_iff (PlanarEncoder.new 1 2) [1, 2, 3, 4, 2, 3, 4, 5] 1 2 0 (by decide)
    (by decide) (.inl rfl) (by decide)

/-- A blue pixel of half intensity over a black one: the difference -128 has no
negative. -/
theorem encodeChecked_half_blue :
    ¬ ∀ (e : PlanarEncoder) (bgraData : List UInt8) (width height scanline : ℕ), 1 ≤ width →
      1 ≤ height → scanline = 0 ∨ 4 * width ≤ scanline →
      (height - 1) * scanline + 4 * width ≤ bgraData.length → bgraData.length < 2 ^ 63 →
      ∃ r, e.encodeChecked bgraData width height scanline = .ok r := by
  intro h
  obtain ⟨r, hr⟩ := h (PlanarEncoder.new 1 2) [128, 0, 0, 255, 0, 0, 0, 255] 1 2 4 (by decide)
    (by decide) (by decide) (by decide) (by decide)
  have hfault : (PlanarEncoder.new 1 2).encodeChecked [128, 0, 0, 255, 0, 0, 0, 255] 1 2 4 =
      .error .overflow := rfl
  rw [hfault] at hr
  cases hr

end LamcoRdp
