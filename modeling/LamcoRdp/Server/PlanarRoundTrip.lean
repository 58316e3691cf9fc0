/-
LamcoRdp/Server/PlanarRoundTrip.lean

The planar stream is decoded to the bitmap that was encoded.

The decoder here is the one that the encoder's comments and tests assume; it says
what the stream means and is not part of the repository.  It reads the header and
three planes.  A plane is read scanline by scanline (`RunLength.fill` with the
control bytes of the format), and every row but the first is added to the one
above.

The proof goes up with the encoder.  `encodeSegment_codes` says of the two
functions that cut runs, together, that they code what they are given; the loop
over a scanline keeps `Scan.Coded`; the planes are described by what every byte of
them has to be, since the loops that fill them write each byte once.
-/
import LamcoRdp.Lib.RunLength
import LamcoRdp.Server.PlanarEncoder

namespace LamcoRdp

open RunLength

/-! ### The decoder -/

/-- What a control byte says: the number of raw bytes and the length of the run. -/
def planarControl (c : UInt8) : ℕ × ℕ :=
  let high := c.toNat / 16
  let low := c.toNat % 16
  if low = 1 then (0, 16 + high) else if low = 2 then (0, 32 + high) else (high, low)

/-- The difference that a zig-zag coded byte stands for. -/
def unZigZag (v : UInt8) : ℤ :=
  if v.toNat % 2 = 0 then (v.toNat / 2 : ℕ) else -((v.toNat + 1) / 2 : ℕ)

/-- A byte of a row, from the one above it. -/
def addDelta (above v : UInt8) : UInt8 := UInt8.ofInt (above.toNat + unZigZag v)

/-- The rows of a plane that are still to come, and the rest of the stream. -/
def decodeRows (width : ℕ) : ℕ → Option (List UInt8) → List UInt8 →
    Option (List (List UInt8) × List UInt8)
  | 0, _, stream => some ([], stream)
  | height + 1, above, stream => do
      let (line, stream) ← fill planarControl width [] stream
      let row := match above with
        | none => line
        | some above => List.zipWith addDelta above line
      let (rows, stream) ← decodeRows width height (some row) stream
      some (row :: rows, stream)

/-- A decoded pixel. -/
structure Rgb where
  r : UInt8
  g : UInt8
  b : UInt8
  deriving DecidableEq

/-- The pixels of three rows of the same length. -/
def zipRow (r g b : List UInt8) : List Rgb :=
  List.zipWith (fun f b => f b) (List.zipWith Rgb.mk r g) b

/-- Decodes an RDP6 planar stream: the rows of pixels, and what is left over. -/
def decodePlanar (width height : ℕ) (stream : List UInt8) :
    Option (List (List Rgb) × List UInt8) :=
  match stream with
  | [] => none
  | header :: stream =>
      if header = 0x30 then do
        let (r, stream) ← decodeRows width height none stream
        let (g, stream) ← decodeRows width height none stream
        let (b, stream) ← decodeRows width height none stream
        some (List.zipWith (fun f b => f b) (List.zipWith zipRow r g) b, stream)
      else none

/-! ### Deltas -/

theorem ofInt_toNat (b : UInt8) : UInt8.ofInt (b.toNat : ℤ) = b := by
  apply UInt8.toNat_inj.mp
  show (UInt8.ofNat ((b.toNat : ℤ) % 256).toNat).toNat = b.toNat
  have hb := b.toNat_lt
  rw [UInt8.toNat_ofNat']
  omega

/-- Zig-zag coding is undone, the one for -128 too. -/
theorem unZigZag_zigZagEncode (delta : Int16) :
    UInt8.ofInt (unZigZag (zigZagEncode delta)) = delta.toInt8.toUInt8 := by
  have hall : ∀ b : Fin 256,
      UInt8.ofInt (unZigZag (if 0 ≤ (UInt8.ofFin b).toInt8
        then (UInt8.ofFin b).toInt8.toUInt8 <<< 1
        else (-(UInt8.ofFin b).toInt8).toUInt8 * 2 - 1)) = UInt8.ofFin b := by
    decide +kernel
  exact hall delta.toInt8.toUInt8.toFin

theorem toUInt8_rowDelta (cur prev : UInt8) : (rowDelta cur prev).toInt8.toUInt8 = cur - prev := by
  apply UInt8.toBitVec_inj.mp
  show BitVec.signExtend 8 (BitVec.setWidth 16 cur.toBitVec - BitVec.setWidth 16 prev.toBitVec) =
    cur.toBitVec - prev.toBitVec
  rw [BitVec.signExtend_eq_setWidth_of_le _ (by decide)]
  bv_omega

/-- The difference to the byte above leads back to the byte. -/
theorem addDelta_zigZagEncode (cur prev : UInt8) :
    addDelta prev (zigZagEncode (rowDelta cur prev)) = cur := by
  rw [addDelta, UInt8.ofInt_add, ofInt_toNat, unZigZag_zigZagEncode, toUInt8_rowDelta,
    UInt8.add_comm, UInt8.sub_add_cancel]

/-! ### Segments -/

/-- A control byte from its two nibbles. -/
theorem toNat_nibbles {high low : ℕ} (hh : high < 16) (hl : low < 16) :
    (UInt8.ofNat high <<< 4 ||| UInt8.ofNat low).toNat = 16 * high + low := by
  have hall : ∀ h l : Fin 16,
      (UInt8.ofNat h.val <<< 4 ||| UInt8.ofNat l.val).toNat = 16 * h.val + l.val := by
    decide
  exact hall ⟨high, hh⟩ ⟨low, hl⟩

/-- The control byte of raw bytes with a short run. -/
theorem planarControl_raw {high low : ℕ} (hh : high < 16) (hl : low < 16) (h₁ : low ≠ 1)
    (h₂ : low ≠ 2) : planarControl (UInt8.ofNat high <<< 4 ||| UInt8.ofNat low) = (high, low) := by
  have hdiv : (16 * high + low) / 16 = high := by omega
  have hmod : (16 * high + low) % 16 = low := by omega
  simp only [planarControl]
  rw [toNat_nibbles hh hl, hdiv, hmod, if_neg h₁, if_neg h₂]

/-- The control byte of a long run. -/
theorem planarControl_long {k n : ℕ} (hk : k = 1 ∨ k = 2) (hn : n < 16) :
    planarControl (UInt8.ofNat n <<< 4 ||| UInt8.ofNat k) = (0, 16 * k + n) := by
  have hdiv : (16 * n + k) / 16 = n := by omega
  have hmod : (16 * n + k) % 16 = k := by omega
  simp only [planarControl]
  rw [toNat_nibbles hn (by omega), hdiv, hmod]
  rcases hk with rfl | rfl
  · rw [if_pos rfl]
  · rw [if_neg (by decide), if_pos rfl]

theorem getLast?_append_replicate {done : List UInt8} {last : UInt8} (n : ℕ)
    (h : done.getLast? = some last) : (done ++ List.replicate n last).getLast? = some last := by
  rw [List.getLast?_append, List.getLast?_replicate]
  split
  · exact h
  · rfl

/-- `encode_segment` codes the raw bytes and the run of the last of them.  A run
of one or two would be read as a long one, so there must be none. -/
def SegmentCoded (raw : List UInt8) (run : ℕ) : Prop :=
  ∀ last done, raw.getLast? = some last → run = 0 ∨ 3 ≤ run →
    Codes planarControl done (encodeSegment raw run) (done ++ raw ++ List.replicate run last)

/-- `encode_long_sequence` codes a run of the byte that the row ends with. -/
def LongCoded (run : ℕ) (last : UInt8) : Prop :=
  ∀ done, done.getLast? = some last →
    Codes planarControl done (encodeLongSequence run last) (done ++ List.replicate run last)

/-- More than fifteen raw bytes: fifteen of them, then the rest with the run. -/
theorem segmentCoded_of_many {raw : List UInt8} {run : ℕ} (hne : raw ≠ [])
    (hlong : 15 < raw.length) (hfront : SegmentCoded (raw.take 15) 0)
    (hback : SegmentCoded (raw.drop 15) run) : SegmentCoded raw run := by
  intro last done hlast hrun
  have htake : raw.take 15 ≠ [] := by
    intro h
    have hlen := congrArg List.length h
    rw [List.length_take, List.length_nil] at hlen
    omega
  have hdrop : (raw.drop 15).getLast? = some last := by
    rw [List.getLast?_drop, if_neg (by omega), hlast]
  have hone := hfront _ done (List.getLast?_eq_some_getLast htake) (.inl rfl)
  have htwo := hback last (done ++ raw.take 15) hdrop hrun
  rw [List.replicate_zero, List.append_nil] at hone
  rw [List.append_assoc done, List.take_append_drop] at htwo
  rw [encodeSegment, if_neg hne, if_pos hlong]
  exact hone.append htwo

/-- Raw bytes that fit one segment: the control byte holds a run of up to fifteen,
the others go to `encode_long_sequence`. -/
theorem segmentCoded_of_few {raw : List UInt8} {run : ℕ} (hne : raw ≠ [])
    (hshort : ¬ 15 < raw.length)
    (hmore : 15 < run → LongCoded (run - 15) (raw.getLastD 0)) : SegmentCoded raw run := by
  intro last done hlast hrun
  have hpos : 0 < raw.length := List.length_pos_iff.mpr hne
  have hctrl : planarControl (UInt8.ofNat raw.length <<< 4 ||| UInt8.ofNat (min run 15)) =
      (raw.length, min run 15) :=
    planarControl_raw (by omega) (by omega) (by omega) (by omega)
  -- the decoder repeats the last raw byte
  have hdone : (done ++ raw).getLast? = some last := by
    rw [List.getLast?_append, hlast]
    rfl
  have hext := extend_of_getLast? (min run 15) hdone
  rw [encodeSegment, if_neg hne, if_neg hshort]
  split
  · -- a run longer than fifteen goes on in a sequence of its own
    next hrest =>
      have hlastD : raw.getLastD 0 = last := by
        rw [List.getLastD_eq_getLast?, hlast]
        rfl
      have hlong := hmore hrest
      rw [hlastD] at hlong ⊢
      have hcode := hlong _ (getLast?_append_replicate (min run 15) hdone)
      rw [List.append_assoc _ _ (List.replicate (run - 15) last), List.replicate_append_replicate,
        show min run 15 + (run - 15) = run by omega] at hcode
      exact .cons _ hctrl (by omega) hext hcode
  · -- a shorter one is in the control byte
    next hfits =>
      rw [show min run 15 = run by omega] at hctrl hext ⊢
      rw [List.append_nil]
      exact .single _ hctrl (by omega) hext

/-- Sixteen repeats and more: a control byte for at most 47 of them. -/
theorem longCoded_of_ge {run : ℕ} {last : UInt8} (hge : 16 ≤ run)
    (hrest : LongCoded (run - min run 47) last) : LongCoded run last := by
  intro done hdone
  have hctrl : planarControl (UInt8.ofNat (min run 47 - min (min run 47 / 16) 2 * 16) <<< 4 |||
      UInt8.ofNat (min (min run 47 / 16) 2)) = (0, min run 47) := by
    rw [planarControl_long (by omega) (by omega)]
    congr 1
    omega
  have hext : extend done [] (min run 47) = some (done ++ List.replicate (min run 47) last) := by
    rw [← List.append_nil done] at hdone
    rw [extend_of_getLast? (min run 47) hdone, List.append_nil]
  have hcode := hrest _ (getLast?_append_replicate (min run 47) hdone)
  rw [List.append_assoc, List.replicate_append_replicate,
    show min run 47 + (run - min run 47) = run by omega] at hcode
  rw [encodeLongSequence, if_pos hge]
  have hpos : 0 < ([] : List UInt8).length + min run 47 := by
    rw [List.length_nil]
    omega
  exact .cons _ hctrl hpos hext hcode

/-- One to three repeats are raw bytes again. -/
theorem longCoded_of_few {run : ℕ} {last : UInt8} (hlt : ¬ 16 ≤ run) (hne : ¬ run = 0)
    (hfew : run ≤ 3) (hseg : SegmentCoded (List.replicate run last) 0) : LongCoded run last := by
  intro done _
  have hraw : (List.replicate run last).getLast? = some last := by
    rw [List.getLast?_replicate, if_neg hne]
  have hcode := hseg last done hraw (.inl rfl)
  rw [List.replicate_zero, List.append_nil] at hcode
  rw [encodeLongSequence, if_neg hlt, if_neg hne, if_pos hfew]
  exact hcode

/-- Four to fifteen repeats: the first is a raw byte, the others are its run. -/
theorem longCoded_of_some {run : ℕ} {last : UInt8} (hlt : ¬ 16 ≤ run) (hne : ¬ run = 0)
    (hmany : ¬ run ≤ 3) (hseg : SegmentCoded [last] (run - 1)) : LongCoded run last := by
  intro done _
  have hcode := hseg last done rfl (.inr (by omega))
  rw [List.append_assoc, List.singleton_append, ← List.replicate_succ,
    show run - 1 + 1 = run by omega] at hcode
  rw [encodeLongSequence, if_neg hlt, if_neg hne, if_neg hmany]
  exact hcode

/-- The two functions that cut runs, together. -/
theorem coded_all :
    (∀ raw run, SegmentCoded raw run) ∧ ∀ run last, LongCoded run last := by
  apply encodeSegment.mutual_induct
  · intro run last done hlast
    cases hlast
  · intro raw run hne hlong hfront hback
    exact segmentCoded_of_many hne hlong hfront hback
  · intro raw run hne hshort hmore
    exact segmentCoded_of_few hne hshort hmore
  · intro run last hge current hrest
    exact longCoded_of_ge hge hrest
  · intro last _ done _
    rw [encodeLongSequence, if_neg (by decide), if_pos rfl, List.replicate_zero, List.append_nil]
    exact .nil done
  · intro run last hlt hne hfew hseg
    exact longCoded_of_few hlt hne hfew hseg
  · intro run last hlt hne hmany hseg
    exact longCoded_of_some hlt hne hmany hseg

/-- `encode_segment` codes what it is given. -/
theorem encodeSegment_codes {raw : List UInt8} {run : ℕ} {last : UInt8} (done : List UInt8)
    (hlast : raw.getLast? = some last) (hrun : run = 0 ∨ 3 ≤ run) :
    Codes planarControl done (encodeSegment raw run) (done ++ raw ++ List.replicate run last) :=
  coded_all.1 raw run last done hlast hrun

/-! ### Scanlines -/

/-- What the loop over a scanline keeps: the bytes read so far are those coded in
the output, the raw bytes kept back, and the repeats counted of the last of them. -/
def Scan.Coded (s : Scan) (read : List UInt8) : Prop :=
  s.raw.getLast? = some s.last ∧
    ∃ done, Codes planarControl [] s.output done ∧
      done ++ s.raw ++ List.replicate s.count s.last = read

/-- What `Scan.endRun` does to a run of any length: nothing is left to repeat. -/
theorem Scan.Coded.endRun {s : Scan} {read : List UInt8} (h : s.Coded read) :
    ∃ done, Codes planarControl [] s.endRun.output done ∧ done ++ s.endRun.raw = read := by
  obtain ⟨hlast, done, hcodes, hread⟩ := h
  unfold Scan.endRun
  split
  · next hcount =>
      rw [hcount, List.replicate_zero, List.append_nil] at hread
      exact ⟨done, hcodes, hread⟩
  · next hcount =>
      rw [hcount, List.append_assoc] at hread
      exact ⟨done, hcodes, hread⟩
  · next hcount =>
      rw [hcount, List.append_assoc] at hread
      exact ⟨done, hcodes, hread⟩
  · next h₀ h₁ h₂ =>
      have hcount : 3 ≤ s.count := by
        by_contra hlt
        have hcases : s.count = 0 ∨ s.count = 1 ∨ s.count = 2 := by omega
        rcases hcases with h | h | h
        · exact h₀ h
        · exact h₁ h
        · exact h₂ h
      refine ⟨_, hcodes.append (encodeSegment_codes done hlast (.inr hcount)), ?_⟩
      rw [List.append_nil]
      exact hread

/-- One byte. -/
theorem Scan.Coded.next {s : Scan} {read : List UInt8} (h : s.Coded read) (byte : UInt8) :
    (s.next byte).Coded (read ++ [byte]) := by
  unfold Scan.next
  split
  · next hbyte =>
      obtain ⟨hlast, done, hcodes, hread⟩ := h
      refine ⟨hlast, done, hcodes, ?_⟩
      show done ++ s.raw ++ List.replicate (s.count + 1) s.last = read ++ [byte]
      rw [List.replicate_succ', ← List.append_assoc, hread, hbyte]
  · obtain ⟨done, hcodes, hread⟩ := h.endRun
    refine ⟨List.getLast?_concat, done, hcodes, ?_⟩
    show done ++ (s.endRun.raw ++ [byte]) ++ List.replicate 0 byte = read ++ [byte]
    rw [List.replicate_zero, List.append_nil, ← List.append_assoc, hread]

/-- All the bytes. -/
theorem Scan.Coded.foldl {s : Scan} {read : List UInt8} (h : s.Coded read) (bytes : List UInt8) :
    (bytes.foldl Scan.next s).Coded (read ++ bytes) := by
  induction bytes generalizing s read with
  | nil =>
      rw [List.append_nil]
      exact h
  | cons byte bytes ih =>
      rw [List.foldl_cons, List.append_cons]
      exact ih (h.next byte)

theorem Scan.Coded.finish {s : Scan} {read : List UInt8} (h : s.Coded read) :
    Codes planarControl [] s.finish read := by
  obtain ⟨hlast, done, hcodes, hread⟩ := h
  unfold Scan.finish
  split
  · next hcount =>
      have hcode := encodeSegment_codes done (getLast?_append_replicate s.count hlast) (.inl rfl)
      rw [List.replicate_zero, List.append_nil, ← List.append_assoc, hread] at hcode
      exact hcodes.append hcode
  · next hcount =>
      have hcode := encodeSegment_codes done hlast (.inr (Nat.le_of_not_lt hcount))
      rw [hread] at hcode
      exact hcodes.append hcode

/-- `encode_rle_scanline` codes its scanline. -/
theorem encodeRleScanline_codes (input : List UInt8) :
    Codes planarControl [] (encodeRleScanline input) input := by
  rcases input with - | ⟨first, iter⟩
  · exact .nil []
  · have hstart : Scan.Coded ⟨[first], first, 0, []⟩ [first] := ⟨rfl, [], .nil [], rfl⟩
    exact (hstart.foldl iter).finish

/-! ### Planes -/

section Planes

variable {width : ℕ} {t : Fin 4 → ℕ → UInt8} {p : Fin 4}

theorem length_planeRow (d : ℕ → UInt8) (y : ℕ) : (planeRow width d y).length = width := by
  rw [planeRow, List.length_map, List.length_range]

/-- The first row is literal. -/
theorem planeRow_first : planeRow width (deltaByte width t p) 0 = planeRow width (t p) 0 := by
  apply List.map_congr_left
  intro x hx
  rw [List.mem_range] at hx
  rw [deltaByte, if_pos (by omega)]

/-- A later row is the one above it with its deltas added. -/
theorem zipWith_planeRow (y : ℕ) :
    List.zipWith addDelta (planeRow width (t p) y)
      (planeRow width (deltaByte width t p) (y + 1)) = planeRow width (t p) (y + 1) := by
  rw [planeRow, planeRow, planeRow, List.zipWith_map, List.zipWith_self]
  apply List.map_congr_left
  intro x hx
  have habove : (y + 1) * width + x - width = y * width + x := by
    rw [Nat.succ_mul]
    omega
  have hge : ¬ (y + 1) * width + x < width := by
    rw [Nat.succ_mul]
    omega
  rw [deltaByte, if_neg hge, habove, addDelta_zigZagEncode]

/-- The code of rows `y`, …, `y + height - 1` is decoded to them. -/
theorem decodeRows_planeRows (height y : ℕ) (rest : List UInt8) :
    decodeRows width height (if y = 0 then none else some (planeRow width (t p) (y - 1)))
      (((List.range' y height).flatMap fun y =>
        encodeRleScanline (planeRow width (deltaByte width t p) y)) ++ rest) =
      some ((List.range' y height).map (planeRow width (t p)), rest) := by
  induction height generalizing y with
  | zero => rfl
  | succ height ih =>
      have hline := fill_of_codes
        (encodeRleScanline_codes (planeRow width (deltaByte width t p) y)) (length_planeRow _ _)
        (((List.range' (y + 1) height).flatMap fun y =>
          encodeRleScanline (planeRow width (deltaByte width t p) y)) ++ rest)
      have hrest := ih (y + 1)
      rw [if_neg (Nat.succ_ne_zero y), Nat.add_sub_cancel] at hrest
      rw [List.range'_succ, List.flatMap_cons, List.append_assoc, List.map_cons, decodeRows, hline]
      simp only [bind, Option.bind]
      rcases y with - | y
      · rw [if_pos rfl]
        simp only [planeRow_first]
        rw [hrest]
      · rw [if_neg (Nat.succ_ne_zero y), Nat.add_sub_cancel]
        simp only [zipWith_planeRow]
        rw [hrest]

/-- A whole plane. -/
theorem decodeRows_plane (height : ℕ) (rest : List UInt8) :
    decodeRows width height none (((List.range height).flatMap fun y =>
      encodeRleScanline (planeRow width (deltaByte width t p) y)) ++ rest) =
      some ((List.range height).map (planeRow width (t p)), rest) := by
  have h : decodeRows width height (if 0 = 0 then none else some (planeRow width (t p) (0 - 1)))
      (((List.range' 0 height).flatMap fun y =>
        encodeRleScanline (planeRow width (deltaByte width t p) y)) ++ rest) =
      some ((List.range' 0 height).map (planeRow width (t p)), rest) :=
    decodeRows_planeRows height 0 rest
  rwa [if_pos rfl, ← List.range_eq_range'] at h

/-- The pixels of a row. -/
theorem zipRow_planeRow (y : ℕ) :
    zipRow (planeRow width (t 1) y) (planeRow width (t 2) y) (planeRow width (t 3) y) =
      (List.range width).map fun x =>
        ⟨t 1 (y * width + x), t 2 (y * width + x), t 3 (y * width + x)⟩ := by
  rw [zipRow, planeRow, planeRow, planeRow, List.zipWith_map, List.zipWith_self,
    List.zipWith_map, List.zipWith_self]

end Planes

/-! ### The round trip -/

/-- The R, G and B bytes of a BGRX bitmap whose rows are `stride` bytes apart. -/
def bitmapRgb (bgraData : List UInt8) (width height stride : ℕ) : List (List Rgb) :=
  (List.range height).map fun y => (List.range width).map fun x =>
    { r := bgraData.getD (y * stride + x * 4 + 2) 0
      g := bgraData.getD (y * stride + x * 4 + 1) 0
      b := bgraData.getD (y * stride + x * 4) 0 }

/-- The planes of a bitmap decode to its pixels. -/
theorem decodePlanar_planes (bgraData : List UInt8) (width height stride : ℕ) :
    decodePlanar width height (0x30 :: [1, 2, 3].flatMap fun p =>
      (List.range height).flatMap fun y => encodeRleScanline
        (planeRow width (deltaByte width (planeByte bgraData width stride) p) y)) =
      some (bitmapRgb bgraData width height stride, []) := by
  rw [decodePlanar, if_pos rfl]
  simp only [List.flatMap_cons, List.flatMap_nil, decodeRows_plane, bind, Option.bind]
  rw [List.zipWith_map, List.zipWith_self, List.zipWith_map, List.zipWith_self]
  congr 2
  apply List.map_congr_left
  intro y _
  rw [zipRow_planeRow]
  apply List.map_congr_left
  intro x hx
  have hy := RowMajor.div_index (List.mem_range.mp hx) y
  have hx := Nat.mul_add_mod_of_lt (a := y) (List.mem_range.mp hx)
  simp only [planeByte, hy, hx]
  rfl

/-- The bytes from one row of the bitmap to the next. -/
def bytesPerRow (width scanline : ℕ) : ℕ := if scanline = 0 then width * 4 else scanline

/-- **Planar round trip**: whatever the working buffers of the encoder hold, a
bitmap whose rows the buffer holds is encoded without a panic, and the bytes
decode to exactly its R, G and B bytes, with nothing left over.  The rows may be
padded (and even overlap). -/
theorem planar_round_trip (e : PlanarEncoder) (bgraData : List UInt8)
    (width height scanline : ℕ) (hheight : 1 ≤ height)
    (hlen : (height - 1) * bytesPerRow width scanline + 4 * width ≤ bgraData.length) :
    ∃ e' output, e.encode bgraData width height scanline = some (e', output) ∧
      decodePlanar width height output =
        some (bitmapRgb bgraData width height (bytesPerRow width scanline), []) := by
  have hin : ∀ y < height, ∀ x < width,
      y * bytesPerRow width scanline + x * 4 + 3 < bgraData.length := by
    intro y hy x hx
    have hrow := Nat.mul_le_mul_right (bytesPerRow width scanline) (show y ≤ height - 1 by omega)
    omega
  obtain ⟨e', he'⟩ := encode_spec (e := e) hheight rfl hin
  exact ⟨e', _, he', decodePlanar_planes bgraData width height _⟩

/-- A 3x2 bitmap with padded rows, whose second row differs from the first by a
zero, a difference of -128 and one of 1 in the blue plane. -/
theorem planar_round_trip_padded :
    ∃ e' output,
      (PlanarEncoder.new 1 1).encode
        [0, 1, 2, 3, 128, 1, 2, 3, 7, 1, 2, 3, 9,
          0, 1, 2, 3, 0, 1, 2, 3, 8, 1, 2, 3] 3 2 13 = some (e', output) ∧
      decodePlanar 3 2 output =
        some ([[⟨2, 1, 0⟩, ⟨2, 1, 128⟩, ⟨2, 1, 7⟩], [⟨2, 1, 0⟩, ⟨2, 1, 0⟩, ⟨2, 1, 8⟩]], []) :=
  planar_round_trip (PlanarEncoder.new 1 1) _ 3 2 13 (by decide) (by decide)

end LamcoRdp
