/-
LamcoRdp/Server/PlanarHistory.lean

One planar encoder for many bitmaps.

The working buffers grow and are never cleared, so behind the planes of a bitmap lie
those of a larger one before it.  `encode_spec` gives the output for a bitmap whose rows
are in the buffer as a function of the bitmap alone; where a row is not, the first step
panics whatever the planes hold.  So nothing of an earlier bitmap reaches the output.
-/
import LamcoRdp.Lib.Runs
import LamcoRdp.Server.PlanarEncoder

namespace LamcoRdp

/-- The arguments of a call of `encode`. -/
structure PlanarBitmap where
  bgraData : List UInt8
  width : ℕ
  height : ℕ
  scanline : ℕ

namespace PlanarEncoder

/-- The call of `encode` for a bitmap. -/
def encodeBitmap (e : PlanarEncoder) (b : PlanarBitmap) : Option (PlanarEncoder × List UInt8) :=
  e.encode b.bgraData b.width b.height b.scanline

variable {bgraData : List UInt8} {width height stride x y : ℕ}

/-- A pixel that is not in the buffer cannot be split, whatever the planes hold. -/
theorem splitPixel_eq_none (hout : bgraData.length ≤ y * stride + x * 4 + 3) (e : PlanarEncoder) :
    splitPixel bgraData width stride y e x = none := by
  unfold splitPixel
  simp only [List.getElem?_eq_none hout, bind, Option.bind]
  split
  · rfl
  · split
    · rfl
    · split <;> rfl

/-- Neither can a bitmap with such a pixel. -/
theorem split_eq_none (hy : y < height) (hx : x < width)
    (hout : bgraData.length ≤ y * stride + x * 4 + 3) (e : PlanarEncoder) :
    split bgraData width height stride e = none := by
  refine Buffer.foldlM_eq_none (P := fun _ => True) (List.mem_range.mpr hy)
    (fun _ _ _ _ _ => trivial) (fun e _ => ?_) trivial
  exact Buffer.foldlM_eq_none (P := fun _ => True) (List.mem_range.mpr hx)
    (fun _ _ _ _ _ => trivial) (fun e _ => splitPixel_eq_none hout e) trivial

/-- What two encoders make of a bitmap is the same. -/
theorem encodeBitmap_output_eq {b : PlanarBitmap} (hh : 1 ≤ b.height) (e e' : PlanarEncoder) :
    (e.encodeBitmap b).map Prod.snd = (e'.encodeBitmap b).map Prod.snd := by
  by_cases hin : ∀ y < b.height, ∀ x < b.width,
      y * (if b.scanline = 0 then b.width * 4 else b.scanline) + x * 4 + 3 < b.bgraData.length
  · obtain ⟨f, hf⟩ := encode_spec (e := e) hh rfl hin
    obtain ⟨f', hf'⟩ := encode_spec (e := e') hh rfl hin
    rw [encodeBitmap, encodeBitmap, hf, hf', Option.map_some, Option.map_some]
  · push Not at hin
    obtain ⟨y, hy, x, hx, hout⟩ := hin
    have hnone : ∀ e : PlanarEncoder, e.encodeBitmap b = none := by
      intro e
      rw [encodeBitmap, encode]
      simp only [split_eq_none hy hx hout, bind, Option.bind]
    rw [hnone, hnone]

end PlanarEncoder

/-- **No history in the output**: one encoder, made for any size, that is given bitmaps of
any sizes and contents puts out for each what an encoder made just for it (of any size)
does, up to the first bitmap that is not in its buffer. -/
theorem planar_outputs_fresh (initial : ℕ × ℕ) (fresh : PlanarBitmap → ℕ × ℕ)
    (bitmaps : List PlanarBitmap) (hsize : ∀ b ∈ bitmaps, 1 ≤ b.width ∧ 1 ≤ b.height) :
    Runs.outputs PlanarEncoder.encodeBitmap (PlanarEncoder.new initial.1 initial.2) bitmaps =
      Runs.upToStop (bitmaps.map fun b =>
        ((PlanarEncoder.new (fresh b).1 (fresh b).2).encodeBitmap b).map Prod.snd) :=
  Runs.outputs_eq_upToStop
    (fun b hb _ => PlanarEncoder.encodeBitmap_output_eq (hsize b hb).2 _ _) _

/-- A large bitmap, a smaller one after it, and one that is not in its buffer. -/
theorem planar_outputs_fresh_shrinking :
    let bitmaps : List PlanarBitmap :=
      [⟨[1, 2, 3, 4, 5, 6, 7, 8, 9, 10, 11, 12, 13, 14, 15, 16], 2, 2, 0⟩,
        ⟨[5, 6, 7, 8], 1, 1, 4⟩, ⟨[1, 2, 3], 1, 1, 0⟩]
    Runs.outputs PlanarEncoder.encodeBitmap (PlanarEncoder.new 0 0) bitmaps =
      Runs.upToStop (bitmaps.map fun b =>
        ((PlanarEncoder.new b.width b.height).encodeBitmap b).map Prod.snd) :=
  planar_outputs_fresh (0, 0) (fun b => (b.width, b.height)) _ (by simp)

end LamcoRdp
