/-
LamcoRdp/Audio/Adpcm.lean

The IMA ADPCM codec (`audio/codecs/adpcm.rs`).

A sample is coded in four bits, as its difference from what the decoder predicts.
`encode_sample` and `decode_sample` are written for any rule about overflows
(`Signed16.Arith`); blocks are coded under the rule of a release build, where
arithmetic wraps.

The loops of `encode_block` over pairs of samples (mono) and over groups of four
samples of each channel (stereo) are passes over the pieces of the samples after
the header; so are the loops of `decode_block` over the bytes.  `encode_block` uses
`block_size` only as the capacity of its output, and reserving memory is not
modelled.
-/
import LamcoRdp.Lib.Chunks
import LamcoRdp.Lib.Signed16

namespace LamcoRdp

open Chunks Signed16

/-! ### Tables and state -/

/-- `INDEX_TABLE`. -/
def indexTable : List ℤ := [-1, -1, -1, -1, 2, 4, 6, 8, -1, -1, -1, -1, 2, 4, 6, 8]

/-- `STEP_SIZE_TABLE`. -/
def stepSizeTable : List Int16 := [
  7, 8, 9, 10, 11, 12, 13, 14, 16, 17, 19, 21, 23, 25, 28, 31, 34, 37, 41, 45, 50, 55, 60, 66,
  73, 80, 88, 97, 107, 118, 130, 143, 157, 173, 190, 209, 230, 253, 279, 307, 337, 371, 408, 449,
  494, 544, 598, 658, 724, 796, 876, 963, 1060, 1166, 1282, 1411, 1552, 1707, 1878, 2066, 2272,
  2499, 2749, 3024, 3327, 3660, 4026, 4428, 4871, 5358, 5894, 6484, 7132, 7845, 8630, 9493,
  10442, 11487, 12635, 13899, 15289, 16818, 18500, 20350, 22385, 24623, 27086, 29794, 32767]

/-- `STEP_SIZE_TABLE[step_index]`; every index that occurs is in range (`Valid`). -/
def stepSize (stepIndex : ℕ) : Int16 := stepSizeTable.getD stepIndex 0

/-- The state of a channel: the predicted sample, and the index of the step size. -/
structure AdpcmChannelState where
  predictor : Int16
  stepIndex : ℕ
  deriving DecidableEq, Repr

namespace AdpcmChannelState

/-- `AdpcmChannelState::new`, and what `reset` leaves. -/
def new : AdpcmChannelState := ⟨0, 0⟩

/-- `set_state`. -/
def setState (predictor : Int16) (stepIndex : ℕ) : AdpcmChannelState :=
  ⟨predictor, min stepIndex 88⟩

/-- The step index is one of the table. -/
def Valid (s : AdpcmChannelState) : Prop := s.stepIndex ≤ 88

/-- `(step_index as i8 + index_delta).clamp(0, 88) as u8`, with the delta of a nibble. -/
def nextIndex (stepIndex : ℕ) (nibble : UInt8) : ℕ :=
  (max 0 (min ((stepIndex : ℤ) + indexTable.getD nibble.toNat 0) 88)).toNat

theorem nextIndex_le (stepIndex : ℕ) (nibble : UInt8) : nextIndex stepIndex nibble ≤ 88 := by
  unfold nextIndex
  omega

end AdpcmChannelState

open AdpcmChannelState

/-! ### Samples -/

section Samples

variable {m : Type → Type} [Monad m] [Arith m]

/-- `if bits != 0 { acc += summand }`. -/
def addIf (bits : UInt8) (acc summand : Int16) : m Int16 :=
  if bits ≠ 0 then Arith.add acc summand else pure acc

/-- One comparison of the successive approximation: set the bit and subtract. -/
def approximate (bit nibble : UInt8) (diff delta : Int16) : m (UInt8 × Int16) :=
  if diff ≥ delta then do
    let diff ← Arith.sub diff delta
    pure (nibble ||| bit, diff)
  else pure (nibble, diff)

/-- The successive approximation of `encode_sample`. -/
def quantize (step diff : Int16) : m UInt8 := do
  let delta := step
  let (nibble, diff) ← approximate 4 0 diff delta
  let delta := delta >>> 1
  let (nibble, diff) ← approximate 2 nibble diff delta
  let delta := delta >>> 1
  -- nothing is subtracted after the last comparison
  pure (if diff ≥ delta then nibble ||| 1 else nibble)

/-- The update at the end of `encode_sample`, with the decoded value, to match the decoder. -/
def updateState (state : AdpcmChannelState) (sign nibble : UInt8) : m AdpcmChannelState := do
  let step := stepSize state.stepIndex
  let diffDecoded := step >>> 3
  let diffDecoded ← addIf (nibble &&& 4) diffDecoded step
  let diffDecoded ← addIf (nibble &&& 2) diffDecoded (step >>> 1)
  let diffDecoded ← addIf (nibble &&& 1) diffDecoded (step >>> 2)
  let predictor :=
    if sign ≠ 0 then saturatingSub state.predictor diffDecoded
    else saturatingAdd state.predictor diffDecoded
  let predictor := max (-32768) (min predictor 32767)
  pure ⟨predictor, nextIndex state.stepIndex nibble⟩

/-- `encode_sample`. -/
def encodeSample (state : AdpcmChannelState) (sample : Int16) : m (AdpcmChannelState × UInt8) := do
  let step := stepSize state.stepIndex
  let diff := saturatingSub sample state.predictor
  let sign : UInt8 := if diff < 0 then 8 else 0
  let diff ← Arith.abs diff
  let nibble ← quantize step diff
  let nibble := nibble ||| sign
  let state ← updateState state sign nibble
  pure (state, nibble)

/-- `decode_sample`, which returns the predictor it leaves. -/
def decodeSample (state : AdpcmChannelState) (nibble : UInt8) : m (AdpcmChannelState × Int16) := do
  let step := stepSize state.stepIndex
  let diff := step >>> 3
  let diff ← addIf (nibble &&& 4) diff step
  let diff ← addIf (nibble &&& 2) diff (step >>> 1)
  let diff ← addIf (nibble &&& 1) diff (step >>> 2)
  let predictor :=
    if nibble &&& 8 ≠ 0 then saturatingSub state.predictor diff
    else saturatingAdd state.predictor diff
  let predictor := max (-32768) (min predictor 32767)
  pure (⟨predictor, nextIndex state.stepIndex nibble⟩, predictor)

end Samples

/-! ### Encoding blocks -/

/-- `to_le_bytes`. -/
def toLeBytes (x : Int16) : List UInt8 :=
  [.ofBitVec (x.toBitVec.extractLsb' 0 8), .ofBitVec (x.toBitVec.extractLsb' 8 8)]

/-- `from_le_bytes`. -/
def fromLeBytes (lo hi : UInt8) : Int16 := .ofBitVec (hi.toBitVec ++ lo.toBitVec)

/-- The header of a channel: predictor, step index, and a reserved byte. -/
def blockHeader (s : AdpcmChannelState) : List UInt8 :=
  toLeBytes s.predictor ++ [s.stepIndex.toUInt8, 0]

/-- A nibble for a sample, and zero where there is none. -/
def encodeNext (s : AdpcmChannelState) : Option Int16 → AdpcmChannelState × UInt8
  | some sample => Id.run (encodeSample s sample)
  | none => (s, 0)

/-- Two nibbles in a byte. -/
def packNibbles (lo hi : UInt8) : UInt8 := lo ||| (hi <<< 4)

/-- The mono loop: a byte for every two samples. -/
def encodePair (s : AdpcmChannelState) (pair : List Int16) : AdpcmChannelState × UInt8 :=
  let (s, nibble1) := encodeNext s pair[0]?
  let (s, nibble2) := encodeNext s pair[1]?
  (s, packNibbles nibble1 nibble2)

/-- The two bytes of a channel's four samples in a group. -/
def encodeQuad (s : AdpcmChannelState) (sample : ℕ → Option Int16) :
    AdpcmChannelState × List UInt8 :=
  let (s, n0) := encodeNext s (sample 0)
  let (s, n1) := encodeNext s (sample 1)
  let (s, n2) := encodeNext s (sample 2)
  let (s, n3) := encodeNext s (sample 3)
  (s, [packNibbles n0 n1, packNibbles n2 n3])

/-- The stereo loop: four bytes for every group of eight samples, four of each channel. -/
def encodeGroup (s : AdpcmChannelState × AdpcmChannelState) (group : List Int16) :
    (AdpcmChannelState × AdpcmChannelState) × List UInt8 :=
  let (left, leftBytes) := encodeQuad s.1 fun j => group[j * 2]?
  let (right, rightBytes) := encodeQuad s.2 fun j => group[1 + j * 2]?
  ((left, right), leftBytes ++ rightBytes)

/-- `AdpcmEncoder`, without the block buffer that its calls fill and empty. -/
structure AdpcmEncoder where
  left : AdpcmChannelState
  right : AdpcmChannelState
  channels : ℕ
  samplesPerBlock : ℕ

namespace AdpcmEncoder

/-- `AdpcmEncoder::new`, which asserts one or two channels. -/
def new (channels samplesPerBlock : ℕ) : Option AdpcmEncoder :=
  if channels = 1 ∨ channels = 2 then some ⟨.new, .new, channels, samplesPerBlock⟩ else none

/-- `block_size`. -/
def blockSize (e : AdpcmEncoder) : ℕ :=
  let headerSize := 4 * e.channels
  let dataSamples := e.samplesPerBlock - 1
  let dataSize := (dataSamples * e.channels + 1) / 2
  headerSize + dataSize

/-- `reset`. -/
def reset (e : AdpcmEncoder) : AdpcmEncoder := { e with left := .new, right := .new }

/-- `encode_block`. -/
def encodeBlock (e : AdpcmEncoder) (pcm : List Int16) : AdpcmEncoder × List UInt8 :=
  if e.channels = 1 then
    match pcm with
    | first :: rest =>
        let left := { e.left with predictor := first }
        let header := blockHeader left
        let (left, bytes) := pass encodePair left (chunks 2 rest)
        ({ e with left }, header ++ bytes)
    | [] => (e, [])
  else
    match pcm with
    | firstLeft :: firstRight :: rest =>
        let left := { e.left with predictor := firstLeft }
        let right := { e.right with predictor := firstRight }
        let header := blockHeader left ++ blockHeader right
        -- the last group may be short: nibble zero where there is no sample
        let ((left, right), groups) := pass encodeGroup (left, right) (chunks 8 rest)
        ({ e with left, right }, header ++ groups.flatten)
    | _ => (e, [])

/-- `encode`. -/
def encode (e : AdpcmEncoder) (pcm : List Int16) : AdpcmEncoder × List UInt8 :=
  let (e, blocks) := pass encodeBlock e (chunks (e.samplesPerBlock * e.channels) pcm)
  (e, blocks.flatten)

end AdpcmEncoder

/-! ### Decoding blocks -/

/-- The two samples in a byte. -/
def decodeByte (s : AdpcmChannelState) (byte : UInt8) : AdpcmChannelState × List Int16 :=
  let (s, sample1) := Id.run (decodeSample s (byte &&& 0x0F))
  let (s, sample2) := Id.run (decodeSample s (byte >>> 4))
  (s, [sample1, sample2])

/-- The eight samples in four bytes, interleaved. -/
def decodeGroup (s : AdpcmChannelState × AdpcmChannelState) (bytes : List UInt8) :
    (AdpcmChannelState × AdpcmChannelState) × List Int16 :=
  let (left, lefts) := pass decodeByte s.1 [bytes.getD 0 0, bytes.getD 1 0]
  let (right, rights) := pass decodeByte s.2 [bytes.getD 2 0, bytes.getD 3 0]
  ((left, right), (List.zipWith (fun l r => [l, r]) lefts.flatten rights.flatten).flatten)

/-- `AdpcmDecoder`. -/
structure AdpcmDecoder where
  left : AdpcmChannelState
  right : AdpcmChannelState
  channels : ℕ

namespace AdpcmDecoder

/-- `AdpcmDecoder::new`. -/
def new (channels : ℕ) : AdpcmDecoder := ⟨.new, .new, channels⟩

/-- `decode_block`. -/
def decodeBlock (d : AdpcmDecoder) (data : List UInt8) : AdpcmDecoder × List Int16 :=
  if d.channels = 1 then
    match data with
    | p0 :: p1 :: stepIndex :: _ :: bytes =>
        let predictor := fromLeBytes p0 p1
        let (left, samples) := pass decodeByte (setState predictor stepIndex.toNat) bytes
        ({ d with left }, predictor :: samples.flatten)
    | _ => (d, [])
  else
    match data with
    | l0 :: l1 :: leftStep :: _ :: r0 :: r1 :: rightStep :: _ :: bytes =>
        let leftPredictor := fromLeBytes l0 l1
        let rightPredictor := fromLeBytes r0 r1
        let ((left, right), samples) := pass decodeGroup
          (setState leftPredictor leftStep.toNat, setState rightPredictor rightStep.toNat)
          -- fewer than four bytes at the end are ignored
          (chunksExact 4 bytes)
        ({ d with left, right }, leftPredictor :: rightPredictor :: samples.flatten)
    | _ => (d, [])

end AdpcmDecoder

end LamcoRdp
