/-
LamcoRdp/Audio/AdpcmBlocks.lean

The size of an ADPCM block (`audio/codecs/adpcm.rs`).

`block_size` counts the nibbles of all channels together and rounds up to bytes, and
so does the mono loop.  The stereo loop fills up every group of four samples of each
channel: a block whose samples after the header are no whole groups is longer than
`block_size` says, and the output of `encode` cannot be cut at its multiples
(`splits_back_iff`).
-/
import LamcoRdp.Audio.AdpcmLockStep

namespace LamcoRdp

open Chunks AdpcmChannelState

namespace AdpcmEncoder

variable {e : AdpcmEncoder} {pcm : List Int16}

/-! ### One block -/

/-- A block is a header and a byte for every two of the other samples. -/
theorem length_encodeBlock_mono (hmono : e.channels = 1) (hpos : 0 < pcm.length) :
    (e.encodeBlock pcm).2.length = 4 + pcm.length / 2 := by
  obtain ⟨first, rest, rfl⟩ := List.exists_cons_of_length_pos hpos
  rw [encodeBlock_mono hmono, List.length_append, length_pass, length_chunks]
  rfl

/-- A block is a header for each channel and four bytes for every eight of the other samples. -/
theorem length_encodeBlock_stereo (hstereo : e.channels = 2) (hlength : 2 ≤ pcm.length) :
    (e.encodeBlock pcm).2.length = 8 + (pcm.length + 5) / 8 * 4 := by
  match pcm, hlength with
  | firstLeft :: firstRight :: rest, _ =>
      rw [encodeBlock_stereo hstereo, List.length_append,
        length_flatten (mem_pass length_encodeGroup _ _), length_pass, length_chunks]
      rfl

theorem blockSize_eq (e : AdpcmEncoder) :
    e.blockSize = 4 * e.channels + ((e.samplesPerBlock - 1) * e.channels + 1) / 2 := rfl

/-- `block_size` of the samples of a whole block: right for mono, and for whole groups. -/
theorem WellFormed.length_encodeBlock_iff (he : e.WellFormed) (hsamples : 1 ≤ e.samplesPerBlock)
    (hlength : pcm.length = e.samplesPerBlock * e.channels) :
    (e.encodeBlock pcm).2.length = e.blockSize ↔
      e.channels = 1 ∨ (e.samplesPerBlock - 1) % 4 = 0 := by
  rw [blockSize_eq]
  rcases he.channels with hmono | hstereo
  · -- both sides round the nibbles of one channel up
    rw [hmono] at hlength ⊢
    rw [length_encodeBlock_mono hmono (by omega), hlength]
    omega
  · -- groups of eight nibbles against pairs
    rw [hstereo] at hlength ⊢
    rw [length_encodeBlock_stereo hstereo (by omega), hlength]
    omega

/-! ### The blocks of an input -/

/-- The encoder before block number `k`. -/
def beforeBlock (e : AdpcmEncoder) (pcm : List Int16) (k : ℕ) : AdpcmEncoder :=
  (pass encodeBlock e ((chunks (e.samplesPerBlock * e.channels) pcm).take k)).1

/-- Block number `k` of the output of `encode`, by the size of a block. -/
def piece (e : AdpcmEncoder) (pcm : List Int16) (k : ℕ) : List UInt8 :=
  ((e.encode pcm).2.drop (k * e.blockSize)).take e.blockSize

/-- Every block takes `block_size` bytes, and cut at the multiples of `block_size` the output
of `encode` is again its blocks, which decode to their samples. -/
def SplitsBack (e : AdpcmEncoder) (pcm : List Int16) : Prop :=
  ∀ k block, (chunks (e.samplesPerBlock * e.channels) pcm)[k]? = some block →
    ((e.beforeBlock pcm k).encodeBlock block).2.length = e.blockSize ∧
      e.piece pcm k = ((e.beforeBlock pcm k).encodeBlock block).2 ∧
      ∀ d : AdpcmDecoder, d.channels = e.channels →
        (d.decodeBlock (e.piece pcm k)).2.take block.length
          = (e.beforeBlock pcm k).reconstructed block

/-- Blocks leave an encoder well-formed, and its configuration alone. -/
theorem WellFormed.beforeBlock (he : e.WellFormed) (pcm : List Int16) (k : ℕ) :
    (e.beforeBlock pcm k).WellFormed ∧ (e.beforeBlock pcm k).channels = e.channels ∧
      (e.beforeBlock pcm k).samplesPerBlock = e.samplesPerBlock := by
  refine pass_invariant (I := fun s : AdpcmEncoder => s.WellFormed ∧ s.channels = e.channels ∧
    s.samplesPerBlock = e.samplesPerBlock) ?_ ⟨he, rfl, rfl⟩
  rintro s block ⟨hs, hchannels, hsamples⟩
  obtain ⟨h1, h2, h3⟩ := hs.encodeBlock block
  exact ⟨h1, h2.trans hchannels, h3.trans hsamples⟩

theorem blockSize_congr {e' : AdpcmEncoder} (hchannels : e'.channels = e.channels)
    (hsamples : e'.samplesPerBlock = e.samplesPerBlock) : e'.blockSize = e.blockSize := by
  rw [blockSize_eq, blockSize_eq, hchannels, hsamples]

/-- What `encode_block` makes of block number `k`. -/
theorem getElem?_blocks (e : AdpcmEncoder) (pcm : List Int16) (k : ℕ) :
    (pass encodeBlock e (chunks (e.samplesPerBlock * e.channels) pcm)).2[k]? =
      (chunks (e.samplesPerBlock * e.channels) pcm)[k]?.map fun block =>
        ((e.beforeBlock pcm k).encodeBlock block).2 :=
  getElem?_pass

/-- If every block takes `block_size` bytes, they begin at the multiples of `block_size`. -/
theorem piece_eq
    (hblocks : ∀ k block, (chunks (e.samplesPerBlock * e.channels) pcm)[k]? = some block →
      ((e.beforeBlock pcm k).encodeBlock block).2.length = e.blockSize)
    {k : ℕ} {block : List Int16}
    (hk : (chunks (e.samplesPerBlock * e.channels) pcm)[k]? = some block) :
    e.piece pcm k = ((e.beforeBlock pcm k).encodeBlock block).2 := by
  refine take_drop_flatten (L := (pass encodeBlock e (chunks _ pcm)).2) ?_ ?_
  · intro bytes hbytes
    obtain ⟨j, hj⟩ := List.mem_iff_getElem?.mp hbytes
    rw [getElem?_blocks] at hj
    obtain ⟨b, hb, rfl⟩ := Option.map_eq_some_iff.mp hj
    exact hblocks j b hb
  · rw [getElem?_blocks, hk]
    rfl

theorem WellFormed.block_pos (he : e.WellFormed) (hsamples : 1 ≤ e.samplesPerBlock) :
    0 < e.samplesPerBlock * e.channels := by
  rcases he.channels with h | h <;> rw [h] <;> omega

/-- The blocks of whole blocks of samples all take `block_size` bytes, or none does. -/
theorem WellFormed.length_block_iff (he : e.WellFormed) (hsamples : 1 ≤ e.samplesPerBlock)
    (hwhole : e.samplesPerBlock * e.channels ∣ pcm.length) {k : ℕ} {b : List Int16}
    (hk : (chunks (e.samplesPerBlock * e.channels) pcm)[k]? = some b) :
    b.length = e.samplesPerBlock * e.channels ∧
      (((e.beforeBlock pcm k).encodeBlock b).2.length = e.blockSize ↔
        e.channels = 1 ∨ (e.samplesPerBlock - 1) % 4 = 0) := by
  obtain ⟨hwf, hchannels, hsame⟩ := he.beforeBlock pcm k
  have hlength := length_of_mem_chunks (he.block_pos hsamples) hwhole (List.mem_of_getElem? hk)
  refine ⟨hlength, ?_⟩
  rw [← blockSize_congr hchannels hsame, ← hchannels, ← hsame]
  exact hwf.length_encodeBlock_iff (hsame ▸ hsamples) (by rw [hchannels, hsame, hlength])

/-- The same for an encoder in any state that keeps the invariant. -/
theorem WellFormed.splitsBack_iff (he : e.WellFormed) (hsamples : 1 ≤ e.samplesPerBlock)
    (hwhole : e.samplesPerBlock * e.channels ∣ pcm.length) :
    e.SplitsBack pcm ↔ pcm = [] ∨ e.channels = 1 ∨ (e.samplesPerBlock - 1) % 4 = 0 := by
  constructor
  · intro hsplits
    rcases Nat.eq_zero_or_pos pcm.length with hzero | hpos
    · exact .inl (List.length_eq_zero_iff.mp hzero)
    · -- the first block decides
      obtain ⟨block, hblock⟩ := exists_first_chunk (he.block_pos hsamples) hpos
      exact .inr ((he.length_block_iff hsamples hwhole hblock).2.mp (hsplits 0 block hblock).1)
  · rintro (rfl | hcond) k block hk
    · rw [chunks_nil] at hk
      cases hk
    · have hblocks := fun j b hj =>
        (he.length_block_iff hsamples hwhole (k := j) (b := b) hj).2.mpr hcond
      have hpiece := piece_eq hblocks hk
      refine ⟨hblocks k block hk, hpiece, fun d hd => ?_⟩
      obtain ⟨hwf, hchannels, -⟩ := he.beforeBlock pcm k
      rw [hpiece]
      refine hwf.decodeBlock_encodeBlock (hd.trans hchannels.symm) ?_
      rw [hchannels, (he.length_block_iff hsamples hwhole hk).1]
      exact Nat.le_mul_of_pos_left _ hsamples

/-- **Input of whole blocks can be taken apart at the multiples of `block_size` exactly if
there is none of it, or it is mono, or the samples after the header of a block are whole
groups of four.**  So it is with 1017 samples a block, the default. -/
theorem splits_back_iff {channels samplesPerBlock : ℕ} {e₀ : AdpcmEncoder}
    (hnew : AdpcmEncoder.new channels samplesPerBlock = some e₀) (hsamples : 1 ≤ samplesPerBlock)
    (calls : List Call) (pcm : List Int16) (hwhole : samplesPerBlock * channels ∣ pcm.length) :
    (calls.foldl call e₀).SplitsBack pcm ↔
      pcm = [] ∨ channels = 1 ∨ (samplesPerBlock - 1) % 4 = 0 := by
  obtain ⟨hwf, hchannels, hsame⟩ := (WellFormed.new hnew).calls calls
  obtain ⟨hnewChannels, hnewSamples⟩ := channels_of_new hnew
  obtain rfl := hchannels.trans hnewChannels
  obtain rfl := hsame.trans hnewSamples
  exact hwf.splitsBack_iff hsamples hwhole

/-- Two blocks of the default size. -/
theorem splits_back_default :
    (⟨.new, .new, 2, 1017⟩ : AdpcmEncoder).SplitsBack (List.replicate 4068 0) :=
  (splits_back_iff (show AdpcmEncoder.new 2 1017 = some ⟨.new, .new, 2, 1017⟩ from rfl)
    (by decide) [] (List.replicate 4068 0) ⟨2, List.length_replicate⟩).mpr (.inr (.inr rfl))

/-- A stereo block of two samples a channel takes twelve bytes, where `block_size` is nine. -/
theorem stereo_block_exceeds_block_size :
    AdpcmEncoder.new 2 2 = some ⟨.new, .new, 2, 2⟩ ∧
      ((⟨.new, .new, 2, 2⟩ : AdpcmEncoder).encodeBlock [0, 0, 0, 0]).2.length = 12 ∧
      (⟨.new, .new, 2, 2⟩ : AdpcmEncoder).blockSize = 9 ∧
      ¬ (⟨.new, .new, 2, 2⟩ : AdpcmEncoder).SplitsBack [0, 0, 0, 0, 0, 0, 0, 0] := by
  refine ⟨rfl, rfl, rfl, fun hsplits => ?_⟩
  obtain ⟨hlength, -⟩ := hsplits 0 [0, 0, 0, 0] rfl
  exact absurd hlength (by decide)

end AdpcmEncoder

end LamcoRdp
