/-
LamcoRdp/Audio/AdpcmLockStep.lean

The ADPCM decoder follows the encoder (`audio/codecs/adpcm.rs`).

The encoder keeps for each channel what the decoder will predict.  A header sets
the decoder to the encoder's state, whatever it was before, and from there a
nibble takes both to the same state (`decodeSample_encodeSample`).  What is left is
that the two pairs of loops put the same nibbles in the same places; at the end of
a block, where a byte or a group is filled up with zeros, the decoder runs on, but
past the samples of the block (`decode_block_follows_encode_block`).

`encodeTurn` is the encoder without its bytes: the samples go to the channels in
turn, and for each of them the predictor comes out that the channel is left with.
-/
import LamcoRdp.Audio.Adpcm
import Mathlib.Tactic.FinCases

namespace LamcoRdp

open Chunks Signed16 AdpcmChannelState

/-! ### One sample -/

section Sample

variable {s : AdpcmChannelState} {nibble sign : UInt8}

/-- Three bits. -/
theorem quantize_cases (step diff : Int16) :
    Id.run (quantize step diff) ∈ ([0, 1, 2, 3, 4, 5, 6, 7] : List UInt8) := by
  unfold quantize approximate
  simp only [Id.run_bind, Id.run_pure]
  split <;> split <;> split <;> simp only [Id.run_bind, Id.run_pure] <;> decide

/-- The sign is the fourth bit. -/
theorem sign_bit (hnibble : nibble ∈ ([0, 1, 2, 3, 4, 5, 6, 7] : List UInt8))
    (hsign : sign = 0 ∨ sign = 8) :
    ((nibble ||| sign) &&& 8 ≠ 0 ↔ sign ≠ 0) ∧ nibble ||| sign < 16 := by
  rcases hsign with rfl | rfl
  · fin_cases hnibble <;> decide
  · fin_cases hnibble <;> decide

/-- The encoder's update is the decoder's. -/
theorem decodeSample_eq (hsign : nibble &&& 8 ≠ 0 ↔ sign ≠ 0) :
    Id.run (decodeSample s nibble)
      = (Id.run (updateState s sign nibble), (Id.run (updateState s sign nibble)).predictor) := by
  unfold decodeSample updateState
  simp only [hsign]
  rfl

/-- **A nibble takes the decoder where it took the encoder.** -/
theorem decodeSample_encodeSample (s : AdpcmChannelState) (sample : Int16) :
    Id.run (decodeSample s (Id.run (encodeSample s sample)).2)
        = ((Id.run (encodeSample s sample)).1, (Id.run (encodeSample s sample)).1.predictor) ∧
      (Id.run (encodeSample s sample)).2 < 16 := by
  have hnibble := quantize_cases (stepSize s.stepIndex)
    (Id.run (Arith.abs (saturatingSub sample s.predictor)))
  have hsign : (if saturatingSub sample s.predictor < 0 then 8 else 0) = (0 : UInt8) ∨
      (if saturatingSub sample s.predictor < 0 then 8 else 0) = (8 : UInt8) := by
    split
    · exact .inr rfl
    · exact .inl rfl
  obtain ⟨hbit, hlt⟩ := sign_bit hnibble hsign
  exact ⟨decodeSample_eq hbit, hlt⟩

/-- The same for a sample in a loop. -/
theorem decodeSample_encodeNext (s : AdpcmChannelState) (x : Int16) :
    Id.run (decodeSample s (encodeNext s (some x)).2)
      = ((encodeNext s (some x)).1, (encodeNext s (some x)).1.predictor) :=
  (decodeSample_encodeSample s x).1

theorem encodeNext_lt (s : AdpcmChannelState) (x : Option Int16) : (encodeNext s x).2 < 16 := by
  cases x with
  | none => exact (show (0 : UInt8) < 16 by decide)
  | some x => exact (decodeSample_encodeSample s x).2

theorem encodeNext_valid (hs : s.Valid) (x : Option Int16) : (encodeNext s x).1.Valid := by
  cases x with
  | none => exact hs
  | some x => exact nextIndex_le _ _

end Sample

/-! ### Bytes -/

section Bytes

variable {s : AdpcmChannelState} {lo hi : UInt8}

theorem packNibbles_unpack (hlo : lo < 16) (hhi : hi < 16) :
    packNibbles lo hi &&& 0x0F = lo ∧ packNibbles lo hi >>> 4 = hi := by
  have h : ∀ a < 16, ∀ b < 16,
      packNibbles (UInt8.ofNat a) (UInt8.ofNat b) &&& 0x0F = UInt8.ofNat a ∧
        packNibbles (UInt8.ofNat a) (UInt8.ofNat b) >>> 4 = UInt8.ofNat b := by
    decide
  simpa using h lo.toNat hlo hi.toNat hhi

/-- A byte is decoded like its two nibbles. -/
theorem decodeByte_packNibbles (hlo : lo < 16) (hhi : hi < 16) :
    decodeByte s (packNibbles lo hi) = pass (fun s n => Id.run (decodeSample s n)) s [lo, hi] := by
  obtain ⟨h1, h2⟩ := packNibbles_unpack hlo hhi
  unfold decodeByte
  rw [h1, h2]
  rfl

theorem fromLeBytes_toLeBytes (x : Int16) :
    fromLeBytes (.ofBitVec (x.toBitVec.extractLsb' 0 8)) (.ofBitVec (x.toBitVec.extractLsb' 8 8))
      = x := by
  unfold fromLeBytes
  rw [BitVec.extractLsb'_append_extractLsb'_eq_extractLsb' (by rfl)]
  simp

/-- A header sets the decoder to the state of the encoder. -/
theorem setState_header (hs : s.Valid) : setState s.predictor s.stepIndex.toUInt8.toNat = s := by
  have hindex : s.stepIndex.toUInt8.toNat = s.stepIndex :=
    Nat.mod_eq_of_lt (Nat.lt_of_le_of_lt hs (by decide))
  unfold setState
  rw [hindex, Nat.min_eq_left hs]

end Bytes

/-! ### Pieces of a block -/

/-- Encode a sample of the channel whose turn it is.  Out comes the predictor it is left
with, and the next sample is the next channel's. -/
def encodeTurn : List AdpcmChannelState → Int16 → List AdpcmChannelState × Int16
  | s :: others, sample =>
      let s := (Id.run (encodeSample s sample)).1
      (others ++ [s], s.predictor)
  | [], _ => ([], 0)

section Pieces

theorem encodeTurn_cons (s : AdpcmChannelState) (others : List AdpcmChannelState) (x : Int16) :
    encodeTurn (s :: others) x
      = (others ++ [(encodeNext s (some x)).1], (encodeNext s (some x)).1.predictor) := rfl

theorem encodePair_eq (s : AdpcmChannelState) (pair : List Int16) :
    encodePair s pair =
      let s1 := encodeNext s pair[0]?
      let s2 := encodeNext s1.1 pair[1]?
      (s2.1, packNibbles s1.2 s2.2) := rfl

theorem encodeQuad_eq (s : AdpcmChannelState) (sample : ℕ → Option Int16) :
    encodeQuad s sample =
      let s1 := encodeNext s (sample 0)
      let s2 := encodeNext s1.1 (sample 1)
      let s3 := encodeNext s2.1 (sample 2)
      let s4 := encodeNext s3.1 (sample 3)
      (s4.1, [packNibbles s1.2 s2.2, packNibbles s3.2 s4.2]) := rfl

theorem encodeGroup_eq (s : AdpcmChannelState × AdpcmChannelState) (group : List Int16) :
    encodeGroup s group =
      let left := encodeQuad s.1 fun j => group[j * 2]?
      let right := encodeQuad s.2 fun j => group[1 + j * 2]?
      ((left.1, right.1), left.2 ++ right.2) := rfl

theorem decodeGroup_eq (s : AdpcmChannelState × AdpcmChannelState) (b0 b1 b2 b3 : UInt8) :
    decodeGroup s [b0, b1, b2, b3] =
      let left := pass decodeByte s.1 [b0, b1]
      let right := pass decodeByte s.2 [b2, b3]
      ((left.1, right.1),
        (List.zipWith (fun l r => [l, r]) left.2.flatten right.2.flatten).flatten) := rfl

/-- A byte of a mono block gives its one or two samples. -/
theorem take_decodeByte_encodePair (s : AdpcmChannelState) (pair : List Int16)
    (hpos : 0 < pair.length) (hle : pair.length ≤ 2) :
    (decodeByte s (encodePair s pair).2).2.take pair.length = (pass encodeTurn [s] pair).2 := by
  match pair, hpos, hle with
  | [_], _, _ | [_, _], _, _ =>
      simp [encodePair_eq, decodeByte_packNibbles, encodeNext_lt, encodeTurn_cons,
        decodeSample_encodeNext]

/-- After a full byte both sides are in the same state. -/
theorem decodeByte_encodePair (s : AdpcmChannelState) (pair : List Int16)
    (hlength : pair.length = 2) :
    (decodeByte s (encodePair s pair).2).1 = (encodePair s pair).1 ∧
      (decodeByte s (encodePair s pair).2).2.length = 2 ∧
      (pass encodeTurn [s] pair).1 = [(encodePair s pair).1] := by
  obtain ⟨x, y, rfl⟩ := List.length_eq_two.mp hlength
  simp [encodePair_eq, decodeByte_packNibbles, encodeNext_lt, encodeTurn_cons,
    decodeSample_encodeNext]

/-- A group of a stereo block gives its one to eight samples. -/
theorem take_decodeGroup_encodeGroup (s : AdpcmChannelState × AdpcmChannelState)
    (group : List Int16) (hpos : 0 < group.length) (hle : group.length ≤ 8) :
    (decodeGroup s (encodeGroup s group).2).2.take group.length
      = (pass encodeTurn [s.1, s.2] group).2 := by
  -- by the length of the group: what is decoded past its end is cut off
  match group, hpos, hle with
  | [_], _, _ | [_, _], _, _ | [_, _, _], _, _ | [_, _, _, _], _, _ | [_, _, _, _, _], _, _
  | [_, _, _, _, _, _], _, _ | [_, _, _, _, _, _, _], _, _ | [_, _, _, _, _, _, _, _], _, _ =>
      simp [encodeGroup_eq, encodeQuad_eq, decodeGroup_eq, decodeByte_packNibbles, encodeNext_lt,
        encodeTurn_cons, decodeSample_encodeNext]

/-- After a full group both sides are in the same states. -/
theorem decodeGroup_encodeGroup (s : AdpcmChannelState × AdpcmChannelState) (group : List Int16)
    (hlength : group.length = 8) :
    (decodeGroup s (encodeGroup s group).2).1 = (encodeGroup s group).1 ∧
      (decodeGroup s (encodeGroup s group).2).2.length = 8 ∧
      (pass encodeTurn [s.1, s.2] group).1
        = [(encodeGroup s group).1.1, (encodeGroup s group).1.2] := by
  match group, hlength with
  | [_, _, _, _, _, _, _, _], _ =>
      simp [encodeGroup_eq, encodeQuad_eq, decodeGroup_eq, decodeByte_packNibbles, encodeNext_lt,
        encodeTurn_cons, decodeSample_encodeNext]

end Pieces

/-! ### Blocks -/

namespace AdpcmEncoder

variable {e : AdpcmEncoder} {d : AdpcmDecoder} {pcm : List Int16}

/-- What is asked of an encoder. -/
inductive Call
  | encodeBlock (pcm : List Int16)
  | reset

/-- The encoder after a call. -/
def call (e : AdpcmEncoder) : Call → AdpcmEncoder
  | .encodeBlock pcm => (e.encodeBlock pcm).1
  | .reset => e.reset

/-- The states of the channels in use. -/
def channelStates (e : AdpcmEncoder) : List AdpcmChannelState := [e.left, e.right].take e.channels

/-- The states after the header: the first sample of a channel is its predictor. -/
def headerStates (e : AdpcmEncoder) (pcm : List Int16) : List AdpcmChannelState :=
  List.zipWith (fun s sample => { s with predictor := sample }) e.channelStates pcm

/-- The samples of the header, and the predictor after each of the others. -/
def reconstructed (e : AdpcmEncoder) (pcm : List Int16) : List Int16 :=
  pcm.take e.channels ++ (pass encodeTurn (e.headerStates pcm) (pcm.drop e.channels)).2

/-- What holds of every encoder that can be reached. -/
structure WellFormed (e : AdpcmEncoder) : Prop where
  channels : e.channels = 1 ∨ e.channels = 2
  left : e.left.Valid
  right : e.right.Valid

theorem encodeBlock_mono (hmono : e.channels = 1) (first : Int16) (rest : List Int16) :
    e.encodeBlock (first :: rest) =
      let left := { e.left with predictor := first }
      let data := pass encodePair left (chunks 2 rest)
      ({ e with left := data.1 }, blockHeader left ++ data.2) :=
  if_pos hmono

theorem encodeBlock_stereo (hstereo : e.channels = 2) (firstLeft firstRight : Int16)
    (rest : List Int16) :
    e.encodeBlock (firstLeft :: firstRight :: rest) =
      let left := { e.left with predictor := firstLeft }
      let right := { e.right with predictor := firstRight }
      let data := pass encodeGroup (left, right) (chunks 8 rest)
      ({ e with left := data.1.1, right := data.1.2 },
        blockHeader left ++ blockHeader right ++ data.2.flatten) :=
  if_neg (by omega)

theorem decodeBlock_mono (hmono : d.channels = 1) (s : AdpcmChannelState) (hs : s.Valid)
    (bytes : List UInt8) :
    (d.decodeBlock (blockHeader s ++ bytes)).2
      = s.predictor :: (pass decodeByte s bytes).2.flatten := by
  unfold AdpcmDecoder.decodeBlock
  rw [if_pos hmono]
  simp only [blockHeader, toLeBytes, List.cons_append, List.nil_append, fromLeBytes_toLeBytes,
    setState_header hs]

theorem decodeBlock_stereo (hstereo : d.channels = 2) (left right : AdpcmChannelState)
    (hleft : left.Valid) (hright : right.Valid) (bytes : List UInt8) :
    (d.decodeBlock (blockHeader left ++ blockHeader right ++ bytes)).2
      = left.predictor :: right.predictor ::
        (pass decodeGroup (left, right) (chunksExact 4 bytes)).2.flatten := by
  unfold AdpcmDecoder.decodeBlock
  rw [if_neg (by omega)]
  simp only [blockHeader, toLeBytes, List.cons_append, List.nil_append, fromLeBytes_toLeBytes,
    setState_header hleft, setState_header hright]

/-- A group takes four bytes, full or not. -/
theorem length_encodeGroup (s : AdpcmChannelState × AdpcmChannelState) (group : List Int16) :
    (encodeGroup s group).2.length = 4 := rfl

theorem WellFormed.new {channels samplesPerBlock : ℕ}
    (h : AdpcmEncoder.new channels samplesPerBlock = some e) : e.WellFormed := by
  unfold AdpcmEncoder.new at h
  split at h
  · next hchannels =>
      obtain rfl := Option.some.inj h
      exact ⟨hchannels, Nat.zero_le _, Nat.zero_le _⟩
  · cases h

theorem encodePair_valid {s : AdpcmChannelState} (hs : s.Valid) (pair : List Int16) :
    (encodePair s pair).1.Valid :=
  encodeNext_valid (encodeNext_valid hs _) _

theorem encodeGroup_valid {s : AdpcmChannelState × AdpcmChannelState}
    (hs : s.1.Valid ∧ s.2.Valid) (group : List Int16) :
    (encodeGroup s group).1.1.Valid ∧ (encodeGroup s group).1.2.Valid :=
  ⟨encodeNext_valid (encodeNext_valid (encodeNext_valid (encodeNext_valid hs.1 _) _) _) _,
    encodeNext_valid (encodeNext_valid (encodeNext_valid (encodeNext_valid hs.2 _) _) _) _⟩

/-- `encode_block` leaves the configuration alone and keeps the step indices in range. -/
theorem WellFormed.encodeBlock (he : e.WellFormed) (pcm : List Int16) :
    (e.encodeBlock pcm).1.WellFormed ∧ (e.encodeBlock pcm).1.channels = e.channels ∧
      (e.encodeBlock pcm).1.samplesPerBlock = e.samplesPerBlock := by
  rcases he.channels with hmono | hstereo
  · rcases pcm with _ | ⟨first, rest⟩
    · rw [show e.encodeBlock [] = (e, []) from if_pos hmono]
      exact ⟨he, rfl, rfl⟩
    · rw [encodeBlock_mono hmono]
      exact ⟨⟨he.channels, pass_invariant (fun s a hs => encodePair_valid hs a) he.left,
        he.right⟩, rfl, rfl⟩
  · rcases pcm with _ | ⟨firstLeft, _ | ⟨firstRight, rest⟩⟩
    · rw [show e.encodeBlock [] = (e, []) from if_neg (by omega)]
      exact ⟨he, rfl, rfl⟩
    · rw [show e.encodeBlock [firstLeft] = (e, []) from if_neg (by omega)]
      exact ⟨he, rfl, rfl⟩
    · rw [encodeBlock_stereo hstereo]
      have hvalid := pass_invariant (f := encodeGroup) (I := fun s => s.1.Valid ∧ s.2.Valid)
        (l := chunks 8 rest) (fun s a hs => encodeGroup_valid hs a)
        (s := ({ e.left with predictor := firstLeft }, { e.right with predictor := firstRight }))
        ⟨he.left, he.right⟩
      exact ⟨⟨he.channels, hvalid.1, hvalid.2⟩, rfl, rfl⟩

/-- Calls keep an encoder well-formed, and its configuration. -/
theorem WellFormed.calls (he : e.WellFormed) (calls : List Call) :
    (calls.foldl call e).WellFormed ∧ (calls.foldl call e).channels = e.channels ∧
      (calls.foldl call e).samplesPerBlock = e.samplesPerBlock := by
  induction calls generalizing e with
  | nil => exact ⟨he, rfl, rfl⟩
  | cons c calls ih =>
      have hcall : (e.call c).WellFormed ∧ (e.call c).channels = e.channels ∧
          (e.call c).samplesPerBlock = e.samplesPerBlock := by
        cases c with
        | encodeBlock pcm => exact he.encodeBlock pcm
        | reset => exact ⟨⟨he.channels, Nat.zero_le _, Nat.zero_le _⟩, rfl, rfl⟩
      obtain ⟨hwf, hchannels, hsamples⟩ := hcall
      obtain ⟨h1, h2, h3⟩ := ih hwf
      exact ⟨h1, h2.trans hchannels, h3.trans hsamples⟩

/-- What a decoder makes of a block: the encoder's reconstruction, and perhaps more. -/
theorem WellFormed.decodeBlock_encodeBlock (he : e.WellFormed) (hd : d.channels = e.channels)
    (hlength : e.channels ≤ pcm.length) :
    (d.decodeBlock (e.encodeBlock pcm).2).2.take pcm.length = e.reconstructed pcm := by
  rcases he.channels with hmono | hstereo
  · obtain ⟨first, rest, rfl⟩ := List.exists_cons_of_length_pos (l := pcm) (by omega)
    rw [encodeBlock_mono hmono]
    -- the header sets the decoder to the state in which the encoder's loop begins
    have hloop := take_pass_chunks (by decide : 0 < 2) (fun s => [s])
      take_decodeByte_encodePair decodeByte_encodePair { e.left with predictor := first } rest
    simp only [decodeBlock_mono (hd.trans hmono) { e.left with predictor := first } he.left,
      List.length_cons, List.take_succ_cons, hloop]
    simp only [reconstructed, headerStates, channelStates, hmono]
    rfl
  · match pcm, hstereo ▸ hlength with
    | firstLeft :: firstRight :: rest, _ =>
        rw [encodeBlock_stereo hstereo]
        have hloop := take_pass_chunks (by decide : 0 < 8) (fun s => [s.1, s.2])
          take_decodeGroup_encodeGroup decodeGroup_encodeGroup
          ({ e.left with predictor := firstLeft }, { e.right with predictor := firstRight }) rest
        -- the decoder finds the groups again, four bytes each
        have hgroups := chunksExact_flatten (n := 4) (by decide) (mem_pass length_encodeGroup
          ({ e.left with predictor := firstLeft }, { e.right with predictor := firstRight })
          (chunks 8 rest))
        simp only [decodeBlock_stereo (hd.trans hstereo) { e.left with predictor := firstLeft }
          { e.right with predictor := firstRight } he.left he.right, hgroups, List.length_cons,
          List.take_succ_cons, hloop]
        simp only [reconstructed, headerStates, channelStates, hstereo]
        rfl

/-- The configuration of a new encoder. -/
theorem channels_of_new {channels samplesPerBlock : ℕ}
    (h : AdpcmEncoder.new channels samplesPerBlock = some e) :
    e.channels = channels ∧ e.samplesPerBlock = samplesPerBlock := by
  unfold AdpcmEncoder.new at h
  split at h
  · obtain rfl := Option.some.inj h
    exact ⟨rfl, rfl⟩
  · cases h

/-- **Encoder and decoder stay in lock step.**  Whatever blocks and resets went before, a
decoder in any state gives for a block the samples of its header and then the encoder's own
predictor after each of the other samples. -/
theorem decode_block_follows_encode_block {channels samplesPerBlock : ℕ} {e₀ : AdpcmEncoder}
    (hnew : AdpcmEncoder.new channels samplesPerBlock = some e₀) (calls : List Call)
    (d : AdpcmDecoder) (hd : d.channels = channels) (pcm : List Int16)
    (hlength : channels ≤ pcm.length) :
    (d.decodeBlock ((calls.foldl call e₀).encodeBlock pcm).2).2.take pcm.length
      = (calls.foldl call e₀).reconstructed pcm := by
  obtain ⟨hwf, hchannels, -⟩ := (WellFormed.new hnew).calls calls
  have hchannels := hchannels.trans (channels_of_new hnew).1
  exact hwf.decodeBlock_encodeBlock (hd.trans hchannels.symm) (hchannels ▸ hlength)

/-- Stereo, after a block and a reset, with one left sample more than right ones. -/
theorem decode_block_follows_stereo :
    ((⟨⟨7, 3⟩, ⟨-1, 88⟩, 2⟩ : AdpcmDecoder).decodeBlock
        (([Call.encodeBlock [5, 6, 700], .reset].foldl call ⟨.new, .new, 2, 1017⟩).encodeBlock
          [100, -100, 2000]).2).2.take 3 = [100, -100, 111] :=
  (decode_block_follows_encode_block
    (show AdpcmEncoder.new 2 1017 = some ⟨.new, .new, 2, 1017⟩ from rfl) [_, _]
    ⟨⟨7, 3⟩, ⟨-1, 88⟩, 2⟩ rfl [100, -100, 2000] (Nat.le_succ 2)).trans (by decide)

end AdpcmEncoder

end LamcoRdp
