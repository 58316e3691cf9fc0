/-
LamcoRdp/Audio/Pipeline.lean

Frames and timestamps of the audio pipeline (`AudioPipeline`, `audio/pipeline.rs`).

Chunks of samples come in, and frames of `samples_per_frame` samples go to the encoder, with a
timestamp for each that it has encoded.  How the encoder, the sound channel and the channel to
the client take the frame with the number `n` is a parameter.

* A closed channel ends the loop over the frames of one chunk, but not the pipeline, which waits
  for the next chunk with whole frames in its buffer.
* The duration of a frame is a whole number of milliseconds, and the timestamp goes on by it if
  the frame has been encoded.  What is lost by this adds up.

Both together say when the frames are all of the input that makes whole frames, and the
timestamps right (`audio_pipeline_iff`).
-/
import Mathlib.Algebra.Order.Field.Rat
import Mathlib.Data.List.Infix
import Mathlib.Tactic.Linarith
import Mathlib.Tactic.LinearCombination
import Mathlib.Tactic.Ring

namespace LamcoRdp

namespace Audio

/-- The parts of the configuration that the frames depend on. -/
structure PipelineConfig where
  opusFrameSize : UInt64
  sampleRate : UInt32
  channels : UInt32

namespace PipelineConfig

/-- `frame_duration_ms`; the product wraps around. -/
def frameDurationMs (config : PipelineConfig) : UInt32 :=
  (config.opusFrameSize.toUInt32 * 1000) / config.sampleRate

/-- `samples_per_frame`; the product wraps around. -/
def samplesPerFrame (config : PipelineConfig) : ℕ :=
  (config.opusFrameSize * config.channels.toUInt64).toNat

end PipelineConfig

/-- What becomes of a frame. -/
inductive FrameOutcome
  | encodeError
  | waveError
  | channelFull
  | channelClosed
  | sent
  deriving DecidableEq

/-- The pipeline, and what it has handed on: the frames to the encoder, and to `wave` the numbers
of frames with their timestamps. -/
structure AudioPipeline where
  audioTimestamp : UInt32
  frameDurationMs : UInt32
  sampleBuffer : List Int16
  samplesPerFrame : ℕ
  frames : List (List Int16)
  waves : List (ℕ × UInt32)

namespace AudioPipeline

/-- `AudioPipeline::new`. -/
def new (config : PipelineConfig) : AudioPipeline where
  audioTimestamp := 0
  frameDurationMs := config.frameDurationMs
  sampleBuffer := []
  samplesPerFrame := config.samplesPerFrame
  frames := []
  waves := []

/-- A frame leaves the buffer, and gets a timestamp if it can be encoded. -/
def takeFrame (p : AudioPipeline) (outcome : FrameOutcome) : AudioPipeline :=
  let taken :=
    { p with
      sampleBuffer := p.sampleBuffer.drop p.samplesPerFrame
      frames := p.frames ++ [p.sampleBuffer.take p.samplesPerFrame] }
  if outcome = .encodeError then taken
  else
    { taken with
      audioTimestamp := p.audioTimestamp + p.frameDurationMs
      waves := p.waves ++ [(p.frames.length, p.audioTimestamp)] }

/-- The loop over the frames in the buffer; `none` if the fuel does not last. -/
def takeFrames (outcome : ℕ → FrameOutcome) : ℕ → AudioPipeline → Option AudioPipeline
  | 0, _ => none
  | fuel + 1, p =>
      if p.samplesPerFrame ≤ p.sampleBuffer.length then
        let next := p.takeFrame (outcome p.frames.length)
        -- the `break` leaves this loop only
        if outcome p.frames.length = .channelClosed then some next
        else takeFrames outcome fuel next
      else some p

/-- A chunk comes in. -/
def receive (outcome : ℕ → FrameOutcome) (p : AudioPipeline) (samples : List Int16) :
    Option AudioPipeline :=
  takeFrames outcome ((p.sampleBuffer ++ samples).length + 1)
    { p with sampleBuffer := p.sampleBuffer ++ samples }

/-- `run`, over the chunks that have come in so far. -/
def run (config : PipelineConfig) (outcome : ℕ → FrameOutcome) (chunks : List (List Int16)) :
    Option AudioPipeline :=
  chunks.foldlM (receive outcome) (new config)

variable {config : PipelineConfig} {outcome : ℕ → FrameOutcome} {p q : AudioPipeline}
  {input : List Int16} {chunks : List (List Int16)}

/-! ### What the loop keeps -/

/-- How many of the first `n` frames have been encoded. -/
def encodedBefore (outcome : ℕ → FrameOutcome) (n : ℕ) : ℕ :=
  (List.range n).countP fun i => outcome i ≠ .encodeError

/-- How many have not. -/
def failedBefore (outcome : ℕ → FrameOutcome) (n : ℕ) : ℕ :=
  (List.range n).countP fun i => outcome i = .encodeError

theorem encodedBefore_add (outcome : ℕ → FrameOutcome) (n : ℕ) :
    encodedBefore outcome n + failedBefore outcome n = n := by
  unfold encodedBefore failedBefore
  induction n with
  | zero => rfl
  | succ n ih =>
      have hone : (if decide (outcome n ≠ .encodeError) = true then 1 else 0) +
          (if decide (outcome n = .encodeError) = true then 1 else 0) = 1 := by
        by_cases herror : outcome n = .encodeError <;> simp [herror]
      rw [List.range_succ, List.countP_append, List.countP_append, List.countP_singleton,
        List.countP_singleton]
      omega

/-- The timestamp of the frame `n`. -/
def timestamp (config : PipelineConfig) (outcome : ℕ → FrameOutcome) (n : ℕ) : UInt32 :=
  UInt32.ofNat (encodedBefore outcome n) * config.frameDurationMs

/-- A frame that cannot be encoded does not move the timestamp. -/
theorem timestamp_succ (config : PipelineConfig) (outcome : ℕ → FrameOutcome) (n : ℕ) :
    timestamp config outcome (n + 1) =
      if outcome n = .encodeError then timestamp config outcome n
      else timestamp config outcome n + config.frameDurationMs := by
  unfold timestamp encodedBefore
  rw [List.range_succ, List.countP_append, List.countP_singleton]
  by_cases herror : outcome n = .encodeError
  · simp [herror]
  · simp [herror, UInt32.ofNat_add, UInt32.add_mul]

/-- What is in the buffer and what has been handed on, given what has come in. -/
structure Sound (config : PipelineConfig) (outcome : ℕ → FrameOutcome) (input : List Int16)
    (p : AudioPipeline) : Prop where
  duration : p.frameDurationMs = config.frameDurationMs
  size : p.samplesPerFrame = config.samplesPerFrame
  input_eq : p.frames.flatten ++ p.sampleBuffer = input
  frame_size : ∀ frame ∈ p.frames, frame.length = config.samplesPerFrame
  next : p.audioTimestamp = timestamp config outcome p.frames.length
  waves_eq : p.waves = ((List.range p.frames.length).filter fun i => outcome i ≠ .encodeError).map
    fun i => (i, timestamp config outcome i)

theorem sound_new (config : PipelineConfig) (outcome : ℕ → FrameOutcome) :
    Sound config outcome [] (new config) where
  duration := rfl
  size := rfl
  input_eq := rfl
  frame_size := fun _ h => absurd h List.not_mem_nil
  next := (UInt32.zero_mul).symm
  waves_eq := rfl

/-- A frame handed on. -/
theorem Sound.takeFrame (h : Sound config outcome input p)
    (hle : config.samplesPerFrame ≤ p.sampleBuffer.length) :
    Sound config outcome input (p.takeFrame (outcome p.frames.length)) ∧
      (p.takeFrame (outcome p.frames.length)).frames.length = p.frames.length + 1 ∧
      (p.takeFrame (outcome p.frames.length)).sampleBuffer.length =
        p.sampleBuffer.length - config.samplesPerFrame := by
  -- whatever becomes of the frame, it leaves the buffer and is handed on
  obtain ⟨hduration, hsize, hinput, hframes, hnext, hwaves⟩ := h
  have hbuffer : (p.takeFrame (outcome p.frames.length)).sampleBuffer =
      p.sampleBuffer.drop config.samplesPerFrame := by
    dsimp only [AudioPipeline.takeFrame]
    rw [hsize]
    split_ifs <;> rfl
  have hhanded : (p.takeFrame (outcome p.frames.length)).frames =
      p.frames ++ [p.sampleBuffer.take config.samplesPerFrame] := by
    dsimp only [AudioPipeline.takeFrame]
    rw [hsize]
    split_ifs <;> rfl
  have hlength : (p.takeFrame (outcome p.frames.length)).frames.length = p.frames.length + 1 := by
    rw [hhanded, List.length_append, List.length_singleton]
  refine ⟨⟨?_, ?_, ?_, ?_, ?_, ?_⟩, hlength, ?_⟩
  · dsimp only [AudioPipeline.takeFrame]
    split_ifs <;> exact hduration
  · dsimp only [AudioPipeline.takeFrame]
    split_ifs <;> exact hsize
  · -- the input is what has been handed on and what is still in the buffer
    rw [hhanded, hbuffer, List.flatten_append, List.flatten_singleton, List.append_assoc,
      List.take_append_drop, hinput]
  · intro frame hframe
    rw [hhanded] at hframe
    rcases List.mem_append.mp hframe with hbefore | hlast
    · exact hframes frame hbefore
    · obtain rfl := List.mem_singleton.mp hlast
      exact List.length_take_of_le hle
  · -- the time stamp moves on with every frame that is not lost in the encoder
    rw [hlength, timestamp_succ]
    dsimp only [AudioPipeline.takeFrame]
    split_ifs
    · exact hnext
    · rw [← hnext, ← hduration]
  · rw [hlength, List.range_succ, List.filter_append, List.map_append, ← hwaves]
    dsimp only [AudioPipeline.takeFrame]
    by_cases herror : outcome p.frames.length = .encodeError
    · simp [herror]
    · simp [herror, hnext]
  · rw [hbuffer, List.length_drop]

/-- The loop ends, and leaves less than a frame exactly if no frame but the last one meets a
closed channel. -/
theorem Sound.takeFrames (hpos : 1 ≤ config.samplesPerFrame) {fuel : ℕ}
    (h : Sound config outcome input p) (hfuel : p.sampleBuffer.length < fuel) :
    ∃ q, takeFrames outcome fuel p = some q ∧ Sound config outcome input q ∧
      (q.sampleBuffer.length < config.samplesPerFrame ↔
        ∀ i, p.frames.length ≤ i →
          i + 1 < p.frames.length + p.sampleBuffer.length / config.samplesPerFrame →
            outcome i ≠ .channelClosed) := by
  induction fuel generalizing p with
  | zero => exact absurd hfuel (Nat.not_lt_zero _)
  | succ fuel ih =>
      rw [AudioPipeline.takeFrames, h.size]
      by_cases hle : config.samplesPerFrame ≤ p.sampleBuffer.length
      · obtain ⟨hnext, hlength, hbuffer⟩ := h.takeFrame hle
        have hcount : p.sampleBuffer.length / config.samplesPerFrame =
            (p.sampleBuffer.length - config.samplesPerFrame) / config.samplesPerFrame + 1 :=
          Nat.div_eq_sub_div hpos hle
        rw [if_pos hle]
        by_cases hclosed : outcome p.frames.length = .channelClosed
        · -- the loop is left: is there another frame?
          refine ⟨_, if_pos hclosed, hnext, ?_⟩
          rw [hbuffer, hcount]
          constructor
          · intro hshort i hi hlast
            rw [Nat.div_eq_of_lt hshort] at hlast
            omega
          · intro hall
            by_contra hlong
            have hone : 1 ≤ (p.sampleBuffer.length - config.samplesPerFrame) /
                config.samplesPerFrame := (Nat.one_le_div_iff hpos).mpr (not_lt.mp hlong)
            exact hall p.frames.length le_rfl (by omega) hclosed
        · obtain ⟨q, hq, hsound, hiff⟩ := ih hnext (by omega)
          refine ⟨q, (if_neg hclosed).trans hq, hsound, hiff.trans ?_⟩
          rw [hlength, hbuffer, hcount]
          constructor
          · intro hall i hi hlast
            rcases hi.eq_or_lt with rfl | hlater
            · exact hclosed
            · exact hall i hlater (by omega)
          · intro hall i hi hlast
            exact hall i (by omega) (by omega)
      · have hzero : p.sampleBuffer.length / config.samplesPerFrame = 0 :=
          Nat.div_eq_of_lt (not_le.mp hle)
        refine ⟨p, if_neg hle, h, iff_of_true (not_le.mp hle) fun i hi hlast => ?_⟩
        omega

/-- A chunk comes in. -/
theorem Sound.receive (hpos : 1 ≤ config.samplesPerFrame) (h : Sound config outcome input p)
    (samples : List Int16) :
    ∃ q, receive outcome p samples = some q ∧ Sound config outcome (input ++ samples) q ∧
      (q.sampleBuffer.length < config.samplesPerFrame ↔
        ∀ i, p.frames.length ≤ i →
          i + 1 < p.frames.length + (p.sampleBuffer ++ samples).length / config.samplesPerFrame →
            outcome i ≠ .channelClosed) := by
  have hmore : Sound config outcome (input ++ samples)
      { p with sampleBuffer := p.sampleBuffer ++ samples } := by
    refine ⟨h.duration, h.size, ?_, h.frame_size, h.next, h.waves_eq⟩
    rw [← h.input_eq, List.append_assoc]
  exact hmore.takeFrames hpos (Nat.lt_succ_self _)

/-! ### Frames -/

theorem run_concat (config : PipelineConfig) (outcome : ℕ → FrameOutcome)
    (chunks : List (List Int16)) (samples : List Int16) :
    run config outcome (chunks ++ [samples]) =
      (run config outcome chunks).bind fun p => p.receive outcome samples := by
  unfold run
  rw [List.foldlM_append]
  congr 1
  funext p
  rw [List.foldlM_cons]
  cases p.receive outcome samples <;> rfl

/-- A pipeline with a frame size gets through every chunk. -/
theorem exists_run (hpos : 1 ≤ config.samplesPerFrame) (outcome : ℕ → FrameOutcome)
    (chunks : List (List Int16)) :
    ∃ p, run config outcome chunks = some p ∧ Sound config outcome chunks.flatten p := by
  induction chunks using List.reverseRecOn with
  | nil => exact ⟨_, rfl, sound_new config outcome⟩
  | append_singleton chunks samples ih =>
      obtain ⟨p, hp, hsound⟩ := ih
      obtain ⟨q, hq, hsound', -⟩ := hsound.receive hpos samples
      refine ⟨q, ?_, ?_⟩
      · rw [run_concat, hp]
        exact hq
      · rw [List.flatten_append, List.flatten_singleton]
        exact hsound'

/-- The samples of some of the frames. -/
theorem Sound.length_flatten (h : Sound config outcome input p) {l : List (List Int16)}
    (hl : ∀ frame ∈ l, frame ∈ p.frames) :
    l.flatten.length = l.length * config.samplesPerFrame := by
  have hconst : l.map List.length = List.replicate l.length config.samplesPerFrame := by
    rw [List.eq_replicate_iff, List.length_map]
    refine ⟨rfl, fun n hn => ?_⟩
    obtain ⟨frame, hframe, rfl⟩ := List.mem_map.mp hn
    exact h.frame_size frame (hl frame hframe)
  rw [List.length_flatten, hconst, List.sum_replicate_nat]

theorem Sound.length_frames (h : Sound config outcome input p) :
    p.frames.flatten.length = p.frames.length * config.samplesPerFrame :=
  h.length_flatten fun _ hframe => hframe

/-- Less than a frame is in the buffer exactly if all whole frames have been handed on. -/
theorem Sound.length_frames_eq_iff (hpos : 1 ≤ config.samplesPerFrame)
    (h : Sound config outcome input p) :
    p.sampleBuffer.length < config.samplesPerFrame ↔
      p.frames.length = input.length / config.samplesPerFrame := by
  rw [← h.input_eq, List.length_append, h.length_frames, Nat.mul_comm,
    Nat.mul_add_div hpos, Nat.left_eq_add, Nat.div_eq_zero_iff_lt hpos]

theorem Sound.framed_iff (hpos : 1 ≤ config.samplesPerFrame)
    (h : Sound config outcome input p) :
    p.frames.flatten =
        input.take (input.length / config.samplesPerFrame * config.samplesPerFrame) ↔
      p.sampleBuffer.length < config.samplesPerFrame := by
  rw [h.length_frames_eq_iff hpos]
  constructor
  · intro heq
    have hlength := congrArg List.length heq
    rw [h.length_frames, List.length_take_of_le (Nat.div_mul_le_self _ _)] at hlength
    exact Nat.eq_of_mul_eq_mul_right hpos hlength
  · intro hcount
    rw [← hcount, ← h.length_frames, ← h.input_eq, List.take_left]

/-- After every chunk the frames handed on are the longest prefix of the input that is made of
whole frames. -/
def Framed (config : PipelineConfig) (outcome : ℕ → FrameOutcome) (chunks : List (List Int16)) :
    Prop :=
  ∀ pre, pre <+: chunks → ∃ p, run config outcome pre = some p ∧
    p.frames.flatten = pre.flatten.take
      (pre.flatten.length / config.samplesPerFrame * config.samplesPerFrame)

/-- No frame meets a closed channel while there is another one in the buffer. -/
def Uncut (config : PipelineConfig) (outcome : ℕ → FrameOutcome) (chunks : List (List Int16)) :
    Prop :=
  ∀ pre samples, pre ++ [samples] <+: chunks →
    ∀ i, pre.flatten.length / config.samplesPerFrame ≤ i →
      i + 1 < (pre.flatten.length + samples.length) / config.samplesPerFrame →
        outcome i ≠ .channelClosed

theorem framed_concat (config : PipelineConfig) (outcome : ℕ → FrameOutcome)
    (chunks : List (List Int16)) (samples : List Int16) :
    Framed config outcome (chunks ++ [samples]) ↔ Framed config outcome chunks ∧
      ∃ p, run config outcome (chunks ++ [samples]) = some p ∧
        p.frames.flatten = (chunks ++ [samples]).flatten.take
          ((chunks ++ [samples]).flatten.length / config.samplesPerFrame *
            config.samplesPerFrame) := by
  constructor
  · intro h
    exact ⟨fun pre hpre => h pre (hpre.trans (List.prefix_append _ _)), h _ List.prefix_rfl⟩
  · rintro ⟨h, hlast⟩ pre hpre
    rcases List.prefix_concat_iff.mp hpre with rfl | hpre
    · exact hlast
    · exact h pre hpre

theorem uncut_concat (config : PipelineConfig) (outcome : ℕ → FrameOutcome)
    (chunks : List (List Int16)) (samples : List Int16) :
    Uncut config outcome (chunks ++ [samples]) ↔ Uncut config outcome chunks ∧
      ∀ i, chunks.flatten.length / config.samplesPerFrame ≤ i →
        i + 1 < (chunks.flatten.length + samples.length) / config.samplesPerFrame →
          outcome i ≠ .channelClosed := by
  constructor
  · intro h
    exact ⟨fun pre c hpre => h pre c (hpre.trans (List.prefix_append _ _)),
      h chunks samples List.prefix_rfl⟩
  · rintro ⟨h, hlast⟩ pre c hpre
    rcases List.prefix_concat_iff.mp hpre with heq | hpre
    · obtain ⟨rfl, hc⟩ := List.append_inj' heq rfl
      obtain rfl := (List.cons.inj hc).1
      exact hlast
    · exact h pre c hpre

/-- The frames are right exactly if no loop is cut short. -/
theorem framed_iff_uncut (hpos : 1 ≤ config.samplesPerFrame) (outcome : ℕ → FrameOutcome)
    (chunks : List (List Int16)) :
    Framed config outcome chunks ↔ Uncut config outcome chunks := by
  induction chunks using List.reverseRecOn with
  | nil =>
      refine iff_of_true (fun pre hpre => ?_) fun pre samples hpre => ?_
      · obtain rfl := List.prefix_nil.mp hpre
        exact ⟨new config, rfl, List.take_nil.symm⟩
      · exact absurd (List.prefix_nil.mp hpre) (by simp)
  | append_singleton chunks samples ih =>
      rw [framed_concat, uncut_concat, ← ih]
      refine and_congr_right fun hframed => ?_
      obtain ⟨p, hp, hsound⟩ := exists_run hpos outcome chunks
      obtain ⟨q, hq, hsound', hiff⟩ := hsound.receive hpos samples
      have hrun : run config outcome (chunks ++ [samples]) = some q := by
        rw [run_concat, hp]
        exact hq
      have hflat : (chunks ++ [samples]).flatten = chunks.flatten ++ samples := by
        rw [List.flatten_append, List.flatten_singleton]
      -- with whole frames only handed on, the number of frames is told by the input
      have hshort : p.sampleBuffer.length < config.samplesPerFrame := by
        obtain ⟨p', hp', hprefix⟩ := hframed chunks List.prefix_rfl
        obtain rfl := Option.some.inj (hp.symm.trans hp')
        exact (hsound.framed_iff hpos).mp hprefix
      have hcount := (hsound.length_frames_eq_iff hpos).mp hshort
      have htotal : p.frames.length +
          (p.sampleBuffer ++ samples).length / config.samplesPerFrame =
            (chunks.flatten.length + samples.length) / config.samplesPerFrame := by
        rw [← Nat.mul_add_div hpos, ← hsound.input_eq, List.length_append, List.length_append,
          hsound.length_frames, Nat.mul_comm, Nat.add_assoc]
      rw [htotal, hcount] at hiff
      rw [hrun, hflat]
      constructor
      · rintro ⟨q', hq', hprefix⟩
        obtain rfl := Option.some.inj hq'
        exact hiff.mp ((hsound'.framed_iff hpos).mp hprefix)
      · intro hall
        exact ⟨q, rfl, (hsound'.framed_iff hpos).mpr (hiff.mpr hall)⟩

/-! ### Timestamps -/

/-- The sample of each channel at which the frame `n` starts. -/
def startPosition (config : PipelineConfig) (p : AudioPipeline) (n : ℕ) : ℕ :=
  (p.frames.take n).flatten.length / config.channels.toNat

/-- A timestamp within a millisecond of a position, modulo `2 ^ 32`. -/
def Near (config : PipelineConfig) (position : ℕ) (timestamp : UInt32) : Prop :=
  ∃ k : ℤ, |(timestamp.toNat : ℚ) - position * 1000 / config.sampleRate.toNat - 2 ^ 32 * k| ≤ 1

/-- All that has been given to `wave` is on time. -/
def Timely (config : PipelineConfig) (outcome : ℕ → FrameOutcome) (chunks : List (List Int16)) :
    Prop :=
  ∃ p, run config outcome chunks = some p ∧
    ∀ w ∈ p.waves, Near config (startPosition config p w.1) w.2

/-- By the frame `n` no more than a millisecond has been lost, modulo `2 ^ 32` milliseconds: what
`frame_duration_ms` leaves of each frame, and all of each frame that could not be encoded. -/
def SmallDrift (config : PipelineConfig) (outcome : ℕ → FrameOutcome) (n : ℕ) : Prop :=
  ∃ k : ℤ, |(n : ℚ) * (1000 * config.opusFrameSize.toNat / config.sampleRate.toNat -
      config.frameDurationMs.toNat) +
        failedBefore outcome n * config.frameDurationMs.toNat - 2 ^ 32 * k| ≤ 1

theorem near_iff_smallDrift (config : PipelineConfig) (outcome : ℕ → FrameOutcome) (n : ℕ) :
    Near config (n * config.opusFrameSize.toNat) (timestamp config outcome n) ↔
      SmallDrift config outcome n := by
  have hmod : (timestamp config outcome n).toNat =
      encodedBefore outcome n * config.frameDurationMs.toNat % 2 ^ 32 := by
    rw [timestamp, UInt32.toNat_mul, UInt32.toNat_ofNat', Nat.mod_mul_mod]
  have hdiv := Nat.mod_add_div (encodedBefore outcome n * config.frameDurationMs.toNat) (2 ^ 32)
  rw [← hmod] at hdiv
  have hcount := encodedBefore_add outcome n
  unfold Near SmallDrift
  generalize encodedBefore outcome n * config.frameDurationMs.toNat / 2 ^ 32 = wraps at hdiv
  generalize (timestamp config outcome n).toNat = stamp at hdiv ⊢
  generalize encodedBefore outcome n = encoded at hdiv hcount
  generalize failedBefore outcome n = failed at hcount ⊢
  have hstamp : (stamp : ℚ) + 2 ^ 32 * wraps = encoded * config.frameDurationMs.toNat := by
    exact_mod_cast hdiv
  have hn : (encoded : ℚ) + failed = n := by exact_mod_cast hcount
  -- the same difference, up to its sign and to whole turns of the timestamp
  have hturn : ∀ k : ℤ, (n : ℚ) * (1000 * config.opusFrameSize.toNat / config.sampleRate.toNat -
      config.frameDurationMs.toNat) + failed * config.frameDurationMs.toNat - 2 ^ 32 * k =
        -((stamp : ℚ) - (n * config.opusFrameSize.toNat : ℕ) * 1000 / config.sampleRate.toNat -
          2 ^ 32 * (-(wraps + k) : ℤ)) := by
    intro k
    push_cast
    linear_combination hstamp + config.frameDurationMs.toNat * hn
  constructor
  · rintro ⟨k, hk⟩
    refine ⟨-(wraps + k), ?_⟩
    rw [hturn, abs_neg]
    rwa [show (-(wraps + -(wraps + k)) : ℤ) = k by ring]
  · rintro ⟨k, hk⟩
    refine ⟨-(wraps + k), ?_⟩
    rwa [hturn, abs_neg] at hk

theorem samplesPerFrame_eq
    (hfit : config.opusFrameSize.toNat * config.channels.toNat < 2 ^ 64) :
    config.samplesPerFrame = config.opusFrameSize.toNat * config.channels.toNat := by
  rw [PipelineConfig.samplesPerFrame, UInt64.toNat_mul, UInt32.toNat_toUInt64,
    Nat.mod_eq_of_lt hfit]

/-- The frames before the frame `n`. -/
theorem Sound.startPosition_eq (h : Sound config outcome input p)
    (hfit : config.opusFrameSize.toNat * config.channels.toNat < 2 ^ 64)
    (hchannels : 1 ≤ config.channels.toNat) {n : ℕ} (hn : n ≤ p.frames.length) :
    startPosition config p n = n * config.opusFrameSize.toNat := by
  rw [startPosition, h.length_flatten fun _ hframe => List.mem_of_mem_take hframe,
    List.length_take_of_le hn, samplesPerFrame_eq hfit, ← Nat.mul_assoc,
    Nat.mul_div_cancel _ hchannels]

/-- The timestamps are right exactly if the drift is small at each frame that gets one. -/
theorem Sound.timely_iff (h : Sound config outcome input p)
    (hfit : config.opusFrameSize.toNat * config.channels.toNat < 2 ^ 64)
    (hchannels : 1 ≤ config.channels.toNat) :
    (∀ w ∈ p.waves, Near config (startPosition config p w.1) w.2) ↔
      ∀ n < p.frames.length, outcome n ≠ .encodeError → SmallDrift config outcome n := by
  have hwaves : ∀ w, w ∈ p.waves ↔ ∃ n < p.frames.length, outcome n ≠ .encodeError ∧
      (n, timestamp config outcome n) = w := by
    intro w
    rw [h.waves_eq, List.mem_map]
    simp [and_assoc]
  constructor
  · intro hall n hn hencoded
    have hnear := hall _ ((hwaves _).mpr ⟨n, hn, hencoded, rfl⟩)
    rwa [h.startPosition_eq hfit hchannels hn.le, near_iff_smallDrift] at hnear
  · intro hall w hw
    obtain ⟨n, hn, hencoded, rfl⟩ := (hwaves w).mp hw
    rw [h.startPosition_eq hfit hchannels hn.le, near_iff_smallDrift]
    exact hall n hn hencoded

/-- **Frames and timestamps are right** exactly if no loop is cut short by a closed channel and
the drift is small at each frame that can be encoded. -/
theorem audio_pipeline_iff (config : PipelineConfig) (hframe : 1 ≤ config.opusFrameSize.toNat)
    (hchannels : 1 ≤ config.channels.toNat)
    (hfit : config.opusFrameSize.toNat * config.channels.toNat < 2 ^ 64)
    (outcome : ℕ → FrameOutcome) (chunks : List (List Int16)) :
    Framed config outcome chunks ∧ Timely config outcome chunks ↔
      Uncut config outcome chunks ∧
        ∀ n < chunks.flatten.length / config.samplesPerFrame, outcome n ≠ .encodeError →
          SmallDrift config outcome n := by
  have hpos : 1 ≤ config.samplesPerFrame := by
    rw [samplesPerFrame_eq hfit]
    exact Nat.mul_pos hframe hchannels
  rw [← framed_iff_uncut hpos]
  refine and_congr_right fun hframed => ?_
  obtain ⟨p, hp, hsound⟩ := exists_run hpos outcome chunks
  have hcount : p.frames.length = chunks.flatten.length / config.samplesPerFrame := by
    obtain ⟨p', hp', hprefix⟩ := hframed chunks List.prefix_rfl
    obtain rfl := Option.some.inj (hp.symm.trans hp')
    exact (hsound.length_frames_eq_iff hpos).mp ((hsound.framed_iff hpos).mp hprefix)
  rw [← hcount, ← hsound.timely_iff hfit hchannels]
  constructor
  · rintro ⟨p', hp', htimely⟩
    obtain rfl := Option.some.inj (hp.symm.trans hp')
    exact htimely
  · intro htimely
    exact ⟨p, hp, htimely⟩

/-- The default frame size, at 48 kHz and in stereo: nothing is lost by the duration. -/
theorem audio_pipeline_default :
    Framed ⟨960, 48000, 2⟩ (fun _ => .sent) [List.replicate 3000 0, List.replicate 3000 0] ∧
      Timely ⟨960, 48000, 2⟩ (fun _ => .sent) [List.replicate 3000 0, List.replicate 3000 0] := by
  refine (audio_pipeline_iff _ (by decide) (by decide) (by decide) _ _).mpr
    ⟨fun _ _ _ _ _ _ hclosed => ?_, fun n _ _ => ⟨0, ?_⟩⟩
  · cases hclosed
  · have hduration : (PipelineConfig.frameDurationMs ⟨960, 48000, 2⟩).toNat = 20 := by decide
    have hfailed : failedBefore (fun _ => .sent) n = 0 := List.countP_eq_zero.mpr fun _ _ => by simp
    rw [hduration, hfailed]
    show |(n : ℚ) * (1000 * (960 : ℕ) / (48000 : ℕ) - (20 : ℕ)) + (0 : ℕ) * _ - _| ≤ 1
    norm_num

/-- At 44.1 kHz the fourth frame of 2.5 ms is 1.48 ms late; and of two frames in one chunk the
second is left behind when the channel to the client is closed. -/
theorem audio_pipeline_loses :
    ¬Timely ⟨110, 44100, 1⟩ (fun _ => .sent) [List.replicate 440 0] ∧
      ¬Framed ⟨480, 48000, 1⟩ (fun _ => .channelClosed) [List.replicate 960 0] := by
  constructor
  · -- 2 ms a frame for 2.49: the fourth frame is half a millisecond more than 1 ms late
    rintro ⟨p, hp, htimely⟩
    have hpiece : 1 ≤ PipelineConfig.samplesPerFrame ⟨110, 44100, 1⟩ := by decide
    obtain ⟨p', hp', hsound⟩ := exists_run hpiece (fun _ => .sent) [List.replicate 440 0]
    obtain rfl := Option.some.inj (hp.symm.trans hp')
    have hlength : p.frames.length = 4 := by
      have hrun : (run ⟨110, 44100, 1⟩ (fun _ => .sent) [List.replicate 440 0]).map
          (·.frames.length) = some 4 := by decide +kernel
      rw [hp] at hrun
      exact Option.some.inj hrun
    obtain ⟨k, hk⟩ := (hsound.timely_iff (by decide) (by decide)).mp htimely 3
      (by rw [hlength]; decide) (by decide)
    have hduration : (PipelineConfig.frameDurationMs ⟨110, 44100, 1⟩).toNat = 2 := by decide
    have hfailed : failedBefore (fun _ => .sent) 3 = 0 := by decide
    rw [hduration, hfailed] at hk
    have hlate : |(3 : ℚ) * (1000 * 110 / 44100 - 2) + 0 * 2 - 2 ^ 32 * k| ≤ 1 := hk
    -- no wrap of the clock makes up for it
    obtain ⟨hlo, hhi⟩ := abs_le.mp hlate
    have hpos : (0 : ℚ) < k := by linarith
    have hlt : (k : ℚ) < 1 := by linarith
    have hpos' : (0 : ℤ) < k := by exact_mod_cast hpos
    have hlt' : k < (1 : ℤ) := by exact_mod_cast hlt
    omega
  · -- two frames are in the buffer, and the loop ends at the first
    intro hframed
    obtain ⟨p, hp, hprefix⟩ := hframed _ List.prefix_rfl
    have hlength : p.frames.length = 1 := by
      have hrun : (run ⟨480, 48000, 1⟩ (fun _ => .channelClosed) [List.replicate 960 0]).map
          (·.frames.length) = some 1 := by decide +kernel
      rw [hp] at hrun
      exact Option.some.inj hrun
    have hpiece : 1 ≤ PipelineConfig.samplesPerFrame ⟨480, 48000, 1⟩ := by decide
    obtain ⟨p', hp', hsound⟩ := exists_run hpiece (fun _ => .channelClosed)
      [List.replicate 960 0]
    obtain rfl := Option.some.inj (hp.symm.trans hp')
    have hall := (hsound.length_frames_eq_iff (by decide)).mp
      ((hsound.framed_iff (by decide)).mp hprefix)
    rw [hlength] at hall
    revert hall
    decide +kernel

end AudioPipeline

end Audio

end LamcoRdp
