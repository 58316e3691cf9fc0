/-
LamcoRdp/Egfx/AuxInterval.lean

How long a client is left with old chroma (`should_send_aux` and `encode_bgra`,
`egfx/avc444_encoder.rs`).

`AuxHistory` keeps a record of each call: what came of the auxiliary view, what was returned,
and what was in force.  `FreshChroma` says of such a history that

* behind a frame with chroma there are no more frames without it than the interval allows, but
  for those whose auxiliary encode was skipped or failed;
* the first frame has chroma, unless its auxiliary encode was skipped;
* with omission enabled and no IDR due, auxiliary encodes keep a distance.

It is so in every run in which the bookkeeping of `Egfx/AuxStream.lean` is kept
(`chroma_fresh_of_run`).
-/
import LamcoRdp.Egfx.AuxStream
import LamcoRdp.Lib.Histories

namespace LamcoRdp

open Histories Runs

/-- What comes of the auxiliary view in one call, in full. -/
inductive AuxEncode
  /-- the call fails before -/
  | unreached
  /-- `should_send_aux` says no -/
  | omitted
  /-- encoded to nothing -/
  | skipped
  /-- the encode fails -/
  | failed
  /-- there is an auxiliary stream -/
  | made
  deriving DecidableEq, Repr

/-- Whether the view went to the encoder. -/
def AuxEncode.isAttempt : AuxEncode → Bool
  | .unreached | .omitted => false
  | .skipped | .failed | .made => true

/-- Whether it went to the encoder in vain. -/
def AuxEncode.isUnserved : AuxEncode → Bool
  | .skipped | .failed => true
  | .unreached | .omitted | .made => false

namespace Avc444Encoder

/-- The outcome, from the state before the call and the answers of OpenH264. -/
def auxEncode (platform : Platform) (e : Avc444Encoder) (c : EncodeCall) : AuxEncode :=
  match c.reject, bgraToYuv444 platform.target c.bgraData c.width c.height e.colorMatrix with
  | none, some yuv444 =>
      match c.main with
      | .error _ => .unreached
      | .bitstream _ _ =>
          if ((e.forceDueIdr c.now).shouldSendAux (platform.hashAux yuv444)).2 then
            match c.aux with
            | .error _ => .failed
            | .bitstream [] _ => .skipped
            | .bitstream (_ :: _) _ => .made
          else .omitted
  | _, _ => .unreached

variable {platform : Platform} {e : Avc444Encoder} {c : EncodeCall}

/-! ### One call -/

/-- The outcome with less detail. -/
theorem auxOutcome_of_auxEncode (platform : Platform) (e : Avc444Encoder) (c : EncodeCall) :
    match e.auxEncode platform c with
    | .unreached | .failed => e.auxOutcome platform c = .failed
    | .omitted | .skipped => e.auxOutcome platform c = .omitted
    | .made => ∃ hash data, e.auxOutcome platform c = .produced hash data := by
  unfold auxEncode auxOutcome
  rcases c.reject with - | err
  · rcases bgraToYuv444 platform.target c.bgraData c.width c.height e.colorMatrix with - | yuv444
    · rfl
    · rcases c.main with message | ⟨data, key⟩
      · rfl
      · dsimp only
        cases ((e.forceDueIdr c.now).shouldSendAux (platform.hashAux yuv444)).2 with
        | false => rfl
        | true =>
            rcases c.aux with message | ⟨- | ⟨b, bs⟩, key'⟩
            · rfl
            · rfl
            · exact ⟨_, _, rfl⟩
  · rfl

/-- When the view is not encoded. -/
theorem of_shouldSendAux_eq_false {currentHash : ℕ}
    (h : (e.shouldSendAux currentHash).2 = false) :
    e.forceAuxOnNextFrame = false ∧ e.lastAuxHash ≠ none ∧
      e.framesSinceAux < e.maxAuxInterval := by
  unfold shouldSendAux at h
  cases hforce : e.forceAuxOnNextFrame with
  | true =>
      rw [hforce] at h
      cases h
  | false =>
      rw [hforce] at h
      cases homission : e.enableAuxOmission with
      | false =>
          rw [homission] at h
          cases h
      | true =>
          rw [homission] at h
          rcases hhash : e.lastAuxHash with - | previousHash
          · rw [hhash] at h
            cases h
          · rw [hhash] at h
            by_cases hmax : e.framesSinceAux ≥ e.maxAuxInterval
            · simp [hmax] at h
            · exact ⟨rfl, by simp, not_le.mp hmax⟩

/-- When it is, without a force. -/
theorem of_shouldSendAux_eq_true {currentHash : ℕ}
    (h : (e.shouldSendAux currentHash).2 = true) (hforce : e.forceAuxOnNextFrame = false)
    (homission : e.enableAuxOmission = true) (hhash : e.lastAuxHash ≠ none) :
    min minAuxInterval e.maxAuxInterval ≤ e.framesSinceAux := by
  obtain ⟨previousHash, hprevious⟩ := Option.ne_none_iff_exists'.mp hhash
  unfold shouldSendAux at h
  rw [hforce, homission, hprevious] at h
  by_cases hmax : e.framesSinceAux ≥ e.maxAuxInterval
  · exact (min_le_right _ _).trans hmax
  · by_cases hmin : e.framesSinceAux < minAuxInterval
    · simp [hmax, hmin] at h
    · exact (min_le_left _ _).trans (not_lt.mp hmin)

/-- A call that comes to the view encodes it if `should_send_aux` says so. -/
theorem shouldSendAux_of_reached (h : e.auxEncode platform c ≠ .unreached) :
    ∃ currentHash, ((e.forceDueIdr c.now).shouldSendAux currentHash).2 =
      (e.auxEncode platform c).isAttempt := by
  revert h
  unfold auxEncode
  rcases c.reject with - | err
  · rcases bgraToYuv444 platform.target c.bgraData c.width c.height e.colorMatrix with - | yuv444
    · exact fun h => absurd rfl h
    · rcases c.main with message | ⟨data, key⟩
      · exact fun h => absurd rfl h
      · intro _
        refine ⟨platform.hashAux yuv444, ?_⟩
        dsimp only
        cases ((e.forceDueIdr c.now).shouldSendAux (platform.hashAux yuv444)).2 with
        | false => rfl
        | true => rcases c.aux with message | ⟨- | ⟨b, bs⟩, key'⟩ <;> rfl
  · exact fun h => absurd rfl h

/-- A view that is not encoded: there has been one, and not too long ago. -/
theorem of_auxEncode_omitted (h : e.auxEncode platform c = .omitted) :
    e.lastAuxHash ≠ none ∧ e.framesSinceAux < e.maxAuxInterval := by
  have hreached : e.auxEncode platform c ≠ .unreached := by
    rw [h]
    decide
  obtain ⟨currentHash, hsend⟩ := shouldSendAux_of_reached hreached
  obtain ⟨last, heq⟩ := e.forceDueIdr_eq c.now
  rw [h, heq] at hsend
  exact (of_shouldSendAux_eq_false hsend).2

/-- A view that is encoded without a force, with omission enabled: the last one is some time
ago. -/
theorem of_auxEncode_isAttempt (h : (e.auxEncode platform c).isAttempt = true)
    (hdue : e.isPeriodicIdrDue c.now = false) (hforce : e.forceAuxOnNextFrame = false)
    (homission : e.enableAuxOmission = true) (hhash : e.lastAuxHash ≠ none) :
    min minAuxInterval e.maxAuxInterval ≤ e.framesSinceAux := by
  have hreached : e.auxEncode platform c ≠ .unreached := by
    intro hun
    rw [hun] at h
    cases h
  obtain ⟨currentHash, hsend⟩ := shouldSendAux_of_reached hreached
  obtain ⟨last, heq⟩ := e.forceDueIdr_eq c.now
  have hdown : (e.forceDueIdr c.now).forceAuxOnNextFrame = false := by
    rw [heq, hdue, hforce]
    rfl
  rw [h] at hsend
  have hmin := of_shouldSendAux_eq_true hsend hdown (by rw [heq]; exact homission)
    (by rw [heq]; exact hhash)
  rw [heq] at hmin
  exact hmin

/-- The auxiliary part of a call takes the force down. -/
theorem encodeAux_force (e : Avc444Encoder) (key : Bool) (currentHash : ℕ)
    (answer : H264Answer) :
    (e.encodeAux key currentHash answer).1.forceAuxOnNextFrame = false := by
  rcases encodeAux_cases e key currentHash answer with ⟨-, heq⟩ | ⟨-, e', rfl, hrest⟩
  · rw [heq]
    rfl
  · rw [forceAuxIdr_eq] at hrest
    rcases hrest with ⟨message, err, -, heq⟩ | ⟨key', -, heq⟩ | ⟨b, bs, key', -, heq⟩
    · rw [heq]
    · rw [heq]
      rfl
    · rw [heq]

/-- A call that comes to the view, or at which no IDR is due, leaves no force behind. -/
theorem encodeBgra_force (platform : Platform) (e : Avc444Encoder) (c : EncodeCall)
    (h : e.auxEncode platform c ≠ .unreached ∨
      e.isPeriodicIdrDue c.now = false ∧ e.forceAuxOnNextFrame = false) :
    (e.encodeBgra platform c).1.forceAuxOnNextFrame = false := by
  unfold auxEncode at h
  unfold encodeBgra
  rcases hrej : c.reject with - | err
  · -- the call gets through to the encoder, unless the frame is refused or cannot be converted
    rw [hrej] at h
    rcases hyuv : bgraToYuv444 platform.target c.bgraData c.width c.height e.colorMatrix with
      - | yuv444
    · rw [hyuv] at h
      exact (h.resolve_left fun hne => hne rfl).2
    · rw [hyuv] at h
      obtain ⟨last, heq⟩ := e.forceDueIdr_eq c.now
      simp only [encodeViews]
      -- a failure of the main stream leaves a force behind only if one was there or is due
      rcases hmain : c.main with message | ⟨data, key⟩
      · rw [hmain] at h
        obtain ⟨hdue, hforce⟩ := h.resolve_left fun hne => hne rfl
        show (e.forceDueIdr c.now).forceAuxOnNextFrame = false
        rw [heq]
        show (e.isPeriodicIdrDue c.now || e.forceAuxOnNextFrame) = false
        rw [hdue, hforce]
        rfl
      · -- otherwise the auxiliary stream takes it down
        obtain ⟨encoder', k, henc, -⟩ := encode_main (e.forceDueIdr c.now).encoder data key
        simp only [henc]
        have hdown := encodeAux_force { e.forceDueIdr c.now with encoder := encoder' } k
          (platform.hashAux yuv444) c.aux
        generalize { e.forceDueIdr c.now with encoder := encoder' }.encodeAux k
          (platform.hashAux yuv444) c.aux = r at hdown ⊢
        obtain ⟨e', err | stream2Data⟩ := r
        · exact hdown
        · simp only [finish_eq]
          exact hdown
  · -- the frame is refused before the force is looked at
    rw [hrej] at h
    exact (h.resolve_left fun hne => hne rfl).2

/-- How a call ends, and what is remembered of it. -/
structure Unheeded (e : Avc444Encoder) (r : Avc444Encoder × EncodeResult Avc444Frame) : Prop where
  isFrame : r.2.isFrame = false
  stream2Data : r.2.stream2Data = none
  framesSinceAux : r.1.framesSinceAux = e.framesSinceAux
  lastAuxHash : r.1.lastAuxHash = e.lastAuxHash

theorem unheeded_of_failed (h : e.auxOutcome platform c = .failed) :
    e.Unheeded (e.encodeBgra platform c) := by
  rcases e.encodeBgra_outcome platform c with ⟨-, -, hres, hframes, hhash⟩ | ⟨hout, -⟩ |
      ⟨hash, data, hout, -⟩
  · rcases hres with hres | ⟨err, hres⟩
    · exact ⟨by rw [hres]; rfl, by rw [hres]; rfl, hframes, hhash⟩
    · exact ⟨by rw [hres]; rfl, by rw [hres]; rfl, hframes, hhash⟩
  · rw [h] at hout
    cases hout
  · rw [h] at hout
    cases hout

theorem of_auxOutcome_omitted (h : e.auxOutcome platform c = .omitted) :
    (e.encodeBgra platform c).2.stream2Data = none ∧
      (e.encodeBgra platform c).1.framesSinceAux = wrapU32 (e.framesSinceAux + 1) ∧
      (e.encodeBgra platform c).1.lastAuxHash = e.lastAuxHash := by
  rcases e.encodeBgra_outcome platform c with ⟨hout, -⟩ | ⟨-, -, hres, hframes, hhash⟩ |
      ⟨hash, data, hout, -⟩
  · rw [h] at hout
    cases hout
  · refine ⟨?_, hframes, hhash⟩
    rcases hres with hres | ⟨f, hres, hnone⟩
    · rw [hres]
      rfl
    · rw [hres]
      exact hnone
  · rw [h] at hout
    cases hout

theorem of_auxOutcome_produced {hash : ℕ} {data : List UInt8}
    (h : e.auxOutcome platform c = .produced hash data) (hmain : c.main.isOutput = true) :
    (e.encodeBgra platform c).2.stream2Data = some data ∧
      (e.encodeBgra platform c).1.framesSinceAux = 0 ∧
      (e.encodeBgra platform c).1.lastAuxHash ≠ none := by
  rcases e.encodeBgra_outcome platform c with ⟨hout, -⟩ | ⟨hout, -⟩ |
      ⟨hash', data', hout, -, -, hres, hframes, hhash⟩
  · rw [h] at hout
    cases hout
  · rw [h] at hout
    cases hout
  · rw [h] at hout
    obtain ⟨rfl, rfl⟩ := AuxOutcome.produced.inj hout
    rw [if_pos hmain] at hres
    obtain ⟨f, hres, hsome⟩ := hres
    refine ⟨?_, hframes, ?_⟩
    · rw [hres]
      exact hsome
    · rw [hhash]
      exact Option.some_ne_none hash

end Avc444Encoder

/-! ### Histories -/

/-- One call as it looks from outside. -/
structure AuxCall where
  auxEncode : AuxEncode
  result : EncodeResult Avc444Frame
  /-- `max_aux_interval` when the call is made -/
  maxInterval : ℕ
  omission : Bool
  /-- an IDR has been requested, or a periodic one is due -/
  idrDue : Bool

namespace AuxCall

/-- The call returns chroma. -/
def carries (r : AuxCall) : Bool := r.result.stream2Data.isSome

/-- The call returns a frame without chroma. -/
def isPlain (r : AuxCall) : Bool := r.result.isFrame && !r.carries

/-- How many of the calls came to this. -/
def tally (kind : AuxEncode) (calls : List AuxCall) : ℕ :=
  calls.countP fun r => r.auxEncode = kind

theorem tally_snoc (kind : AuxEncode) (calls : List AuxCall) (r : AuxCall) :
    tally kind (calls ++ [r]) = tally kind calls + if r.auxEncode = kind then 1 else 0 := by
  rw [tally, List.countP_append, List.countP_singleton]
  simp only [decide_eq_true_eq]
  rfl

end AuxCall

/-- What holds of the calls of an encoder that leaves no client with chroma that is too old. -/
structure FreshChroma (calls : List AuxCall) : Prop where
  /-- behind a frame with chroma -/
  refreshed : Stretches (fun r => r.carries = true) (fun r => r.carries = false)
    (fun mid => ∀ m, (∀ r ∈ mid, r.maxInterval ≤ m) →
      mid.countP (·.isPlain) ≤ m + mid.countP (·.auxEncode.isUnserved)) calls
  /-- the first frame -/
  first : EachAfter (fun pre r => (∀ x ∈ pre, x.result.isFrame = false) →
    r.result.isFrame = true → r.carries = true ∨ r.auxEncode = .skipped) calls
  /-- from one auxiliary stream to the next encode of one -/
  spaced : EachAfter (fun pre r => r.auxEncode.isAttempt = true → r.idrDue = false →
    r.omission = true →
      Stretches (fun x => x.auxEncode = .made)
        (fun x => x.auxEncode.isAttempt = false ∧ x.idrDue = false)
        (fun mid => ∀ m, (∀ x ∈ mid ++ [r], m ≤ x.maxInterval) →
          min Avc444Encoder.minAuxInterval m ≤ AuxCall.tally .omitted mid) pre) calls

/-- An encoder, and the record of its calls. -/
structure AuxHistory where
  run : Avc444Run
  calls : List AuxCall

namespace AuxHistory

/-- A new encoder, before any call. -/
def start (colorMatrix : ColorMatrix) (now : ℕ) : AuxHistory := ⟨.new colorMatrix now, []⟩

/-- What is remembered of a call of `encode_bgra`. -/
def record (platform : Platform) (e : Avc444Encoder) (c : EncodeCall) : AuxCall where
  auxEncode := e.auxEncode platform c
  result := (e.encodeBgra platform c).2
  maxInterval := e.maxAuxInterval
  omission := e.enableAuxOmission
  idrDue := e.isPeriodicIdrDue c.now

/-- A call, with its record. -/
def step (platform : Platform) (h : AuxHistory) (event : Avc444Event) : AuxHistory where
  run := h.run.step platform event
  calls :=
    match event with
    | .encodeBgra c => h.calls ++ [record platform h.run.encoder c]
    | _ => h.calls

/-- `step`, as a relation. -/
def Step (platform : Platform) (h : AuxHistory) (event : Avc444Event) (h' : AuxHistory) : Prop :=
  h.step platform event = h'

variable {platform : Platform} {h : AuxHistory} {c : EncodeCall}

/-- What the encoder remembers of the calls. -/
structure Tracked (h : AuxHistory) : Prop where
  /-- a frame without chroma has not been encoded, or encoded to nothing -/
  plain : ∀ r ∈ h.calls, r.isPlain = true → r.auxEncode = .omitted ∨ r.auxEncode = .skipped
  carried : Stretches (fun r => r.carries = true) (fun r => r.carries = false)
    (fun mid => h.run.encoder.lastAuxHash ≠ none ∧
      h.run.encoder.framesSinceAux = AuxCall.tally .omitted mid + AuxCall.tally .skipped mid ∧
      ∀ m, (∀ r ∈ mid, r.maxInterval ≤ m) → AuxCall.tally .omitted mid ≤ m) h.calls
  unreturned : (∀ r ∈ h.calls, r.result.isFrame = false) → h.run.encoder.lastAuxHash = none
  made : Stretches (fun x => x.auxEncode = .made)
    (fun x => x.auxEncode.isAttempt = false ∧ x.idrDue = false)
    (fun mid => h.run.encoder.lastAuxHash ≠ none ∧
      h.run.encoder.forceAuxOnNextFrame = false ∧
      h.run.encoder.framesSinceAux = AuxCall.tally .omitted mid) h.calls

/-- How a call that keeps the bookkeeping can go. -/
theorem call_cases (hkeeps : h.run.Keeps platform (.encodeBgra c)) :
    ((h.run.encoder.auxEncode platform c = .unreached ∨
        h.run.encoder.auxEncode platform c = .failed) ∧
      h.run.encoder.Unheeded (h.run.encoder.encodeBgra platform c)) ∨
    ((h.run.encoder.auxEncode platform c = .omitted ∨
        h.run.encoder.auxEncode platform c = .skipped) ∧
      (h.run.encoder.encodeBgra platform c).2.stream2Data = none ∧
      (h.run.encoder.encodeBgra platform c).1.framesSinceAux = h.run.encoder.framesSinceAux + 1 ∧
      (h.run.encoder.encodeBgra platform c).1.lastAuxHash = h.run.encoder.lastAuxHash) ∨
    (h.run.encoder.auxEncode platform c = .made ∧
      (∃ data, (h.run.encoder.encodeBgra platform c).2.stream2Data = some data) ∧
      (h.run.encoder.encodeBgra platform c).1.framesSinceAux = 0 ∧
      (h.run.encoder.encodeBgra platform c).1.lastAuxHash ≠ none) := by
  have hout := h.run.encoder.auxOutcome_of_auxEncode platform c
  -- an omission counts a frame, as far as a `u32` can
  have hwrap : h.run.encoder.auxOutcome platform c = .omitted →
      wrapU32 (h.run.encoder.framesSinceAux + 1) = h.run.encoder.framesSinceAux + 1 := by
    intro homitted
    rw [Avc444Run.Keeps, homitted] at hkeeps
    exact Nat.mod_eq_of_lt hkeeps
  cases hkind : h.run.encoder.auxEncode platform c with
  | unreached =>
      rw [hkind] at hout
      exact .inl ⟨.inl rfl, Avc444Encoder.unheeded_of_failed hout⟩
  | failed =>
      rw [hkind] at hout
      exact .inl ⟨.inr rfl, Avc444Encoder.unheeded_of_failed hout⟩
  | omitted =>
      rw [hkind] at hout
      obtain ⟨hstream, hframes, hhash⟩ := Avc444Encoder.of_auxOutcome_omitted hout
      exact .inr (.inl ⟨.inl rfl, hstream, hframes.trans (hwrap hout), hhash⟩)
  | skipped =>
      rw [hkind] at hout
      obtain ⟨hstream, hframes, hhash⟩ := Avc444Encoder.of_auxOutcome_omitted hout
      exact .inr (.inl ⟨.inr rfl, hstream, hframes.trans (hwrap hout), hhash⟩)
  | made =>
      rw [hkind] at hout
      obtain ⟨hash, data, hout⟩ := hout
      rw [Avc444Run.Keeps, hout] at hkeeps
      obtain ⟨hstream, hframes, hhash⟩ := Avc444Encoder.of_auxOutcome_produced hout hkeeps
      exact .inr (.inr ⟨rfl, ⟨data, hstream⟩, hframes, hhash⟩)

/-- A stream that is returned is returned with a frame. -/
theorem isFrame_of_stream2Data {result : EncodeResult Avc444Frame} {data : List UInt8}
    (h : result.stream2Data = some data) : result.isFrame = true := by
  cases result with
  | frame f => rfl
  | panicked | err | skipped => cases h

theorem tracked_start (colorMatrix : ColorMatrix) (now : ℕ) :
    Tracked (start colorMatrix now) where
  plain := fun _ hr => absurd hr List.not_mem_nil
  carried := stretches_nil
  unreturned := fun _ => rfl
  made := stretches_nil

/-- What a step other than a call leaves alone. -/
theorem Tracked.of_eq {h' : AuxHistory} (ht : Tracked h) (hcalls : h'.calls = h.calls)
    (hhash : h'.run.encoder.lastAuxHash = h.run.encoder.lastAuxHash)
    (hframes : h'.run.encoder.framesSinceAux = h.run.encoder.framesSinceAux)
    (hforce : h'.run.encoder.forceAuxOnNextFrame = h.run.encoder.forceAuxOnNextFrame) :
    Tracked h' := by
  obtain ⟨hplain, hcarried, hunreturned, hmade⟩ := ht
  refine ⟨?_, ?_, ?_, ?_⟩
  · rwa [hcalls]
  · rwa [hcalls, hhash, hframes]
  · rwa [hcalls, hhash]
  · rwa [hcalls, hhash, hframes, hforce]

@[simp] theorem step_calls (platform : Platform) (h : AuxHistory) (c : EncodeCall) :
    (h.step platform (.encodeBgra c)).calls = h.calls ++ [record platform h.run.encoder c] :=
  rfl

/-- A call whose stream carries nothing. -/
theorem carries_eq_false (hstream : (h.run.encoder.encodeBgra platform c).2.stream2Data = none) :
    (record platform h.run.encoder c).carries = false := by
  show ((h.run.encoder.encodeBgra platform c).2.stream2Data).isSome = false
  rw [hstream]
  rfl

/-- A record of one kind adds to the tally of that kind alone. -/
theorem tally_record {kind : AuxEncode} (hkind : h.run.encoder.auxEncode platform c = kind)
    (k : AuxEncode) (mid : List AuxCall) :
    AuxCall.tally k (mid ++ [record platform h.run.encoder c]) =
      AuxCall.tally k mid + if kind = k then 1 else 0 := by
  rw [AuxCall.tally_snoc, ← hkind]
  rfl

theorem Tracked.plain_call (ht : Tracked h) (hkeeps : h.run.Keeps platform (.encodeBgra c)) :
    ∀ r ∈ (h.step platform (.encodeBgra c)).calls, r.isPlain = true →
      r.auxEncode = .omitted ∨ r.auxEncode = .skipped := by
  intro r hr hplain
  rw [step_calls] at hr
  rcases List.mem_append.mp hr with hr | hr
  · exact ht.plain r hr hplain
  · obtain rfl := List.mem_singleton.mp hr
    obtain ⟨hframe, hcarries⟩ := Bool.and_eq_true_iff.mp hplain
    rcases call_cases hkeeps with ⟨-, hun⟩ | ⟨hkind, -⟩ | ⟨-, ⟨data, hstream⟩, -⟩
    · rw [record, hun.isFrame] at hframe
      cases hframe
    · exact hkind
    · rw [AuxCall.carries, record, hstream] at hcarries
      cases hcarries

theorem Tracked.carried_call (ht : Tracked h) (hkeeps : h.run.Keeps platform (.encodeBgra c)) :
    Stretches (fun r => r.carries = true) (fun r => r.carries = false)
      (fun mid => (h.run.encoder.encodeBgra platform c).1.lastAuxHash ≠ none ∧
        (h.run.encoder.encodeBgra platform c).1.framesSinceAux =
          AuxCall.tally .omitted mid + AuxCall.tally .skipped mid ∧
        ∀ m, (∀ r ∈ mid, r.maxInterval ≤ m) → AuxCall.tally .omitted mid ≤ m)
      (h.calls ++ [record platform h.run.encoder c]) := by
  refine ht.carried.snoc (fun hcarries => ?_) fun mid _ hmid hplain => ?_
  · -- a frame with chroma
    rcases call_cases hkeeps with ⟨-, hun⟩ | ⟨-, hstream, -⟩ | ⟨-, -, hframes, hhash⟩
    · rw [carries_eq_false hun.stream2Data] at hcarries
      cases hcarries
    · rw [carries_eq_false hstream] at hcarries
      cases hcarries
    · exact ⟨hhash, hframes, fun m _ => Nat.zero_le m⟩
  · obtain ⟨hhash, hframes, hbound⟩ := hmid
    have hbefore : ∀ m, (∀ r ∈ mid ++ [record platform h.run.encoder c], r.maxInterval ≤ m) →
        AuxCall.tally .omitted mid ≤ m :=
      fun m hm => hbound m fun r hr => hm r (List.mem_append_left _ hr)
    rcases call_cases hkeeps with ⟨hkind, hun⟩ | ⟨hkind, -, hframes', hhash'⟩ |
        ⟨-, ⟨data, hstream⟩, -⟩
    · rw [hun.lastAuxHash, hun.framesSinceAux]
      rcases hkind with hkind | hkind
      · rw [tally_record hkind, tally_record hkind]
        exact ⟨hhash, hframes, hbefore⟩
      · rw [tally_record hkind, tally_record hkind]
        exact ⟨hhash, hframes, hbefore⟩
    · rw [hhash', hframes', hframes]
      rcases hkind with hkind | hkind
      · -- not encoded: the count is still below the interval
        obtain ⟨-, hlt⟩ := Avc444Encoder.of_auxEncode_omitted hkind
        rw [tally_record hkind, tally_record hkind]
        refine ⟨hhash, Nat.add_right_comm _ _ _, fun m hm => ?_⟩
        have hinterval : h.run.encoder.maxAuxInterval ≤ m :=
          hm _ (List.mem_append_right _ (List.mem_singleton_self _))
        show AuxCall.tally .omitted mid + 1 ≤ m
        omega
      · rw [tally_record hkind, tally_record hkind]
        exact ⟨hhash, rfl, hbefore⟩
    · rw [AuxCall.carries, record, hstream] at hplain
      cases hplain

theorem Tracked.unreturned_call (ht : Tracked h)
    (hkeeps : h.run.Keeps platform (.encodeBgra c))
    (hnone : ∀ r ∈ h.calls ++ [record platform h.run.encoder c], r.result.isFrame = false) :
    (h.run.encoder.encodeBgra platform c).1.lastAuxHash = none := by
  have hbefore := ht.unreturned fun r hr => hnone r (List.mem_append_left _ hr)
  rcases call_cases hkeeps with ⟨-, hun⟩ | ⟨-, -, -, hhash⟩ | ⟨-, ⟨data, hstream⟩, -⟩
  · exact hun.lastAuxHash.trans hbefore
  · exact hhash.trans hbefore
  · have hlast := hnone _ (List.mem_append_right _ (List.mem_singleton_self _))
    rw [record, isFrame_of_stream2Data hstream] at hlast
    cases hlast

theorem Tracked.made_call (ht : Tracked h) (hkeeps : h.run.Keeps platform (.encodeBgra c)) :
    Stretches (fun x => x.auxEncode = .made)
      (fun x => x.auxEncode.isAttempt = false ∧ x.idrDue = false)
      (fun mid => (h.run.encoder.encodeBgra platform c).1.lastAuxHash ≠ none ∧
        (h.run.encoder.encodeBgra platform c).1.forceAuxOnNextFrame = false ∧
        (h.run.encoder.encodeBgra platform c).1.framesSinceAux = AuxCall.tally .omitted mid)
      (h.calls ++ [record platform h.run.encoder c]) := by
  refine ht.made.snoc (fun hmade => ?_) fun mid _ hmid hquiet => ?_
  · -- the call is a made one: only one of the five cases is left
    have hmade' : h.run.encoder.auxEncode platform c = .made := hmade
    have hforce := Avc444Encoder.encodeBgra_force platform h.run.encoder c
      (.inl (by rw [hmade']; decide))
    rcases call_cases hkeeps with ⟨hkind | hkind, -⟩ | ⟨hkind | hkind, -⟩ | ⟨-, -, hframes, hhash⟩
    · rw [hmade'] at hkind
      cases hkind
    · rw [hmade'] at hkind
      cases hkind
    · rw [hmade'] at hkind
      cases hkind
    · rw [hmade'] at hkind
      cases hkind
    · exact ⟨hhash, hforce, hframes⟩
  · -- the call goes on with a stretch in which nothing is attempted
    obtain ⟨hhash, hforce, hframes⟩ := hmid
    obtain ⟨hattempt, hdue⟩ := hquiet
    have hattempt' : (h.run.encoder.auxEncode platform c).isAttempt = false := hattempt
    have hforce' := Avc444Encoder.encodeBgra_force platform h.run.encoder c (.inr ⟨hdue, hforce⟩)
    rcases call_cases hkeeps with ⟨hkind | hkind, hun⟩ | ⟨hkind | hkind, -, hframes', hhash'⟩ |
        ⟨hkind, -⟩
    · rw [hun.lastAuxHash, hun.framesSinceAux, tally_record hkind]
      exact ⟨hhash, hforce', hframes⟩
    · rw [hkind] at hattempt'
      cases hattempt'
    · rw [hhash', hframes', tally_record hkind, hframes]
      exact ⟨hhash, hforce', rfl⟩
    · rw [hkind] at hattempt'
      cases hattempt'
    · rw [hkind] at hattempt'
      cases hattempt'

/-- A step that keeps the bookkeeping. -/
theorem Tracked.step (ht : Tracked h) {event : Avc444Event} (hkeeps : h.run.Keeps platform event) :
    Tracked (h.step platform event) := by
  cases event with
  | encodeBgra c =>
      exact ⟨ht.plain_call hkeeps, ht.carried_call hkeeps, ht.unreturned_call hkeeps,
        ht.made_call hkeeps⟩
  | requestIdr | configureAuxOmission | setAuxMaxInterval | forceKeyframe | configurePeriodicIdr =>
      exact ht.of_eq rfl rfl rfl rfl

/-! ### Fresh chroma -/

/-- A frame without chroma has not been encoded, or in vain. -/
theorem countP_isPlain_le {mid : List AuxCall}
    (h : ∀ r ∈ mid, r.isPlain = true → r.auxEncode = .omitted ∨ r.auxEncode = .skipped) :
    mid.countP (·.isPlain) ≤
      AuxCall.tally .omitted mid + mid.countP (·.auxEncode.isUnserved) := by
  induction mid with
  | nil => exact le_rfl
  | cons r mid ih =>
      have hrest := ih fun x hx => h x (List.mem_cons_of_mem r hx)
      unfold AuxCall.tally at hrest ⊢
      rw [List.countP_cons, List.countP_cons, List.countP_cons]
      cases hr : r.isPlain with
      | false =>
          rw [if_neg (by simp)]
          omega
      | true =>
          rcases h r List.mem_cons_self hr with hkind | hkind
          · rw [hkind, if_pos rfl, if_pos (by simp)]
            omega
          · rw [hkind, if_pos rfl, if_neg (by simp), if_pos (by rfl)]
            omega

/-- Of a stretch without chroma, the frames that have not been encoded are bounded by the
interval. -/
theorem Tracked.refreshed (ht : Tracked h) :
    Stretches (fun r => r.carries = true) (fun r => r.carries = false)
      (fun mid => ∀ m, (∀ r ∈ mid, r.maxInterval ≤ m) →
        mid.countP (·.isPlain) ≤ m + mid.countP (·.auxEncode.isUnserved)) h.calls := by
  refine ht.carried.mono fun mid hmem _ hmid m hm => ?_
  have hplain := countP_isPlain_le fun r hr => ht.plain r (hmem r hr)
  have hcount := hmid.2.2 m hm
  omega

/-- The first frame is encoded in full. -/
theorem Tracked.first_call (ht : Tracked h) (hkeeps : h.run.Keeps platform (.encodeBgra c))
    (hnone : ∀ x ∈ h.calls, x.result.isFrame = false)
    (hframe : (h.run.encoder.encodeBgra platform c).2.isFrame = true) :
    (record platform h.run.encoder c).carries = true ∨
      h.run.encoder.auxEncode platform c = .skipped := by
  rcases call_cases hkeeps with ⟨-, hun⟩ | ⟨hkind | hkind, -⟩ | ⟨-, ⟨data, hstream⟩, -⟩
  · rw [hun.isFrame] at hframe
    cases hframe
  · exact absurd (ht.unreturned hnone) (Avc444Encoder.of_auxEncode_omitted hkind).1
  · exact .inr hkind
  · refine .inl ?_
    rw [AuxCall.carries, record, hstream]
    rfl

/-- The next encode of an auxiliary view comes after as many calls as the counter tells. -/
theorem Tracked.spaced_call (ht : Tracked h)
    (hattempt : (h.run.encoder.auxEncode platform c).isAttempt = true)
    (hdue : h.run.encoder.isPeriodicIdrDue c.now = false)
    (homission : h.run.encoder.enableAuxOmission = true) :
    Stretches (fun x => x.auxEncode = .made)
      (fun x => x.auxEncode.isAttempt = false ∧ x.idrDue = false)
      (fun mid => ∀ m, (∀ x ∈ mid ++ [record platform h.run.encoder c], m ≤ x.maxInterval) →
        min Avc444Encoder.minAuxInterval m ≤ AuxCall.tally .omitted mid) h.calls := by
  refine ht.made.mono fun mid _ _ hmid m hm => ?_
  obtain ⟨hhash, hforce, hframes⟩ := hmid
  have hmin := Avc444Encoder.of_auxEncode_isAttempt hattempt hdue hforce homission hhash
  have hinterval : m ≤ h.run.encoder.maxAuxInterval :=
    hm _ (List.mem_append_right _ (List.mem_singleton_self _))
  rw [← hframes]
  exact (min_le_min_left _ hinterval).trans hmin

/-- A history that is tracked and fresh so far. -/
theorem fresh_step (ht : Tracked h) (hfresh : FreshChroma h.calls) {event : Avc444Event}
    (hkeeps : h.run.Keeps platform event) : FreshChroma (h.step platform event).calls := by
  have hnext := ht.step hkeeps
  cases event with
  | encodeBgra c =>
      refine ⟨hnext.refreshed, ?_, ?_⟩
      · exact eachAfter_snoc.mpr ⟨hfresh.first, ht.first_call hkeeps⟩
      · exact eachAfter_snoc.mpr ⟨hfresh.spaced, ht.spaced_call⟩
  | requestIdr | configureAuxOmission | setAuxMaxInterval | forceKeyframe | configurePeriodicIdr =>
      exact hfresh

/-- **Chroma is fresh in every run that keeps the bookkeeping**: no call makes an auxiliary
stream while its main stream is skipped, and none is the 2^32nd without one. -/
theorem chroma_fresh_of_run (platform : Platform) (colorMatrix : ColorMatrix) (now : ℕ)
    (events : List Avc444Event) (h : AuxHistory)
    (hrun : Run (Guarded (Step platform) fun h event => h.run.Keeps platform event)
      (start colorMatrix now) events h) : FreshChroma h.calls := by
  have hboth : Tracked h ∧ FreshChroma h.calls := by
    refine hrun.invariant (P := fun h => Tracked h ∧ FreshChroma h.calls)
      ⟨tracked_start colorMatrix now, stretches_nil, eachAfter_nil, eachAfter_nil⟩ ?_
    rintro s event t ⟨ht, hfresh⟩ ⟨hst, hkeeps⟩
    rw [← show s.step platform event = t from hst]
    exact ⟨ht.step hkeeps, fresh_step ht hfresh hkeeps⟩
  exact hboth.2

theorem keeps_of_produced {s : Avc444Run} (hash : ℕ) (data : List UInt8)
    (h : s.encoder.auxOutcome platform c = .produced hash data)
    (hmain : c.main.isOutput = true) : s.Keeps platform (.encodeBgra c) := by
  rw [Avc444Run.Keeps, h]
  exact hmain

theorem keeps_of_omitted {s : Avc444Run} (h : s.encoder.auxOutcome platform c = .omitted)
    (hcount : s.encoder.framesSinceAux + 1 < 2 ^ 32) : s.Keeps platform (.encodeBgra c) := by
  rw [Avc444Run.Keeps, h]
  exact hcount

/-- A frame with chroma and one without. -/
theorem chroma_fresh_two_frames : ∃ h, Run (Step plainPlatform) (start .bt709 0)
    [.configureAuxOmission true 30 false, .encodeBgra (blackCall [1] [2]),
      .encodeBgra (blackCall [3] [4])] h ∧ FreshChroma h.calls := by
  refine ⟨_, ((Run.nil.snoc rfl).snoc rfl).snoc rfl, chroma_fresh_of_run plainPlatform .bt709 0
    [.configureAuxOmission true 30 false, .encodeBgra (blackCall [1] [2]),
      .encodeBgra (blackCall [3] [4])] _
    (((Run.nil.snoc ⟨rfl, trivial⟩).snoc ⟨rfl, ?_⟩).snoc ⟨rfl, ?_⟩)⟩
  · exact keeps_of_omitted (by decide) (by decide)
  · exact keeps_of_produced 0 [2] (by decide) (by decide)

/-- Rate control skips the first main stream, and the first frame comes without chroma, which
has not been encoded. -/
theorem first_frame_without_chroma : ∃ h, Run (Step plainPlatform) (start .bt709 0)
    [.configureAuxOmission true 30 false, .encodeBgra (blackCall [] [2]),
      .encodeBgra (blackCall [3] [4])] h ∧ ¬FreshChroma h.calls := by
  refine ⟨_, ((Run.nil.snoc rfl).snoc rfl).snoc rfl, fun hfresh => ?_⟩
  have hwith := hfresh.first [_] _ [] rfl (fun x hx => ?_) (by decide)
  · revert hwith
    decide
  · obtain rfl := List.mem_singleton.mp hx
    decide

end AuxHistory

end LamcoRdp
