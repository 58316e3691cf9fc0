/-
LamcoRdp/Egfx/AuxStream.lean

The auxiliary stream of AVC444: what the encoder remembers of it, and what its
caller has got.

`Avc444Run` is an encoder with a record of its calls as the caller sees them.
The auxiliary encode and its bookkeeping come before the check that the main
stream is there, so that a call whose main stream is skipped can produce an
auxiliary stream, count it as sent, and return nothing.  Without such a call, and
while the counter fits its type, the record and the bookkeeping agree
(`aux_bookkeeping_iff`).
-/
import LamcoRdp.Egfx.IdrRequests

namespace LamcoRdp

open Runs

/-! ### One call -/

/-- The answer is a bitstream with something in it. -/
def H264Answer.isOutput : H264Answer → Bool
  | .bitstream (_ :: _) _ => true
  | _ => false

/-- What comes of the auxiliary view in one call. -/
inductive AuxOutcome
  /-- the call fails -/
  | failed
  /-- not encoded, or skipped by the encoder -/
  | omitted
  /-- encoded, the view having this hash -/
  | produced (hash : ℕ) (data : List UInt8)
  deriving DecidableEq, Repr

namespace Avc444Encoder

/-- The outcome, from the state before the call and the answers of OpenH264. -/
def auxOutcome (platform : Platform) (e : Avc444Encoder) (c : EncodeCall) : AuxOutcome :=
  match c.reject, bgraToYuv444 platform.target c.bgraData c.width c.height e.colorMatrix with
  | none, some yuv444 =>
      match c.main with
      | .error _ => .failed
      | .bitstream _ _ =>
          if ((e.forceDueIdr c.now).shouldSendAux (platform.hashAux yuv444)).2 then
            match c.aux with
            | .error _ => .failed
            | .bitstream [] _ => .omitted
            | .bitstream (b :: bs) _ => .produced (platform.hashAux yuv444) (b :: bs)
          else .omitted
  | _, _ => .failed

/-- The auxiliary bitstream a call got out of the H.264 encoder: the one after
that of the main view. -/
def auxBitstream (platform : Platform) (e : Avc444Encoder) (c : EncodeCall) :
    Option (List UInt8) :=
  (((e.encodeBgra platform c).1.encoder.outputs.drop
    (e.encoder.outputs.length + c.main.isOutput.toNat)).head?).map EncodedFrameData.data

/-- The auxiliary view of the frame of this call, hashed. -/
def auxHash (platform : Platform) (e : Avc444Encoder) (c : EncodeCall) : Option ℕ :=
  (bgraToYuv444 platform.target c.bgraData c.width c.height e.colorMatrix).map platform.hashAux

/-- `should_send_aux` does not look at the H.264 encoder. -/
theorem shouldSendAux_withEncoder (e : Avc444Encoder) (encoder : VersionedEncoder)
    (currentHash : ℕ) :
    ({ e with encoder := encoder }.shouldSendAux currentHash).2
      = (e.shouldSendAux currentHash).2 := by
  obtain ⟨enc, cm, all, lh, fs, mi, fr, om, last, secs, flag, fa⟩ := e
  rw [shouldSendAux, shouldSendAux]
  cases fa with
  | true => rfl
  | false =>
      cases om with
      | false => rfl
      | true =>
          cases lh with
          | none => rfl
          | some previousHash =>
              simp only [Bool.false_eq_true, if_false, Bool.not_true]
              split_ifs <;> rfl

/-- The force before the main encode touches none of the bookkeeping. -/
theorem forceDueIdr_aux (e : Avc444Encoder) (now : ℕ) :
    (e.forceDueIdr now).framesSinceAux = e.framesSinceAux ∧
      (e.forceDueIdr now).lastAuxHash = e.lastAuxHash ∧
      (e.forceDueIdr now).encoder.outputs = e.encoder.outputs := by
  obtain ⟨last, heq⟩ := e.forceDueIdr_eq now
  rw [heq]
  exact ⟨rfl, rfl, rfl⟩

/-- What the auxiliary part of a call does to the bookkeeping and to the log of
the H.264 encoder. -/
theorem encodeAux_aux (e : Avc444Encoder) (key : Bool) (currentHash : ℕ) (answer : H264Answer) :
    ((e.shouldSendAux currentHash).2 = true ∧ (∃ message, answer = .error message) ∧
      (∃ err, (e.encodeAux key currentHash answer).2 = .error err) ∧
      (e.encodeAux key currentHash answer).1.framesSinceAux = e.framesSinceAux ∧
      (e.encodeAux key currentHash answer).1.lastAuxHash = e.lastAuxHash ∧
      (e.encodeAux key currentHash answer).1.encoder.outputs = e.encoder.outputs) ∨
    (((e.shouldSendAux currentHash).2 = true → ∃ key', answer = .bitstream [] key') ∧
      (e.encodeAux key currentHash answer).2 = .ok none ∧
      (e.encodeAux key currentHash answer).1.framesSinceAux = wrapU32 (e.framesSinceAux + 1) ∧
      (e.encodeAux key currentHash answer).1.lastAuxHash = e.lastAuxHash ∧
      (e.encodeAux key currentHash answer).1.encoder.outputs = e.encoder.outputs) ∨
    ((e.shouldSendAux currentHash).2 = true ∧ ∃ b bs key', answer = .bitstream (b :: bs) key' ∧
      (e.encodeAux key currentHash answer).2 = .ok (some (b :: bs)) ∧
      (e.encodeAux key currentHash answer).1.framesSinceAux = 0 ∧
      (e.encodeAux key currentHash answer).1.lastAuxHash = some currentHash ∧
      ∃ k, (e.encodeAux key currentHash answer).1.encoder.outputs
        = e.encoder.outputs ++ [⟨b :: bs, k⟩]) := by
  rcases encodeAux_cases e key currentHash answer with ⟨hs, heq⟩ | ⟨hs, e', rfl, hrest⟩
  · -- the aux view is not sent: the skip is counted
    rw [heq]
    refine Or.inr (Or.inl ⟨fun hyes => ?_, rfl, rfl, rfl, rfl⟩)
    rw [hs] at hyes
    cases hyes
  · rw [forceAuxIdr_eq] at hrest
    -- the three answers of the encoder: an error, an empty bitstream, a bitstream
    rcases hrest with ⟨message, err, rfl, heq⟩ | ⟨key', rfl, heq⟩ | ⟨b, bs, key', rfl, heq⟩
    · rw [heq]
      exact Or.inl ⟨hs, ⟨message, rfl⟩, ⟨err, rfl⟩, rfl, rfl, rfl⟩
    · rw [heq]
      exact Or.inr (Or.inl ⟨fun _ => ⟨key', rfl⟩, rfl, rfl, rfl, rfl⟩)
    · rw [heq]
      exact Or.inr (Or.inr ⟨hs, b, bs, key', rfl, rfl, rfl, rfl, _, rfl⟩)

/-- The call goes wrong: nothing is remembered of it. -/
def FailedCall (e : Avc444Encoder) (r : Avc444Encoder × EncodeResult Avc444Frame) : Prop :=
  (r.2 = .panicked ∨ ∃ err, r.2 = .err err) ∧
    r.1.framesSinceAux = e.framesSinceAux ∧ r.1.lastAuxHash = e.lastAuxHash

/-- The frame leaves without auxiliary stream, or not at all. -/
def OmittedCall (e : Avc444Encoder) (r : Avc444Encoder × EncodeResult Avc444Frame) : Prop :=
  (r.2 = .skipped ∨ ∃ f, r.2 = .frame f ∧ f.stream2Data = none) ∧
    r.1.framesSinceAux = wrapU32 (e.framesSinceAux + 1) ∧ r.1.lastAuxHash = e.lastAuxHash

/-- An auxiliary stream was made; it is returned with the main stream, if that
is there. -/
def ProducedCall (c : EncodeCall) (hash : ℕ) (data : List UInt8)
    (r : Avc444Encoder × EncodeResult Avc444Frame) : Prop :=
  (if c.main.isOutput then ∃ f, r.2 = .frame f ∧ f.stream2Data = some data
    else r.2 = .skipped) ∧
    r.1.framesSinceAux = 0 ∧ r.1.lastAuxHash = some hash

/-- A main encode that is no error, and how far the log then is. -/
theorem encode_main (encoder : VersionedEncoder) (data : List UInt8) (key : Bool) :
    ∃ encoder' k, encoder.encode (.bitstream data key) = (encoder', .ok ⟨data, k⟩) ∧
      encoder'.outputs.length
        = encoder.outputs.length + (H264Answer.bitstream data key).isOutput.toNat := by
  cases data with
  | nil => exact ⟨encoder, key, rfl, rfl⟩
  | cons b bs => exact ⟨_, _, rfl, List.length_append⟩

/-- The last check of a call: is there a main stream? -/
theorem finish_eq {F : Type} (e : Avc444Encoder) (data : List UInt8) (f : F) :
    (if data.isEmpty = true then (e, EncodeResult.skipped) else (e, EncodeResult.frame f))
      = (e, if data.isEmpty = true then EncodeResult.skipped else EncodeResult.frame f) := by
  split <;> rfl

/-- **How a call ends**, by what comes of its auxiliary view. -/
theorem encodeBgra_outcome (platform : Platform) (e : Avc444Encoder) (c : EncodeCall) :
    (e.auxOutcome platform c = .failed ∧ e.auxBitstream platform c = none ∧
      e.FailedCall (e.encodeBgra platform c)) ∨
    (e.auxOutcome platform c = .omitted ∧ e.auxBitstream platform c = none ∧
      e.OmittedCall (e.encodeBgra platform c)) ∨
    ∃ hash data, e.auxOutcome platform c = .produced hash data ∧
      e.auxBitstream platform c = some data ∧ e.auxHash platform c = some hash ∧
      ProducedCall c hash data (e.encodeBgra platform c) := by
  have hlog : ∀ k : ℕ, ((e.encoder.outputs.drop (e.encoder.outputs.length + k)).head?).map
      EncodedFrameData.data = none := by
    intro k
    rw [List.drop_eq_nil_of_le (Nat.le_add_right _ k)]
    rfl
  unfold auxOutcome auxBitstream auxHash encodeBgra
  rcases hrej : c.reject with - | err
  · rcases hyuv : bgraToYuv444 platform.target c.bgraData c.width c.height e.colorMatrix with
      - | yuv444
    · exact Or.inl ⟨rfl, hlog _, Or.inl rfl, rfl, rfl⟩
    · obtain ⟨hframes, hhash, houtputs⟩ := e.forceDueIdr_aux c.now
      simp only [encodeViews]
      generalize hhashAux : platform.hashAux yuv444 = hash
      generalize e.forceDueIdr c.now = e₁ at hframes hhash houtputs
      rcases hmain : c.main with message | ⟨data, key⟩
      · -- the main encode fails
        left
        refine ⟨rfl, ?_, Or.inr ⟨_, rfl⟩, hframes, hhash⟩
        simp only [VersionedEncoder.encode, houtputs]
        exact hlog _
      · obtain ⟨encoder', k, henc, hlen⟩ := encode_main e₁.encoder data key
        simp only [henc]
        rw [← shouldSendAux_withEncoder e₁ encoder' hash]
        rw [houtputs] at hlen
        have hlog' : ((encoder'.outputs.drop (e.encoder.outputs.length
            + (H264Answer.bitstream data key).isOutput.toNat)).head?).map
              EncodedFrameData.data = none := by
          rw [← hlen, List.drop_length]
          rfl
        generalize he₂ : { e₁ with encoder := encoder' } = e₂
        have hframes₂ : e₂.framesSinceAux = e.framesSinceAux := by rw [← he₂]; exact hframes
        have hhash₂ : e₂.lastAuxHash = e.lastAuxHash := by rw [← he₂]; exact hhash
        have houtputs₂ : e₂.encoder.outputs = encoder'.outputs := by rw [← he₂]
        have haux := encodeAux_aux e₂ k hash c.aux
        rw [houtputs₂] at haux
        generalize e₂.encodeAux k hash c.aux = r at haux ⊢
        obtain ⟨e₃, res⟩ := r
        dsimp only at haux ⊢
        rcases haux with ⟨hsend, ⟨message, hanswer⟩, ⟨err, rfl⟩, hf, hh, ho⟩ |
          ⟨hsend, rfl, hf, hh, ho⟩ | ⟨hsend, b, bs, key', hanswer, rfl, hf, hh, k', ho⟩
        · left
          simp only [hsend, hanswer, if_true, ho]
          exact ⟨trivial, hlog', Or.inr ⟨err, rfl⟩, hf.trans hframes₂, hh.trans hhash₂⟩
        · right; left
          simp only [finish_eq, ho]
          refine ⟨?_, hlog', ?_, hf.trans (by rw [hframes₂]), hh.trans hhash₂⟩
          · cases hs : (e₂.shouldSendAux hash).2 with
            | false => rfl
            | true =>
                obtain ⟨key', hanswer⟩ := hsend hs
                simp only [hanswer, if_true]
          · cases data with
            | nil => exact Or.inl rfl
            | cons b bs => exact Or.inr ⟨_, rfl, rfl⟩
        · right; right
          simp only [finish_eq, ho, hsend, hanswer, if_true]
          refine ⟨hash, b :: bs, rfl, ?_, congrArg some hhashAux, ?_, hf, hh⟩
          · rw [← hlen, List.drop_append_of_le_length (Nat.le_refl _), List.drop_length]
            rfl
          · rw [hmain]
            cases data with
            | nil => rfl
            | cons b' bs' => exact ⟨_, rfl, rfl⟩
  · exact Or.inl ⟨rfl, hlog _, Or.inr ⟨err, rfl⟩, rfl, rfl⟩

end Avc444Encoder

/-! ### Runs -/

/-- The auxiliary stream the caller gets. -/
def EncodeResult.stream2Data : EncodeResult Avc444Frame → Option (List UInt8)
  | .frame f => f.stream2Data
  | .panicked | .err _ | .skipped => none

/-- The call succeeded or skipped the frame. -/
def EncodeResult.isOk {F : Type} : EncodeResult F → Bool
  | .frame _ | .skipped => true
  | .panicked | .err _ => false

/-- An encoder and its calls as the caller sees them. -/
structure Avc444Run where
  encoder : Avc444Encoder
  /-- successful or skipped calls since an auxiliary stream was last returned -/
  sinceAux : ℕ
  /-- the hash of the auxiliary view last returned -/
  returnedHash : Option ℕ
  /-- auxiliary bitstreams that their call did not return -/
  lost : List (List UInt8)

/-- The calls that an AVC444 encoder gets. -/
inductive Avc444Event
  | encodeBgra (c : EncodeCall)
  | requestIdr
  | configureAuxOmission (enable : Bool) (maxInterval : ℕ) (forceIdrOnReturn : Bool)
  | setAuxMaxInterval (maxInterval : ℕ)
  | forceKeyframe
  | configurePeriodicIdr (intervalSecs now : ℕ)
  deriving DecidableEq, Repr

namespace Avc444Run

/-- A new encoder, with nothing sent. -/
def new (colorMatrix : ColorMatrix) (now : ℕ) : Avc444Run := ⟨.new colorMatrix now, 0, none, []⟩

/-- A call, with the account of what the decoder has been sent. -/
def step (platform : Platform) (s : Avc444Run) : Avc444Event → Avc444Run
  | .encodeBgra c =>
      let (encoder, result) := s.encoder.encodeBgra platform c
      let produced := s.encoder.auxBitstream platform c
      { encoder := encoder
        sinceAux :=
          if result.stream2Data.isSome then 0
          else if result.isOk then s.sinceAux + 1 else s.sinceAux
        returnedHash :=
          if result.stream2Data.isSome then s.encoder.auxHash platform c else s.returnedHash
        lost := if produced = result.stream2Data then s.lost else s.lost ++ produced.toList }
  | .requestIdr => { s with encoder := s.encoder.requestIdr }
  | .configureAuxOmission enable maxInterval forceIdrOnReturn =>
      { s with encoder := s.encoder.configureAuxOmission enable maxInterval forceIdrOnReturn }
  | .setAuxMaxInterval maxInterval =>
      { s with encoder := (s.encoder.setAuxMaxInterval maxInterval).1 }
  | .forceKeyframe => { s with encoder := s.encoder.forceKeyframe }
  | .configurePeriodicIdr intervalSecs now =>
      { s with encoder := s.encoder.configurePeriodicIdr intervalSecs now }

/-- The encoder's bookkeeping is what the caller has seen. -/
structure Agrees (s : Avc444Run) : Prop where
  lost : s.lost = []
  framesSinceAux : s.encoder.framesSinceAux = s.sinceAux
  lastAuxHash : s.encoder.lastAuxHash = s.returnedHash

/-- The call does not produce an auxiliary stream while its main stream is
skipped, nor does the counter run over. -/
def Keeps (platform : Platform) (s : Avc444Run) : Avc444Event → Prop
  | .encodeBgra c =>
      match s.encoder.auxOutcome platform c with
      | .failed => True
      | .omitted => s.encoder.framesSinceAux + 1 < 2 ^ 32
      | .produced _ _ => c.main.isOutput = true
  | _ => True

section

variable {platform : Platform} {s : Avc444Run} {c : EncodeCall}

/-- A call that failed counts on neither side. -/
theorem Agrees.failed (h : s.Agrees) (hbits : s.encoder.auxBitstream platform c = none)
    (hcall : s.encoder.FailedCall (s.encoder.encodeBgra platform c)) :
    (s.step platform (.encodeBgra c)).Agrees := by
  obtain ⟨hres, hframes, hhash⟩ := hcall
  obtain ⟨hstream, hok⟩ : (s.encoder.encodeBgra platform c).2.stream2Data = none ∧
      (s.encoder.encodeBgra platform c).2.isOk = false := by
    rcases hres with hres | ⟨err, hres⟩ <;> rw [hres] <;> exact ⟨rfl, rfl⟩
  simp only [step]
  refine ⟨?_, ?_, ?_⟩
  · simp [hstream, hbits, h.lost]
  · simpa [hstream, hok] using hframes.trans h.framesSinceAux
  · simpa [hstream] using hhash.trans h.lastAuxHash

/-- A call without auxiliary stream counts on both sides, until the counter runs
over. -/
theorem Agrees.omitted_iff (h : s.Agrees) (hbits : s.encoder.auxBitstream platform c = none)
    (hcall : s.encoder.OmittedCall (s.encoder.encodeBgra platform c)) :
    (s.step platform (.encodeBgra c)).Agrees ↔ s.encoder.framesSinceAux + 1 < 2 ^ 32 := by
  obtain ⟨hres, hframes, hhash⟩ := hcall
  obtain ⟨hstream, hok⟩ : (s.encoder.encodeBgra platform c).2.stream2Data = none ∧
      (s.encoder.encodeBgra platform c).2.isOk = true := by
    rcases hres with hres | ⟨f, hres, hnone⟩ <;> rw [hres]
    · exact ⟨rfl, rfl⟩
    · exact ⟨hnone, rfl⟩
  simp only [step]
  constructor
  · intro hagrees
    -- the counter is below its bound, the count is not
    have hcount := hagrees.framesSinceAux
    simp only [hstream, hok, hframes, Option.isSome_none, Bool.false_eq_true, if_false,
      if_true, ← h.framesSinceAux] at hcount
    rw [← hcount]
    exact Nat.mod_lt _ (Nat.two_pow_pos 32)
  · intro hlt
    have hwrap : wrapU32 (s.encoder.framesSinceAux + 1) = s.encoder.framesSinceAux + 1 :=
      Nat.mod_eq_of_lt hlt
    refine ⟨?_, ?_, ?_⟩
    · simp [hstream, hbits, h.lost]
    · simpa [hstream, hok, hframes, h.framesSinceAux] using hwrap
    · simpa [hstream] using hhash.trans h.lastAuxHash

/-- An auxiliary stream that was made is returned exactly if the main stream is
there. -/
theorem Agrees.produced_iff {hash : ℕ} {data : List UInt8} (h : s.Agrees)
    (hbits : s.encoder.auxBitstream platform c = some data)
    (hview : s.encoder.auxHash platform c = some hash)
    (hcall : Avc444Encoder.ProducedCall c hash data (s.encoder.encodeBgra platform c)) :
    (s.step platform (.encodeBgra c)).Agrees ↔ c.main.isOutput = true := by
  obtain ⟨hres, hframes, hhash⟩ := hcall
  simp only [step]
  constructor
  · intro hagrees
    by_contra hmain
    rw [if_neg hmain] at hres
    have hlost := hagrees.lost
    simp [hbits, hres, EncodeResult.stream2Data] at hlost
  · intro hmain
    rw [if_pos hmain] at hres
    obtain ⟨f, hres, hsome⟩ := hres
    have hstream : (s.encoder.encodeBgra platform c).2.stream2Data = some data := by
      rw [hres]
      exact hsome
    refine ⟨?_, ?_, ?_⟩
    · simp [hstream, hbits, h.lost]
    · simp [hstream, hframes]
    · simp [hstream, hhash, hview]

end

/-- **One call.** -/
theorem agrees_step_iff (platform : Platform) {s : Avc444Run} (h : s.Agrees) (e : Avc444Event) :
    (s.step platform e).Agrees ↔ s.Keeps platform e := by
  cases e with
  | encodeBgra c =>
      rw [Keeps]
      rcases s.encoder.encodeBgra_outcome platform c with
        ⟨hout, hbits, hcall⟩ | ⟨hout, hbits, hcall⟩ | ⟨hash, data, hout, hbits, hview, hcall⟩
      · rw [hout]
        exact iff_of_true (h.failed hbits hcall) trivial
      · rw [hout]
        exact h.omitted_iff hbits hcall
      · rw [hout]
        exact h.produced_iff hbits hview hcall
  | requestIdr | configureAuxOmission | setAuxMaxInterval | forceKeyframe | configurePeriodicIdr =>
      exact iff_of_true ⟨h.lost, h.framesSinceAux, h.lastAuxHash⟩ trivial

/-- **The bookkeeping of the auxiliary stream** is right after every call of a run,
and no auxiliary stream is lost, exactly if no call makes an auxiliary stream
while its main stream is skipped, and no call is the 2^32nd without one. -/
theorem aux_bookkeeping_iff (platform : Platform) (colorMatrix : ColorMatrix) (now : ℕ)
    (es : List Avc444Event) :
    (∀ n, (after (step platform) (.new colorMatrix now) es n).Agrees) ↔
      ∀ n e, es[n]? = some e →
        (after (step platform) (.new colorMatrix now) es n).Keeps platform e :=
  after_invariant_iff (P := Agrees) ⟨rfl, rfl, rfl⟩ (fun _ e h => agrees_step_iff platform h e) es

/-- Rate control skips the main stream of a frame and not its auxiliary stream:
the caller gets nothing, and the encoder has counted it as sent. -/
theorem skipped_main_loses_aux :
    (Avc444Encoder.new .bt709 0).auxBitstream plainPlatform (blackCall [] [7]) = some [7] ∧
      ((Avc444Encoder.new .bt709 0).encodeBgra plainPlatform (blackCall [] [7])).2 = .skipped ∧
      ((new .bt709 0).step plainPlatform (.encodeBgra (blackCall [] [7]))).encoder.framesSinceAux = 0 ∧
      ((new .bt709 0).step plainPlatform (.encodeBgra (blackCall [] [7]))).sinceAux = 1 ∧
      ((new .bt709 0).step plainPlatform (.encodeBgra (blackCall [] [7]))).encoder.lastAuxHash
        = some 0 ∧
      ((new .bt709 0).step plainPlatform (.encodeBgra (blackCall [] [7]))).returnedHash = none := by
  refine ⟨?_, ?_, ?_, ?_, ?_, ?_⟩ <;> decide

end Avc444Run

end LamcoRdp
