/-
LamcoRdp/Server/Decodability.lean

What the client can decode.

The H.264 encoder takes every output as the reference of the next, whether the
client gets it or not.  An output that is lost (its send failed, the auxiliary
encode failed after the main one, or the main stream was skipped and the
auxiliary one was not) breaks the chain up to the next keyframe, and the loop
does not ask for one.  `sent_frame_decodable` says what has to come to its help.
-/
import LamcoRdp.Server.AvcCoherence
import LamcoRdp.Lib.Gop

namespace LamcoRdp

open Runs Pipeline Gop

/-! ### What a call of the encoder produces -/

/-- The encoder answers with a keyframe of its own accord. -/
def H264Answer.isKey : H264Answer → Bool
  | .error _ => false
  | .bitstream _ isKeyframe => isKeyframe

/-- The encoder answers with a picture. -/
def H264Answer.hasData : H264Answer → Bool
  | .error _ => false
  | .bitstream data _ => !data.isEmpty

/-- The next main stream is forced to be a keyframe. -/
def VideoEncoder.forcesIdr (enc : VideoEncoder) (now : ℕ) : Bool :=
  match enc with
  | .avc420 e => e.isPeriodicIdrDue now || e.encoder.forceIntra
  | .avc444 e => e.isPeriodicIdrDue now || e.forceAllKeyframes || e.encoder.forceIntra

/-- What a call adds to the outputs: while it adds nothing a force stays, and a
frame it returns starts with the main stream, whose auxiliary stream is a
keyframe if it is one. -/
structure Produces (enc enc' : VideoEncoder) (isFrame : Bool) (now : ℕ) (main : H264Answer)
    (new : List EncodedFrameData) : Prop where
  outputs : enc'.h264.outputs = enc.h264.outputs ++ new
  force : new = [] → enc.h264.forceIntra = true → enc'.h264.forceIntra = true
  frame : isFrame = true → main.hasData = true ∧ ∃ m rest, new = m :: rest ∧
    m.isKeyframe = (enc.forcesIdr now || main.isKey) ∧
    (m.isKeyframe = true → ∀ o ∈ rest, o.isKeyframe = true)

theorem Avc420Encoder.encodeBgra_produces (platform : Platform) (e : Avc420Encoder)
    (c : EncodeCall) :
    ∃ new, Produces (.avc420 e) (.avc420 (e.encodeBgra platform c).1)
      (e.encodeBgra platform c).2.isFrame c.now c.main new := by
  have hforce := e.forceDueIdr_forceIntra c.now
  have hout : (e.forceDueIdr c.now).encoder.outputs = e.encoder.outputs := by
    unfold forceDueIdr
    split <;> rfl
  rcases encodeBgra_cases platform e c with
    ⟨err, he⟩ | ⟨result, hno, he⟩ | ⟨b, bs, key, hmain, he⟩
  · -- an error: nothing is produced and the force stays
    rw [he]
    exact ⟨[], (List.append_nil _).symm, fun _ h => h, nofun⟩
  · -- a skip or an empty bitstream, likewise
    rw [he]
    refine ⟨[], ?_, fun _ h => ?_, fun h => ?_⟩
    · show (e.forceDueIdr c.now).encoder.outputs = _
      rw [hout, List.append_nil]
      rfl
    · show (e.forceDueIdr c.now).encoder.forceIntra = true
      have h' : e.encoder.forceIntra = true := h
      rw [hforce, h', Bool.or_true]
    · cases result with
      | frame f => exact absurd rfl (hno f)
      | _ => cases h
  · -- a bitstream: the force, if set, made it a keyframe
    rw [he, hmain]
    refine ⟨[⟨b :: bs, (e.forceDueIdr c.now).encoder.forceIntra || key⟩], ?_, nofun, fun _ =>
      ⟨rfl, _, [], rfl, ?_, fun _ => nofun⟩⟩
    · show (e.forceDueIdr c.now).encoder.outputs ++ _ = _
      rw [hout]
      rfl
    · show ((e.forceDueIdr c.now).encoder.forceIntra || key) = _
      rw [hforce]
      rfl

namespace Avc444Encoder

/-- The auxiliary stream next to a keyframe is a keyframe. -/
theorem encodeAux_produces (e : Avc444Encoder) (key : Bool) (currentHash : ℕ)
    (answer : H264Answer) :
    ∃ new, (e.encodeAux key currentHash answer).1.encoder.outputs = e.encoder.outputs ++ new ∧
      (new = [] → e.encoder.forceIntra = true →
        (e.encodeAux key currentHash answer).1.encoder.forceIntra = true) ∧
      (key = true → ∀ o ∈ new, o.isKeyframe = true) := by
  rcases encodeAux_cases e key currentHash answer with
    ⟨-, he⟩ | ⟨-, e', he', hcases⟩
  · rw [he]
    exact ⟨[], (List.append_nil _).symm, fun _ h => h, fun _ => nofun⟩
  -- the forces before the auxiliary encode
  have hout : e'.encoder.outputs = e.encoder.outputs := by
    rw [he', forceAuxIdr_eq]
  have hforce : key = true ∨ e.encoder.forceIntra = true → e'.encoder.forceIntra = true := by
    rw [he', forceAuxIdr_eq]
    rintro (h | h)
    · simp only [h, Bool.true_or]
    · simp only [h, Bool.or_true]
  rcases hcases with ⟨message, err, -, he⟩ | ⟨key', -, he⟩ | ⟨b, bs, key', hans, he⟩
  · rw [he]
    exact ⟨[], hout.trans (List.append_nil _).symm, fun _ h => hforce (Or.inr h), fun _ => nofun⟩
  · rw [he]
    exact ⟨[], hout.trans (List.append_nil _).symm, fun _ h => hforce (Or.inr h), fun _ => nofun⟩
  · rw [he, hans]
    refine ⟨[⟨b :: bs, e'.encoder.forceIntra || key'⟩], ?_, nofun, fun h o ho => ?_⟩
    · show e'.encoder.outputs ++ _ = _
      rw [hout]
    · rw [List.mem_singleton.mp ho, hforce (Or.inl h), Bool.true_or]

/-- The two encodes of a frame. -/
theorem encodeViews_produces (e : Avc444Encoder) (c : EncodeCall) (currentHash : ℕ) :
    ∃ new, Produces (.avc444 e) (.avc444 (e.encodeViews c currentHash).1)
      (e.encodeViews c currentHash).2.isFrame c.now c.main new := by
  obtain ⟨lastIdrTime, hdue⟩ := e.forceDueIdr_eq c.now
  obtain ⟨e₁, he₁, hout, hforce⟩ : ∃ e₁, e.forceDueIdr c.now = e₁ ∧
      e₁.encoder.outputs = e.encoder.outputs ∧
      e₁.encoder.forceIntra = VideoEncoder.forcesIdr (.avc444 e) c.now := by
    refine ⟨_, rfl, ?_, ?_⟩
    · rw [hdue]
    · rw [hdue]
      rfl
  have hstays : e.encoder.forceIntra = true → e₁.encoder.forceIntra = true := by
    intro h
    rw [hforce]
    show (_ || e.encoder.forceIntra) = true
    rw [h, Bool.or_true]
  -- a call that fails, or that skips, is no frame
  have hnone : ∀ {p : Prop}, false = true → p := fun h => absurd h Bool.false_ne_true
  unfold encodeViews
  rw [he₁]
  rcases hmain : c.main with message | ⟨- | ⟨b, bs⟩, key⟩
  · exact ⟨[], hout.trans (List.append_nil _).symm, fun _ h => hstays h, hnone⟩
  · -- the main stream is skipped: what the auxiliary encode gives is thrown away
    obtain ⟨new, haux, hkeep, -⟩ := encodeAux_produces e₁ key currentHash c.aux
    simp only [VersionedEncoder.encode]
    rcases hr : e₁.encodeAux key currentHash c.aux with ⟨e₂, r⟩
    rw [hr] at haux hkeep
    rcases r with err | stream2
    · exact ⟨new, haux.trans (congrArg (· ++ new) hout), fun hn h => hkeep hn (hstays h), hnone⟩
    · exact ⟨new, haux.trans (congrArg (· ++ new) hout), fun hn h => hkeep hn (hstays h), hnone⟩
  · simp only [VersionedEncoder.encode]
    set m : EncodedFrameData := ⟨b :: bs, e₁.encoder.forceIntra || key⟩ with hm
    obtain ⟨new, haux, -, hkey⟩ := encodeAux_produces
      { e₁ with encoder := ⟨false, e₁.encoder.outputs ++ [m]⟩ } m.isKeyframe currentHash c.aux
    have hall : e₁.encoder.outputs ++ [m] ++ new = e.encoder.outputs ++ m :: new := by
      rw [List.append_assoc, hout]
      rfl
    have hcons : ∀ {p : Prop}, m :: new = [] → p := fun h => absurd h (List.cons_ne_nil _ _)
    have hmkey : m.isKeyframe = (VideoEncoder.forcesIdr (.avc444 e) c.now || key) := by
      rw [← hforce]
    rcases hr : encodeAux { e₁ with encoder := ⟨false, e₁.encoder.outputs ++ [m]⟩ } m.isKeyframe
      currentHash c.aux with ⟨e₂, r⟩
    rw [hr] at haux
    rcases r with err | stream2
    · exact ⟨m :: new, haux.trans hall, hcons, hnone⟩
    · exact ⟨m :: new, haux.trans hall, hcons, fun _ => ⟨rfl, m, new, rfl, hmkey, hkey⟩⟩

theorem encodeBgra_produces (platform : Platform) (e : Avc444Encoder) (c : EncodeCall) :
    ∃ new, Produces (.avc444 e) (.avc444 (e.encodeBgra platform c).1)
      (e.encodeBgra platform c).2.isFrame c.now c.main new := by
  unfold encodeBgra
  rcases c.reject with - | err
  · rcases bgraToYuv444 platform.target c.bgraData c.width c.height e.colorMatrix with - | yuv444
    · exact ⟨[], (List.append_nil _).symm, fun _ h => h, nofun⟩
    · exact e.encodeViews_produces c (platform.hashAux yuv444)
  · exact ⟨[], (List.append_nil _).symm, fun _ h => h, nofun⟩

end Avc444Encoder

/-- **What a call of either encoder produces.** -/
theorem VideoEncoder.encodeBgra_produces (platform : Platform) (enc : VideoEncoder)
    (c : EncodeCall) :
    ∃ new, Produces enc (enc.encodeBgra platform c).1 (enc.encodeBgra platform c).2.isFrame
      c.now c.main new := by
  have hmap : ∀ {F G : Type} (g : F → G) (r : EncodeResult F), (r.map g).isFrame = r.isFrame := by
    intro F G g r
    cases r <;> rfl
  cases enc with
  | avc420 e =>
      obtain ⟨new, h⟩ := e.encodeBgra_produces platform c
      refine ⟨new, h.outputs, h.force, fun hframe => h.frame ?_⟩
      rw [← hmap fun f : H264Frame => EncodedVideoFrame.single f.data]
      exact hframe
  | avc444 e =>
      obtain ⟨new, h⟩ := e.encodeBgra_produces platform c
      refine ⟨new, h.outputs, h.force, fun hframe => h.frame ?_⟩
      rw [← hmap fun f : Avc444Frame => EncodedVideoFrame.dual f.stream1Data f.stream2Data]
      exact hframe

/-! ### The system -/

/-- The loop, the outputs of its encoder, and whether one of them has been lost
since a keyframe last arrived. -/
structure Stream where
  pipe : Pipeline
  log : List Picture
  lost : Bool

/-- An iteration of the loop, or what a client does to the connection. -/
inductive StreamEvent
  | iterate (i : Iteration)
  /-- another client connects -/
  | connect
  /-- the client advertises its capabilities again -/
  | readvertise

/-- All an encoder has put out. -/
def outputsOf (enc : Option VideoEncoder) : List EncodedFrameData :=
  (enc.map fun e => e.h264.outputs).getD []

/-- The outputs of one frame in the log. -/
def pictures (sent : Bool) (new : List EncodedFrameData) : List Picture :=
  new.map fun o => ⟨o.isKeyframe, sent⟩

/-- The loss after outputs that were sent together, or not. -/
def lostAfter (lost sent : Bool) : List EncodedFrameData → Bool
  | [] => lost
  | main :: _ => if sent then lost && !main.isKeyframe else true

namespace Stream

variable (platform : Platform) (cfg : PipelineConfig)

/-- The log and the loss an iteration encodes with: a new encoder starts afresh. -/
def before (s : Stream) (i : Iteration) : List Picture × Bool :=
  match frontEnd cfg s.pipe i with
  | (p, .ok _) => if (p.prepare i).2 then ([], false) else (s.log, s.lost)
  | (_, .error _) => (s.log, s.lost)

/-- What the encoder puts out in an iteration. -/
def produced (s : Stream) (i : Iteration) : List EncodedFrameData :=
  match frontEnd cfg s.pipe i with
  | (p, .ok frame) =>
      (outputsOf (iterate platform cfg s.pipe i).1.videoEncoder).drop
        (outputsOf (avcEntry cfg p frame i).videoEncoder).length
  | (_, .error _) => []

/-- The state after an iteration. -/
def next (s : Stream) (i : Iteration) : Stream :=
  let r := iterate platform cfg s.pipe i
  let new := s.produced platform cfg i
  ⟨r.1, (s.before cfg i).1 ++ pictures r.2.isSent new,
    lostAfter (s.before cfg i).2 r.2.isSent new⟩

/-- The client takes H.264, and the gate is not given up on. -/
def step (s : Stream) : StreamEvent → Option Stream
  | .iterate i =>
      if i.isAvcSupported = true ∧ i.gateTimedOut = false then some (s.next platform cfg i)
      else none
  | .connect => some { s with pipe.egfxNeedsInit := true }
  | .readvertise => some { s with pipe.needsFullReinit := true }

/-- The loop starts. -/
def init (detector : Option DamageDetector) : Stream := ⟨.start detector, [], false⟩

/-- A frame that goes to the encoder while a loss stands finds a keyframe forced,
unless the encoder has no picture for it or makes it a keyframe of itself. -/
def Recovers (s : Stream) : StreamEvent → Prop
  | .iterate i => ∀ p frame enc, frontEnd cfg s.pipe i = (p, .ok frame) →
      (avcEntry cfg p frame i).videoEncoder = some enc → (s.before cfg i).2 = true →
      (avcEntry cfg p frame i).goesToEncoder enc frame i = true → i.main.hasData = true →
      enc.forcesIdr i.now = true ∨ i.main.isKey = true
  | .connect | .readvertise => True

end Stream

/-! ### One encode -/

/-- The encoder is left alone, or called once; a frame is sent only if the call
returned one. -/
structure EncodesOnce (platform : Platform) (i : Iteration) (enc : VideoEncoder) (p : Pipeline)
    (r : Pipeline × Exit) : Prop where
  egfxSender : r.1.egfxSender = p.egfxSender
  egfxGateBypassed : r.1.egfxGateBypassed = p.egfxGateBypassed
  encoder : r.1.videoEncoder = some enc ∧ r.2.isSent = false ∨
    ∃ c : EncodeCall, c.now = i.now ∧ c.main = i.main ∧
      r.1.videoEncoder = some (enc.encodeBgra platform c).1 ∧
      (r.2.isSent = true → (enc.encodeBgra platform c).2.isFrame = true)

section Encode

variable (platform : Platform) (cfg : PipelineConfig) {p : Pipeline} {enc : VideoEncoder}
  (hp : p.videoEncoder = some enc) (frame : VideoFrame) (i : Iteration)

include hp in
theorem encodeAndSend_once (data : List UInt8) (regions : List DamageRegion) :
    EncodesOnce platform i enc p (encodeAndSend platform cfg p enc frame data regions i) := by
  unfold encodeAndSend
  rcases alignFrame frame data with - | out
  · exact ⟨rfl, rfl, Or.inl ⟨hp, rfl⟩⟩
  dsimp only
  have hcall : ∀ r : Pipeline × Exit, r.1.egfxSender = p.egfxSender →
      r.1.egfxGateBypassed = p.egfxGateBypassed →
      r.1.videoEncoder = some (enc.encodeBgra platform (encodeCall cfg p frame out i)).1 →
      (r.2.isSent = true →
        (enc.encodeBgra platform (encodeCall cfg p frame out i)).2.isFrame = true) →
      EncodesOnce platform i enc p r :=
    fun r hs hg he hf => ⟨hs, hg, Or.inr ⟨_, rfl, rfl, he, hf⟩⟩
  rcases henc : enc.encodeBgra platform (encodeCall cfg p frame out i) with ⟨enc₁, result⟩
  rw [henc] at hcall
  rcases result with - | e | - | encoded
  · exact hcall _ rfl rfl rfl nofun
  · exact hcall _ rfl rfl rfl nofun
  · exact hcall _ rfl rfl rfl nofun
  · dsimp only
    rcases encoded.send i.shared i.transport with e | frameId
    · exact hcall _ rfl rfl rfl nofun
    · exact hcall _ rfl rfl rfl fun _ => rfl

include hp in
theorem processDamage_once (data : List UInt8) (force : Bool) (regions : List DamageRegion) :
    EncodesOnce platform i enc p
      (processDamage platform cfg p enc frame data force regions i) := by
  unfold processDamage
  by_cases hskip : (!force && decide (i.encodingDecision = .skip)) = true
  · rw [if_pos hskip]
    exact ⟨rfl, rfl, Or.inl ⟨hp, rfl⟩⟩
  rw [if_neg hskip]
  by_cases hwait : (!force && decide (i.encodingDecision = .waitForMore)) = true
  · rw [if_pos hwait]
    exact ⟨rfl, rfl, Or.inl ⟨hp, rfl⟩⟩
  rw [if_neg hwait]
  by_cases hempty : regions = []
  · rw [if_pos hempty]
    exact ⟨rfl, rfl, Or.inl ⟨hp, rfl⟩⟩
  · rw [if_neg hempty]
    exact encodeAndSend_once platform cfg hp frame i data regions

include hp in
theorem avcFrame_once : EncodesOnce platform i enc p (avcFrame platform cfg p enc frame i) := by
  unfold avcFrame
  rcases i.backpressured with - | -
  · rcases i.throttle with - | -
    · rw [if_neg Bool.false_ne_true, if_neg Bool.false_ne_true]
      rcases frame.buffer with data | -
      · dsimp only
        by_cases hshort : data.length < wrapU32 (frame.width * frame.height * 4)
        · rw [if_pos hshort]
          exact ⟨rfl, rfl, Or.inl ⟨hp, rfl⟩⟩
        rw [if_neg hshort]
        rcases selectDamage p.damageDetector frame data
          (enc.isPeriodicIdrDue i.now || p.forceFirstFrame) i.shouldLogTelemetry with
          - | ⟨detector, regions⟩
        · exact ⟨rfl, rfl, Or.inl ⟨hp, rfl⟩⟩
        · obtain ⟨hsender, hgate, henc⟩ := processDamage_once platform cfg (p := { p with
            forceFirstFrame := false, damageDetector := detector }) hp frame i data
            (enc.isPeriodicIdrDue i.now || p.forceFirstFrame) regions
          exact ⟨hsender, hgate, henc⟩
      · exact ⟨rfl, rfl, Or.inl ⟨hp, rfl⟩⟩
    · exact ⟨rfl, rfl, Or.inl ⟨hp, rfl⟩⟩
  · exact ⟨rfl, rfl, Or.inl ⟨hp, rfl⟩⟩

end Encode

theorem VideoEncoder.forcesIdr_of_forceIntra {enc : VideoEncoder}
    (h : enc.h264.forceIntra = true) (now : ℕ) : enc.forcesIdr now = true := by
  cases enc with
  | avc420 e =>
      have h : e.encoder.forceIntra = true := h
      show (_ || e.encoder.forceIntra) = true
      rw [h, Bool.or_true]
  | avc444 e =>
      have h : e.encoder.forceIntra = true := h
      show (_ || e.encoder.forceIntra) = true
      rw [h, Bool.or_true]

/-- What the encoder has put out since `enc`. -/
theorem EncodesOnce.produces {platform : Platform} {i : Iteration} {enc : VideoEncoder}
    {p : Pipeline} {r : Pipeline × Exit} (h : EncodesOnce platform i enc p r) :
    ∃ enc', r.1.videoEncoder = some enc' ∧
      Produces enc enc' r.2.isSent i.now i.main
        ((outputsOf r.1.videoEncoder).drop (outputsOf (some enc)).length) := by
  have hdrop : ∀ l new : List EncodedFrameData, (l ++ new).drop l.length = new :=
    fun l new => List.drop_left
  rcases h.encoder with ⟨henc, hno⟩ | ⟨c, hnow, hmain, henc, hsent⟩
  · refine ⟨enc, henc, ?_⟩
    rw [henc, hno, List.drop_length]
    exact ⟨(List.append_nil _).symm, fun _ hf => hf, nofun⟩
  · obtain ⟨new, hnew⟩ := enc.encodeBgra_produces platform c
    refine ⟨_, henc, ?_⟩
    have hout : outputsOf (some (enc.encodeBgra platform c).1) = outputsOf (some enc) ++ new :=
      hnew.outputs
    rw [henc, hout, hdrop, ← hnow, ← hmain]
    exact ⟨hnew.outputs, hnew.force, fun h => hnew.frame (hsent h)⟩

/-! ### The invariant -/

/-- A stream that has lost nothing has not begun, and begins with a keyframe, or
the client can decode what comes next. -/
def Unbroken (enc : VideoEncoder) (log : List Picture) : Prop :=
  log = [] ∧ enc.h264.forceIntra = true ∨ Intact log

section Log

variable {enc enc' : VideoEncoder} {log : List Picture} {lost sent : Bool} {now : ℕ}
  {main : H264Answer} {new : List EncodedFrameData}

theorem delivered_pictures {q : Picture} (hq : q ∈ pictures true new) : q.delivered = true := by
  obtain ⟨o, -, rfl⟩ := List.mem_map.mp hq
  rfl

/-- A frame that is sent without a loss before it, and is no keyframe, follows an
intact log. -/
theorem intact_of_sent (hunb : lost = false → Unbroken enc log)
    (hrec : lost = true → enc.forcesIdr now = true ∨ main.isKey = true)
    (hkey : (enc.forcesIdr now || main.isKey) = false) : Intact log := by
  obtain ⟨hforces, hown⟩ := Bool.or_eq_false_iff.mp hkey
  cases hlost : lost with
  | true =>
      rcases hrec hlost with h | h
      · exact absurd (hforces.symm.trans h) Bool.false_ne_true
      · exact absurd (hown.symm.trans h) Bool.false_ne_true
  | false =>
      rcases hunb hlost with ⟨-, hforce⟩ | hintact
      · exact absurd (hforces.symm.trans (enc.forcesIdr_of_forceIntra hforce now))
          Bool.false_ne_true
      · exact hintact

/-- **One frame keeps the stream**, as long as what follows a loss is a keyframe. -/
theorem Produces.unbroken (h : Produces enc enc' sent now main new)
    (hunb : lost = false → Unbroken enc log)
    (hrec : lost = true → sent = true → enc.forcesIdr now = true ∨ main.isKey = true)
    (hlost : lostAfter lost sent new = false) : Unbroken enc' (log ++ pictures sent new) := by
  rcases new with - | ⟨m, rest⟩
  · rw [pictures, List.map_nil, List.append_nil]
    rcases hunb hlost with ⟨hnil, hforce⟩ | hintact
    · exact Or.inl ⟨hnil, h.force rfl hforce⟩
    · exact Or.inr hintact
  · cases sent with
    | false => cases hlost
    | true =>
        obtain ⟨-, m', rest', heq, hmkey, -⟩ := h.frame rfl
        obtain ⟨rfl, rfl⟩ := List.cons.inj heq
        refine Or.inr ?_
        cases hkey : m.isKeyframe with
        | true =>
            exact intact_of_head hkey fun q hq =>
              delivered_pictures (show q ∈ pictures true (m :: rest) from hq)
        | false =>
            exact (intact_of_sent hunb (fun hl => hrec hl rfl) (hmkey.symm.trans hkey)).append
              fun q hq => delivered_pictures hq

/-- **Every output of a frame that is sent can be decoded**, and after a loss each
is a keyframe. -/
theorem Produces.decodable (h : Produces enc enc' true now main new)
    (hunb : lost = false → Unbroken enc log)
    (hrec : lost = true → enc.forcesIdr now = true ∨ main.isKey = true) :
    new ≠ [] ∧
      (∀ pre q post, pictures true new = pre ++ q :: post → Decodable (log ++ pre) q) ∧
      (lost = true → ∀ q ∈ pictures true new, q.key = true) := by
  obtain ⟨-, m, rest, rfl, hmkey, hrest⟩ := h.frame rfl
  refine ⟨List.cons_ne_nil m rest, ?_⟩
  -- when the first output of the frame is a keyframe, so are the others
  have hall : m.isKeyframe = true → ∀ q ∈ pictures true (m :: rest), q.key = true := by
    intro hkey q hq
    obtain ⟨o, ho, rfl⟩ := List.mem_map.mp hq
    rcases List.mem_cons.mp ho with rfl | ho
    · exact hkey
    · exact hrest hkey o ho
  -- a keyframe needs no reference, any other an unbroken log
  cases hkey : m.isKeyframe with
  | true =>
      refine ⟨fun pre q post heq => Or.inl (hall hkey q ?_), fun _ => hall hkey⟩
      rw [heq]
      exact List.mem_append_right _ (List.mem_cons_self ..)
  | false =>
      have hintact := intact_of_sent hunb hrec (hmkey.symm.trans hkey)
      refine ⟨fun pre q post heq => hintact.decodable (fun q hq => delivered_pictures hq) heq, ?_⟩
      -- after a loss a keyframe was forced, so this case is not there
      intro hlost
      have hforced : (enc.forcesIdr now || main.isKey) = true := by
        rcases hrec hlost with hf | hf
        · rw [hf, Bool.true_or]
        · rw [hf, Bool.or_true]
      exact absurd ((hmkey.symm.trans hkey).symm.trans hforced) Bool.false_ne_true

end Log

/-! ### Runs -/

theorem createEncoder_h264 {cfg : PipelineConfig} {frame : VideoFrame} {i : Iteration}
    {enc : VideoEncoder} (h : createEncoder cfg frame i = some enc) : enc.h264 = .new := by
  unfold createEncoder at h
  dsimp only at h
  split_ifs at h <;> cases h <;> rfl

/-- What holds of the stream in every run. -/
structure Stream.Inv (s : Stream) : Prop where
  notBypassed : s.pipe.egfxGateBypassed = false
  unbroken : ∀ enc, s.pipe.videoEncoder = some enc → s.pipe.egfxSender = true →
    s.lost = false → Unbroken enc s.log

section Invariant

variable {platform : Platform} {cfg : PipelineConfig} {s t : Stream} {i : Iteration}
  {p : Pipeline} {frame : VideoFrame}

/-- The stream when the branch meets a frame. -/
theorem Stream.Inv.entry (h : s.Inv) (hgate : i.gateTimedOut = false)
    (hfe : frontEnd cfg s.pipe i = (p, .ok frame)) :
    p.egfxGateBypassed = false ∧
    (avcEntry cfg p frame i).egfxGateBypassed = false ∧
      ∀ enc, (avcEntry cfg p frame i).videoEncoder = some enc →
        (avcEntry cfg p frame i).egfxSender = true → (s.before cfg i).2 = false →
        Unbroken enc (s.before cfg i).1 := by
  obtain ⟨hidle, -⟩ := frontEnd_spec cfg s.pipe hgate
  rw [hfe] at hidle
  have hnot : p.egfxGateBypassed = false := hidle.notBypassed h.notBypassed
  obtain ⟨hgate', -, hcases⟩ := avcEntry_cases cfg frame i hnot
  refine ⟨hnot, hgate', fun enc henc hsender hlost => ?_⟩
  unfold Stream.before at hlost ⊢
  rw [hfe] at hlost ⊢
  dsimp only at hlost ⊢
  rcases hcases with ⟨hinit, -, hnew⟩ | ⟨hinit, -, -, -, hsame, hsend, -⟩
  · -- a new encoder
    rw [hinit, if_pos rfl]
    refine Or.inl ⟨rfl, ?_⟩
    rw [createEncoder_h264 (hnew.symm.trans henc)]
    rfl
  · rw [hinit, if_neg Bool.false_ne_true] at hlost ⊢
    obtain ⟨hsender₀, henc₀⟩ := hidle.sender (hsend.symm.trans hsender)
    rw [henc, henc₀] at hsame
    obtain ⟨enc₀, hpipe, hh264⟩ := Option.map_eq_some_iff.mp hsame.symm
    rcases h.unbroken enc₀ hpipe hsender₀ hlost with ⟨hnil, hforce⟩ | hintact
    · exact Or.inl ⟨hnil, hh264 ▸ hforce⟩
    · exact Or.inr hintact

theorem uncompressedFrame_encoder (p : Pipeline) (frame : VideoFrame) (i : Iteration) :
    (uncompressedFrame p frame i).1.videoEncoder = p.videoEncoder ∧
      (uncompressedFrame p frame i).1.egfxGateBypassed = p.egfxGateBypassed := by
  unfold uncompressedFrame
  rcases frame.buffer with data | -
  · dsimp only
    rcases sendUncompressedFrame i.shared i.transport with e | frameId
    · exact ⟨rfl, rfl⟩
    · exact ⟨rfl, rfl⟩
  · exact ⟨rfl, rfl⟩

theorem Stream.step_iterate (hst : s.step platform cfg (.iterate i) = some t) :
    i.isAvcSupported = true ∧ i.gateTimedOut = false ∧ t = s.next platform cfg i := by
  obtain ⟨⟨havc, hgate⟩, ht⟩ := Option.ite_none_right_eq_some.mp hst
  exact ⟨havc, hgate, (Option.some.inj ht).symm⟩

variable (platform) in
/-- An iteration with a frame for the branch: the encoder is called at most once,
and a frame that is sent went to it; or there is no encoder. -/
theorem Stream.iterate_works (h : s.Inv) (havc : i.isAvcSupported = true)
    (hgate : i.gateTimedOut = false) (hfe : frontEnd cfg s.pipe i = (p, .ok frame)) :
    (iterate platform cfg s.pipe i).1.egfxGateBypassed = false ∧
      ((∃ enc, (avcEntry cfg p frame i).videoEncoder = some enc ∧
          (avcEntry cfg p frame i).egfxSender = true ∧
          EncodesOnce platform i enc (avcEntry cfg p frame i) (iterate platform cfg s.pipe i) ∧
          ((iterate platform cfg s.pipe i).2.isSent = true →
            (avcEntry cfg p frame i).goesToEncoder enc frame i = true)) ∨
        (iterate platform cfg s.pipe i).1.videoEncoder = (avcEntry cfg p frame i).videoEncoder ∧
          ((avcEntry cfg p frame i).videoEncoder = none ∨
            (iterate platform cfg s.pipe i).1.egfxSender = false ∧
              (iterate platform cfg s.pipe i).2.isSent = false)) := by
  obtain ⟨hnot, hgate', -⟩ := h.entry hgate hfe
  have hit : iterate platform cfg s.pipe i
      = avcBranch platform cfg (avcEntry cfg p frame i) false frame i := by
    rw [← dispatch_eq platform cfg frame hnot havc]
    unfold iterate
    rw [hfe]
  rw [hit]
  generalize avcEntry cfg p frame i = q at hgate' ⊢
  -- no sender, no encoder, or a frame for the encoder
  rcases avcBranch_cases platform cfg q frame i with
    ⟨hsender, hbranch⟩ | ⟨hsender, henc, hbranch⟩ | ⟨enc, hsender, henc, hbranch⟩
  · rw [hbranch]
    exact ⟨hgate', Or.inr ⟨rfl, Or.inr ⟨hsender, rfl⟩⟩⟩
  · obtain ⟨hsame, hgate''⟩ := uncompressedFrame_encoder q frame i
    rw [hbranch]
    exact ⟨hgate''.trans hgate', Or.inr ⟨hsame, Or.inl henc⟩⟩
  · have honce := avcFrame_once platform cfg henc frame i
    rw [hbranch]
    exact ⟨honce.egfxGateBypassed.trans hgate',
      Or.inl ⟨enc, henc, hsender, honce, avcFrame_sent⟩⟩

/-- The outputs of an iteration whose frame reaches the encoder. -/
theorem Stream.produced_eq (hfe : frontEnd cfg s.pipe i = (p, .ok frame)) :
    s.produced platform cfg i = (outputsOf (iterate platform cfg s.pipe i).1.videoEncoder).drop
      (outputsOf (avcEntry cfg p frame i).videoEncoder).length := by
  unfold Stream.produced
  rw [hfe]

/-- What `Recovers` says of a frame that is sent. -/
theorem Stream.Recovers.forced (hrec : s.Recovers cfg (.iterate i))
    (hfe : frontEnd cfg s.pipe i = (p, .ok frame)) {enc enc' : VideoEncoder} {sent : Bool}
    {new : List EncodedFrameData} (henc : (avcEntry cfg p frame i).videoEncoder = some enc)
    (hgo : sent = true → (avcEntry cfg p frame i).goesToEncoder enc frame i = true)
    (hprod : Produces enc enc' sent i.now i.main new) :
    (s.before cfg i).2 = true → sent = true →
      enc.forcesIdr i.now = true ∨ i.main.isKey = true := by
  intro hlost hsent
  -- a call that returned a frame was answered with a picture
  obtain ⟨hdata, -⟩ := hprod.frame hsent
  exact hrec p frame enc hfe henc hlost (hgo hsent) hdata

/-- An iteration without a frame for the branch leaves the stream alone. -/
theorem Stream.inv_idle (h : s.Inv) (hgate : i.gateTimedOut = false) {exit : Exit}
    (hfe : frontEnd cfg s.pipe i = (p, .error exit)) : (s.next platform cfg i).Inv := by
  obtain ⟨hidle, -⟩ := frontEnd_spec cfg s.pipe hgate
  rw [hfe] at hidle
  have hit : iterate platform cfg s.pipe i = (p, exit) := by
    unfold iterate
    rw [hfe]
  have hnext : s.next platform cfg i = ⟨p, s.log ++ [], s.lost⟩ := by
    unfold Stream.next Stream.produced Stream.before
    rw [hit, hfe]
    rfl
  rw [hnext, List.append_nil]
  refine ⟨hidle.notBypassed h.notBypassed, fun enc henc hsender hlost => ?_⟩
  obtain ⟨hsender₀, henc₀⟩ := hidle.sender hsender
  exact h.unbroken enc (henc₀.symm.trans henc) hsender₀ hlost

theorem Stream.inv_works (h : s.Inv) (havc : i.isAvcSupported = true)
    (hgate : i.gateTimedOut = false) (hfe : frontEnd cfg s.pipe i = (p, .ok frame))
    (hrec : s.Recovers cfg (.iterate i)) : (s.next platform cfg i).Inv := by
  obtain ⟨-, -, hunb⟩ := h.entry hgate hfe
  obtain ⟨hnot, ⟨enc, henc, hsender, honce, hgo⟩ | ⟨hsame, hnone⟩⟩ :=
    Stream.iterate_works platform h havc hgate hfe
  · refine ⟨hnot, fun enc' henc' _ hlost => ?_⟩
    obtain ⟨enc₁, henc₁, hprod⟩ := honce.produces
    obtain rfl := Option.some.inj (henc'.symm.trans henc₁)
    rw [← henc, ← Stream.produced_eq hfe] at hprod
    exact hprod.unbroken (hunb enc henc hsender) (hrec.forced hfe henc hgo hprod) hlost
  · refine ⟨hnot, fun enc henc hsender _ => ?_⟩
    rcases hnone with hnone | ⟨hno, -⟩
    · exact absurd (hnone.symm.trans (hsame.symm.trans henc)) nofun
    · exact absurd (hno.symm.trans hsender) Bool.false_ne_true

/-- **Every event keeps the invariant.** -/
theorem Stream.step_inv (h : s.Inv) {e : StreamEvent} (hst : s.step platform cfg e = some t)
    (hrec : s.Recovers cfg e) : t.Inv := by
  cases e with
  | iterate i =>
      obtain ⟨havc, hgate, rfl⟩ := Stream.step_iterate hst
      rcases hfe : frontEnd cfg s.pipe i with ⟨p, exit | frame⟩
      · exact Stream.inv_idle h hgate hfe
      · exact Stream.inv_works h havc hgate hfe hrec
  | connect =>
      obtain rfl := Option.some.inj hst
      exact ⟨h.notBypassed, h.unbroken⟩
  | readvertise =>
      obtain rfl := Option.some.inj hst
      exact ⟨h.notBypassed, h.unbroken⟩

end Invariant

/-- In every run in which no frame goes to the encoder after a loss without a
keyframe forced or made: whatever the encoder put out for a frame that is sent,
the client can decode it, and after a loss all of it is keyframes. -/
theorem sent_frame_decodable (platform : Platform) (cfg : PipelineConfig)
    (detector : Option DamageDetector) {es : List StreamEvent} {s t : Stream}
    (hr : Run (Guarded (StepOf (Stream.step platform cfg)) (Stream.Recovers cfg))
      (Stream.init detector) es s)
    {i : Iteration} (hst : s.step platform cfg (.iterate i) = some t)
    (hrec : s.Recovers cfg (.iterate i))
    (hsent : (iterate platform cfg s.pipe i).2.isSent = true) :
    ∃ new, t.log = (s.before cfg i).1 ++ new ∧ (t.pipe.videoEncoder.isSome = true → new ≠ []) ∧
      (∀ pre q post, new = pre ++ q :: post → Decodable ((s.before cfg i).1 ++ pre) q) ∧
      ((s.before cfg i).2 = true → ∀ q ∈ new, q.key = true) := by
  have hs : s.Inv := by
    refine Run.invariant (P := Stream.Inv) ?_ (fun hs hst => Stream.step_inv hs hst.1 hst.2) hr
    exact ⟨rfl, nofun⟩
  obtain ⟨havc, hgate, rfl⟩ := Stream.step_iterate hst
  refine ⟨_, rfl, ?_⟩
  show ((iterate platform cfg s.pipe i).1.videoEncoder.isSome = true → _) ∧ _
  rw [hsent]
  rcases hfe : frontEnd cfg s.pipe i with ⟨p, exit | frame⟩
  · -- nothing is sent without a frame
    obtain ⟨-, ⟨f, frame, hok, -⟩ | ⟨exit', herr, hdis, -⟩⟩ := frontEnd_spec cfg s.pipe hgate
    · rw [hfe] at hok
      cases hok
    · rw [hfe] at herr
      obtain rfl := Except.error.inj herr
      have hit : iterate platform cfg s.pipe i = (p, exit) := by
        unfold iterate
        rw [hfe]
      rw [hit] at hsent
      cases exit with
      | sent frameId u => exact Bool.noConfusion hdis
      | _ => exact Bool.noConfusion hsent
  · obtain ⟨-, -, hunb⟩ := hs.entry hgate hfe
    obtain ⟨-, ⟨enc, henc, hsender, honce, hgo⟩ | ⟨hsame, hnone⟩⟩ :=
      Stream.iterate_works platform hs havc hgate hfe
    · obtain ⟨enc', -, hprod⟩ := honce.produces
      rw [hsent] at hgo
      rw [← henc, ← Stream.produced_eq hfe, hsent] at hprod
      obtain ⟨hne, hdec, hkeys⟩ := hprod.decodable (hunb enc henc hsender)
        fun hlost => hrec.forced hfe henc hgo hprod hlost rfl
      exact ⟨fun _ => fun h => hne (List.map_eq_nil_iff.mp h), hdec, hkeys⟩
    · rcases hnone with hnone | ⟨-, hno⟩
      · -- an uncompressed frame
        rw [Stream.produced_eq hfe, hsame, List.drop_length, hnone]
        refine ⟨nofun, fun pre q post h => ?_, fun _ => nofun⟩
        exact absurd h.symm (List.append_ne_nil_of_right_ne_nil _ (List.cons_ne_nil _ _))
      · exact absurd (hno.symm.trans hsent) Bool.false_ne_true

/-! ### A frame the transport refuses -/

/-- An iteration with a grey frame, all going well. -/
def greyFrame (level : UInt8) : Iteration :=
  .smooth (some (.tight 16 16 (List.replicate 1024 level)))

/-- The frame is encoded, and the queue of the transport is full. -/
def refusedFrame (level : UInt8) : Iteration :=
  { greyFrame level with transport := { Transport.accepting 2 with frameId := none } }

/-- The encoder makes the frame a keyframe. -/
def keyFrame (level : UInt8) : Iteration :=
  { greyFrame level with main := .bitstream [1] true }

/-- After a refused frame the next refers to one the client never got. -/
theorem refused_frame_breaks_stream :
    ¬ ∀ (platform : Platform) (cfg : PipelineConfig) (detector : Option DamageDetector)
      (es : List StreamEvent) (s t : Stream) (i : Iteration),
      Run (StepOf (Stream.step platform cfg)) (Stream.init detector) es s →
      s.step platform cfg (.iterate i) = some t →
      (iterate platform cfg s.pipe i).2.isSent = true →
      ∃ new, t.log = (s.before cfg i).1 ++ new ∧
        ∀ pre q post, new = pre ++ q :: post → Decodable ((s.before cfg i).1 ++ pre) q := by
  intro hall
  obtain ⟨s, t, hs, ht, hsent, hlog, hbefore⟩ :
      ∃ s t, [.iterate (greyFrame 1), .iterate (refusedFrame 2)].foldlM
          (Stream.step plainPlatform .plain) (Stream.init none) = some s ∧
        s.step plainPlatform .plain (.iterate (greyFrame 3)) = some t ∧
        (iterate plainPlatform .plain s.pipe (greyFrame 3)).2.isSent = true ∧
        t.log = [⟨true, true⟩, ⟨false, false⟩, ⟨false, true⟩] ∧
        (s.before .plain (greyFrame 3)).1 = [⟨true, true⟩, ⟨false, false⟩] := by
    refine ⟨_, _, rfl, rfl, ?_⟩
    decide +kernel
  obtain ⟨new, hnew, hdec⟩ := hall _ _ _ _ s t _ (Run.of_foldlM hs) ht hsent
  rw [hbefore] at hnew hdec
  rw [hlog] at hnew
  obtain rfl : [⟨false, true⟩] = new := (List.cons.inj (List.cons.inj hnew).2).2
  exact absurd (hdec [] ⟨false, true⟩ [] rfl) (by decide)

/-- The same with a keyframe after the refused frame. -/
theorem sent_frame_decodable_keyframe :
    ∃ s t, Run (Guarded (StepOf (Stream.step plainPlatform .plain))
        (Stream.Recovers .plain)) (Stream.init none)
        [.iterate (greyFrame 1), .iterate (refusedFrame 2)] s ∧
      s.step plainPlatform .plain (.iterate (keyFrame 3)) = some t ∧
      (s.before .plain (keyFrame 3)).2 = true ∧
      ∃ new, t.log = (s.before .plain (keyFrame 3)).1 ++ new ∧ new ≠ [] ∧
        ∀ q ∈ new, q.key = true := by
  obtain ⟨s₁, s, t, hs₁, hs, ht, hfirst, hsecond, hlost, hsent, hsome⟩ :
      ∃ s₁ s t,
        (Stream.init none).step plainPlatform .plain (.iterate (greyFrame 1)) = some s₁ ∧
        s₁.step plainPlatform .plain (.iterate (refusedFrame 2)) = some s ∧
        s.step plainPlatform .plain (.iterate (keyFrame 3)) = some t ∧
        ((Stream.init none).before .plain (greyFrame 1)).2 = false ∧
        (s₁.before .plain (refusedFrame 2)).2 = false ∧
        (s.before .plain (keyFrame 3)).2 = true ∧
        (iterate plainPlatform .plain s.pipe (keyFrame 3)).2.isSent = true ∧
        t.pipe.videoEncoder.isSome = true := by
    -- the second frame is refused in flight, the third comes with a key
    refine ⟨_, _, _, rfl, rfl, rfl, ?_⟩
    decide +kernel
  have hrec₁ : (Stream.init none).Recovers .plain (.iterate (greyFrame 1)) :=
    fun p frame enc _ _ h => absurd (hfirst.symm.trans h) Bool.false_ne_true
  have hrec₂ : s₁.Recovers .plain (.iterate (refusedFrame 2)) :=
    fun p frame enc _ _ h => absurd (hsecond.symm.trans h) Bool.false_ne_true
  have hr : Run (Guarded (StepOf (Stream.step plainPlatform .plain))
      (Stream.Recovers .plain)) (Stream.init none)
      [.iterate (greyFrame 1), .iterate (refusedFrame 2)] s :=
    (Run.nil.snoc ⟨hs₁, hrec₁⟩).snoc ⟨hs, hrec₂⟩
  obtain ⟨new, hlog, hne, -, hkeys⟩ := sent_frame_decodable plainPlatform .plain none hr ht
    (fun _ _ _ _ _ _ _ _ => Or.inr rfl) hsent
  exact ⟨s, t, hr, ht, hlost, new, hlog, hne hsome, hkeys hlost⟩

end LamcoRdp
