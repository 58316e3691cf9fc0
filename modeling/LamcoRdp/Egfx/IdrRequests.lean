/-
LamcoRdp/Egfx/IdrRequests.lean

What becomes of a request for an IDR frame.

A request is a flag until the next encode call, then a force standing in the
H.264 encoder; for AVC444 it is also a second flag that makes the frame carry
its auxiliary stream.  AVC420 makes one encode for each call, so the force
stands exactly until the frame that answers it.  AVC444 makes two with the same
H.264 encoder: a skipped main stream leaves the force to the auxiliary stream,
and the second flag is down as soon as the auxiliary encode starts, whatever
comes of it.

`Avc444Encoder.Pending` is what a request leaves behind, and
`Avc444Encoder.Keeps` are the answers that do not lose it.
-/
import LamcoRdp.Egfx.Encoder
import LamcoRdp.Lib.Runs

namespace LamcoRdp

open Runs

/-! ### AVC420 -/

namespace Avc420Encoder

/-- A keyframe is under way: a request waits or is due, or the force stands. -/
def Pending (e : Avc420Encoder) (now : ℕ) : Prop :=
  e.isPeriodicIdrDue now = true ∨ e.encoder.forceIntra = true

/-- A call answers a pending request with a keyframe or leaves it pending. -/
theorem encodeBgra_pending (platform : Platform) {e : Avc420Encoder} {c : EncodeCall}
    (hp : e.Pending c.now) :
    (∃ f, (e.encodeBgra platform c).2 = .frame f ∧ f.isKeyframe = true) ∨
    ((∀ f, (e.encodeBgra platform c).2 ≠ .frame f) ∧
      (e.encodeBgra platform c).1.Pending c.now) := by
  have hforce : (e.forceDueIdr c.now).encoder.forceIntra = true := by
    rw [forceDueIdr_forceIntra]
    exact (Bool.or_eq_true _ _).mpr hp
  obtain ⟨err, he⟩ | ⟨result, hr, he⟩ | ⟨b, bs, key, -, he⟩ := encodeBgra_cases platform e c
  · rw [he]
    exact Or.inr ⟨EncodeResult.ne_frame rfl, hp⟩
  · rw [he]
    exact Or.inr ⟨hr, Or.inr hforce⟩
  · rw [he]
    refine Or.inl ⟨_, rfl, ?_⟩
    show ((e.forceDueIdr c.now).encoder.forceIntra || key) = true
    rw [hforce, Bool.true_or]

end Avc420Encoder

/-! ### AVC444 -/

namespace Avc444Encoder

/-- `should_send_aux` says yes without the flag, whatever the auxiliary view. -/
def AuxSteady (e : Avc444Encoder) : Prop :=
  e.enableAuxOmission = false ∨ e.lastAuxHash = none ∨ e.maxAuxInterval ≤ e.framesSinceAux

instance (e : Avc444Encoder) : Decidable e.AuxSteady :=
  inferInstanceAs (Decidable (_ ∨ _ ∨ _))

/-- A keyframe with auxiliary stream is under way. -/
def Pending (e : Avc444Encoder) (now : ℕ) : Prop :=
  e.isPeriodicIdrDue now = true ∨
    (e.encoder.forceIntra = true ∧ (e.forceAuxOnNextFrame = true ∨ e.AuxSteady))

instance (e : Avc444Encoder) (now : ℕ) : Decidable (e.Pending now) :=
  inferInstanceAs (Decidable (_ ∨ _))

/-- The answers (main, auxiliary) that do not lose a pending request: both
streams come out, or the main encode fails, or nothing takes the force and the
auxiliary stream would be sent without its flag too. -/
def Keeps (e : Avc444Encoder) : H264Answer → H264Answer → Prop
  | .error _, _ => True
  | .bitstream _ _, .error _ => e.AuxSteady
  | .bitstream [] _, .bitstream [] _ => e.auxOmitted.AuxSteady
  | .bitstream [] _, .bitstream (_ :: _) _ => False
  | .bitstream (_ :: _) _, .bitstream [] _ => False
  | .bitstream (_ :: _) _, .bitstream (_ :: _) _ => True

instance (e : Avc444Encoder) (main aux : H264Answer) : Decidable (e.Keeps main aux) :=
  match main, aux with
  | .error _, _ => .isTrue trivial
  | .bitstream _ _, .error _ => inferInstanceAs (Decidable e.AuxSteady)
  | .bitstream [] _, .bitstream [] _ => inferInstanceAs (Decidable e.auxOmitted.AuxSteady)
  | .bitstream [] _, .bitstream (_ :: _) _ => .isFalse id
  | .bitstream (_ :: _) _, .bitstream [] _ => .isFalse id
  | .bitstream (_ :: _) _, .bitstream (_ :: _) _ => .isTrue trivial

theorem shouldSendAux_snd {e : Avc444Encoder}
    (h : e.forceAuxOnNextFrame = true ∨ e.AuxSteady) (currentHash : ℕ) :
    (e.shouldSendAux currentHash).2 = true := by
  rw [shouldSendAux]
  by_cases hflag : e.forceAuxOnNextFrame = true
  · rw [if_pos hflag]
  · rw [if_neg hflag]
    obtain h | h | h := h.resolve_left hflag
    · simp [h]
    · simp [h]
    · rcases e.lastAuxHash with - | previousHash
      · simp
      · simp [h]

/-- With a force standing (the main stream's own, or the one a main keyframe puts
in its place), an auxiliary stream that is due comes out or leaves the force
standing. -/
theorem encodeAux_forced {e : Avc444Encoder} (key : Bool) (currentHash : ℕ)
    (answer : H264Answer) (hforce : key = true ∨ e.encoder.forceIntra = true)
    (haux : e.forceAuxOnNextFrame = true ∨ e.AuxSteady) :
    (∃ b bs key' e', answer = .bitstream (b :: bs) key' ∧
      e.encodeAux key currentHash answer = (e', .ok (some (b :: bs)))) ∨
    (∃ message err e', answer = .error message ∧
      e.encodeAux key currentHash answer = (e', .error err) ∧
      e'.encoder.forceIntra = true ∧ (e.AuxSteady → e'.AuxSteady)) ∨
    (∃ key' e', answer = .bitstream [] key' ∧
      e.encodeAux key currentHash answer = (e', .ok none) ∧
      e'.encoder.forceIntra = true ∧ (e.auxOmitted.AuxSteady → e'.AuxSteady)) := by
  have hsend := shouldSendAux_snd haux currentHash
  -- with the force pending the aux view is sent
  obtain ⟨hno, -⟩ | ⟨-, e', he', h⟩ := encodeAux_cases e key currentHash answer
  · rw [hsend] at hno
    exact Bool.noConfusion hno
  · rw [forceAuxIdr_eq] at he'
    -- the force stays set unless a bitstream comes back
    have hforce' : e'.encoder.forceIntra = true := by
      rw [he']
      rcases hforce with h | h <;> simp [h]
    obtain ⟨message, err, ha, he⟩ | ⟨key', ha, he⟩ | ⟨b, bs, key', ha, he⟩ := h
    · refine Or.inr (Or.inl ⟨message, err, e', ha, he, hforce', ?_⟩)
      rw [he']
      exact id
    · refine Or.inr (Or.inr ⟨key', e'.auxOmitted, ha, he, hforce', ?_⟩)
      rw [he']
      exact id
    · exact Or.inl ⟨b, bs, key', _, ha, he⟩

/-- The two encodes answer a pending request with a keyframe that carries both
streams, or leave it pending, unless their answers lose it. -/
theorem encodeViews_pending {e : Avc444Encoder} {c : EncodeCall} (currentHash : ℕ)
    (hp : e.Pending c.now) (hk : e.Keeps c.main c.aux) :
    (∃ f, (e.encodeViews c currentHash).2 = .frame f ∧
      f.isKeyframe = true ∧ f.stream2Data.isSome = true) ∨
    ((∀ f, (e.encodeViews c currentHash).2 ≠ .frame f) ∧
      (e.encodeViews c currentHash).1.Pending c.now) := by
  obtain ⟨lastIdrTime, hdue⟩ := e.forceDueIdr_eq c.now
  set e₁ := e.forceDueIdr c.now with he₁
  have hforce : e₁.encoder.forceIntra = true := by
    rw [hdue]
    rcases hp with hp | ⟨hp, -⟩ <;> simp [hp]
  have haux : e₁.forceAuxOnNextFrame = true ∨ e₁.AuxSteady := by
    rw [hdue]
    rcases hp with hp | ⟨-, hp | hp⟩
    · exact Or.inl (by simp [hp])
    · exact Or.inl (by simp [hp])
    · exact Or.inr hp
  have hsteady : e.AuxSteady → e₁.AuxSteady := by
    rw [hdue]
    exact id
  have homit : e.auxOmitted.AuxSteady → e₁.auxOmitted.AuxSteady := by
    rw [hdue]
    exact id
  rw [encodeViews, ← he₁]
  rcases hm : c.main with message | ⟨- | ⟨b, bs⟩, key⟩
  · exact Or.inr ⟨EncodeResult.ne_frame rfl, Or.inr ⟨hforce, haux⟩⟩
  -- the main stream is skipped: the force goes on to the auxiliary encode
  · rw [hm] at hk
    obtain ⟨b, bs, key', e', ha, -⟩ | ⟨message, err, e', ha, he, hf, hs⟩ |
      ⟨key', e', ha, he, hf, hs⟩ := encodeAux_forced key currentHash c.aux
        (Or.inr hforce) haux
    · rw [ha] at hk
      exact hk.elim
    · rw [ha] at hk
      simp only [VersionedEncoder.encode, he]
      exact Or.inr ⟨EncodeResult.ne_frame rfl, Or.inr ⟨hf, Or.inr (hs (hsteady hk))⟩⟩
    · rw [ha] at hk
      simp only [VersionedEncoder.encode, he]
      exact Or.inr ⟨EncodeResult.ne_frame rfl, Or.inr ⟨hf, Or.inr (hs (homit hk))⟩⟩
  -- the main stream takes the force, and a new one is set for the auxiliary stream
  · rw [hm] at hk
    obtain ⟨a, as, key', e', ha, he⟩ | ⟨message, err, e', ha, he, hf, hs⟩ |
      ⟨key', e', ha, he, hf, hs⟩ := encodeAux_forced
        (e := { e₁ with encoder := (e₁.encoder.encode (.bitstream (b :: bs) key)).1 })
        (e₁.encoder.forceIntra || key) currentHash c.aux
        (Or.inl (by rw [hforce, Bool.true_or])) haux
    · simp only [VersionedEncoder.encode] at he ⊢
      rw [he]
      refine Or.inl ⟨_, rfl, ?_, rfl⟩
      show (e₁.encoder.forceIntra || key) = true
      rw [hforce, Bool.true_or]
    · rw [ha] at hk
      simp only [VersionedEncoder.encode] at he ⊢
      rw [he]
      exact Or.inr ⟨EncodeResult.ne_frame rfl, Or.inr ⟨hf, Or.inr (hs (hsteady hk))⟩⟩
    · rw [ha] at hk
      exact hk.elim

/-- A call of `encode_bgra` answers a pending request with a keyframe that carries
both streams, or leaves it pending, unless its two encodes lose it. -/
theorem encodeBgra_pending (platform : Platform) {e : Avc444Encoder} {c : EncodeCall}
    (hp : e.Pending c.now)
    (hk : c.reject = none → c.bgraData.length = c.width * c.height * 4 →
      e.Keeps c.main c.aux) :
    (∃ f, (e.encodeBgra platform c).2 = .frame f ∧
      f.isKeyframe = true ∧ f.stream2Data.isSome = true) ∨
    ((∀ f, (e.encodeBgra platform c).2 ≠ .frame f) ∧
      (e.encodeBgra platform c).1.Pending c.now) := by
  rw [encodeBgra]
  rcases hr : c.reject with - | err
  · by_cases hlen : c.bgraData.length = c.width * c.height * 4
    · simp only [bgraToYuv444, if_pos hlen]
      exact encodeViews_pending _ hp (hk hr hlen)
    · simp only [bgraToYuv444, if_neg hlen]
      exact Or.inr ⟨EncodeResult.ne_frame rfl, hp⟩
  · exact Or.inr ⟨EncodeResult.ne_frame rfl, hp⟩

end Avc444Encoder

/-! ### Runs -/

/-- An encoder, the last clock reading, and whether a keyframe is owed: it has
been requested, or its interval was over at a call, and no frame has been
returned since. -/
structure IdrState where
  enc : VideoEncoder
  now : ℕ
  requested : Bool
  deriving DecidableEq, Repr

/-- The calls that the encoder gets. -/
inductive IdrEvent
  /-- `Avc420Encoder::force_keyframe`, `Avc444Encoder::request_idr` -/
  | requestIdr
  /-- `force_keyframe` of either encoder -/
  | forceKeyframe
  | encode (c : EncodeCall)
  deriving DecidableEq, Repr

/-- `force_keyframe`. -/
def VideoEncoder.forceKeyframe : VideoEncoder → VideoEncoder
  | .avc420 e => .avc420 e.forceKeyframe
  | .avc444 e => .avc444 e.forceKeyframe

namespace IdrState

/-- No request is open. -/
def init (enc : VideoEncoder) (now : ℕ) : IdrState := ⟨enc, now, false⟩

/-- A keyframe is owed when a call is made at `now`. -/
def owed (s : IdrState) (now : ℕ) : Bool := s.requested || s.enc.isPeriodicIdrDue now

/-- One call.  The clock never goes back. -/
def step (platform : Platform) (s : IdrState) : IdrEvent → Option IdrState
  | .requestIdr => some { s with enc := s.enc.requestIdr, requested := true }
  | .forceKeyframe => some { s with enc := s.enc.forceKeyframe, requested := true }
  | .encode c =>
      if s.now ≤ c.now then
        let (enc, result) := s.enc.encodeBgra platform c
        some
          { enc := enc
            now := c.now
            requested := s.owed c.now && !result.isFrame }
      else none

/-- The events that lose no request.  For AVC420 all of them; for AVC444,
`force_keyframe` where the next frame carries its auxiliary stream anyway, and
while a keyframe is owed the calls whose answers keep it. -/
def Keeps (s : IdrState) : IdrEvent → Prop
  | .requestIdr => True
  | .forceKeyframe =>
      match s.enc with
      | .avc420 _ => True
      | .avc444 e => e.forceNextIdr = true ∨ e.forceAuxOnNextFrame = true ∨ e.AuxSteady
  | .encode c =>
      match s.enc with
      | .avc420 _ => True
      | .avc444 e =>
          s.owed c.now = true → c.reject = none →
            c.bgraData.length = c.width * c.height * 4 → e.Keeps c.main c.aux

instance (s : IdrState) : (ev : IdrEvent) → Decidable (s.Keeps ev)
  | .requestIdr => .isTrue trivial
  | .forceKeyframe =>
      match s with
      | ⟨.avc420 _, _, _⟩ => .isTrue trivial
      | ⟨.avc444 _, _, _⟩ => inferInstanceAs (Decidable (_ ∨ _))
  | .encode _ =>
      match s with
      | ⟨.avc420 _, _, _⟩ => .isTrue trivial
      | ⟨.avc444 _, _, _⟩ => inferInstanceAs (Decidable (_ → _))

/-- What a request leaves behind. -/
def Pending (s : IdrState) (now : ℕ) : Prop :=
  match s.enc with
  | .avc420 e => e.Pending now
  | .avc444 e => e.Pending now

end IdrState

/-- The frame a call returns, if it returns one, is a keyframe, and for AVC444
carries its auxiliary stream. -/
def VideoEncoder.Refreshes (platform : Platform) (enc : VideoEncoder) (c : EncodeCall) : Prop :=
  match enc with
  | .avc420 e => ∀ f, (e.encodeBgra platform c).2 = .frame f → f.isKeyframe = true
  | .avc444 e => ∀ f, (e.encodeBgra platform c).2 = .frame f →
      f.isKeyframe = true ∧ f.stream2Data.isSome = true

theorem IdrState.step_encode {platform : Platform} {s t : IdrState} {c : EncodeCall}
    (h : s.step platform (.encode c) = some t) :
    s.now ≤ c.now ∧ t = ⟨(s.enc.encodeBgra platform c).1, c.now,
      s.owed c.now && !(s.enc.encodeBgra platform c).2.isFrame⟩ := by
  obtain ⟨hle, h⟩ := Option.ite_none_right_eq_some.mp h
  exact ⟨hle, (Option.some.inj h).symm⟩

/-- Time alone does not take a pending keyframe back. -/
theorem idrIntervalElapsed_mono {secs last now now' : ℕ} (hle : now ≤ now')
    (h : idrIntervalElapsed secs last now = true) :
    idrIntervalElapsed secs last now' = true := by
  simp only [idrIntervalElapsed, Bool.and_eq_true, decide_eq_true_eq] at h ⊢
  exact ⟨h.1, h.2.trans (Nat.sub_le_sub_right hle last)⟩

namespace IdrState

theorem Pending.mono {s : IdrState} {now now' : ℕ} (hle : now ≤ now') (h : s.Pending now) :
    s.Pending now' := by
  rcases s with ⟨e | e, t, requested⟩
  · rcases h with h | h
    · rcases (Bool.or_eq_true _ _).mp h with h | h
      · exact Or.inl ((Bool.or_eq_true _ _).mpr (Or.inl h))
      · exact Or.inl ((Bool.or_eq_true _ _).mpr (Or.inr (idrIntervalElapsed_mono hle h)))
    · exact Or.inr h
  · rcases h with h | h
    · rcases (Bool.or_eq_true _ _).mp h with h | h
      · exact Or.inl ((Bool.or_eq_true _ _).mpr (Or.inl h))
      · exact Or.inl ((Bool.or_eq_true _ _).mpr (Or.inr (idrIntervalElapsed_mono hle h)))
    · exact Or.inr h

/-- An IDR that is due is pending. -/
theorem pending_of_due {s : IdrState} {now : ℕ} (h : s.enc.isPeriodicIdrDue now = true) :
    s.Pending now := by
  rcases s with ⟨e | e, t, requested⟩
  · exact Or.inl h
  · exact Or.inl h

/-- The invariant: what has been requested is pending. -/
def Kept (s : IdrState) : Prop := s.requested = true → s.Pending s.now

theorem Kept.pending {s : IdrState} {now : ℕ} (hs : s.Kept) (hle : s.now ≤ now)
    (ho : s.owed now = true) : s.Pending now := by
  rcases (Bool.or_eq_true _ _).mp ho with h | h
  · exact (hs h).mono hle
  · exact pending_of_due h

/-- A call made while a keyframe is owed answers it or leaves it pending. -/
theorem encode_pending (platform : Platform) {s : IdrState} {c : EncodeCall}
    (hp : s.Pending c.now) (ho : s.owed c.now = true) (hk : s.Keeps (.encode c)) :
    s.enc.Refreshes platform c ∧
      ((∃ f, (s.enc.encodeBgra platform c).2 = .frame f) ∨
        ∀ requested, (IdrState.mk (s.enc.encodeBgra platform c).1 c.now requested).Pending
          c.now) := by
  rcases s with ⟨e | e, t, requested⟩
  · obtain ⟨f, hf, hkey⟩ | ⟨hno, hp'⟩ := Avc420Encoder.encodeBgra_pending platform hp
    · refine ⟨fun f' hf' => ?_, Or.inl ⟨.single f.data, ?_⟩⟩
      · rw [hf] at hf'
        cases hf'
        exact hkey
      · show ((e.encodeBgra platform c).2.map _) = _
        rw [hf]
        rfl
    · exact ⟨fun f hf => absurd hf (hno f), Or.inr fun _ => hp'⟩
  · obtain ⟨f, hf, hkey⟩ | ⟨hno, hp'⟩ := Avc444Encoder.encodeBgra_pending platform hp (hk ho)
    · refine ⟨fun f' hf' => ?_, Or.inl ⟨.dual f.stream1Data f.stream2Data, ?_⟩⟩
      · rw [hf] at hf'
        cases hf'
        exact hkey
      · show ((e.encodeBgra platform c).2.map _) = _
        rw [hf]
        rfl
    · exact ⟨fun f hf => absurd hf (hno f), Or.inr fun _ => hp'⟩

/-- One event that loses no request keeps the invariant. -/
theorem Kept.step {platform : Platform} {s t : IdrState} {ev : IdrEvent} (hs : s.Kept)
    (hst : s.step platform ev = some t) (hk : s.Keeps ev) : t.Kept := by
  cases ev with
  | requestIdr =>
      obtain rfl := Option.some.inj hst
      intro _
      rcases s with ⟨e | e, now, requested⟩
      · exact Or.inl rfl
      · exact Or.inl rfl
  | forceKeyframe =>
      obtain rfl := Option.some.inj hst
      intro _
      rcases s with ⟨e | e, now, requested⟩
      · exact Or.inl rfl
      · obtain h | h := hk
        · exact Or.inl ((Bool.or_eq_true _ _).mpr (Or.inl h))
        · exact Or.inr ⟨rfl, h⟩
  | encode c =>
      obtain ⟨hle, rfl⟩ := step_encode hst
      intro hreq
      obtain ⟨howed, hno⟩ := (Bool.and_eq_true _ _).mp hreq
      obtain ⟨-, ⟨f, hf⟩ | hp⟩ := encode_pending platform (hs.pending hle howed) howed hk
      · rw [hf] at hno
        exact Bool.noConfusion hno
      · exact hp _

end IdrState

/-- In every run whose events lose no request, a call made while a keyframe is
owed returns no frame, or a keyframe that carries all its streams. -/
theorem idr_request_honoured (platform : Platform) (enc : VideoEncoder) (now : ℕ)
    {es : List IdrEvent} {s t : IdrState} {c : EncodeCall}
    (hr : Run (Guarded (StepOf (IdrState.step platform)) IdrState.Keeps) (.init enc now) es s)
    (hst : s.step platform (.encode c) = some t) (hk : s.Keeps (.encode c))
    (howed : s.owed c.now = true) : s.enc.Refreshes platform c := by
  have hs : s.Kept :=
    Run.invariant (P := IdrState.Kept) (fun h => Bool.noConfusion h)
      (fun hp hst => hp.step hst.1 hst.2) hr
  obtain ⟨hle, -⟩ := IdrState.step_encode hst
  exact (IdrState.encode_pending platform (hs.pending hle howed) howed hk).1

/-! ### A request that is lost -/

/-- A black 2x2 frame and the answers to it: the bytes of the main and of the
auxiliary bitstream, neither a keyframe of its own accord. -/
def blackCall (main aux : List UInt8) : EncodeCall where
  bgraData := List.replicate 16 0
  width := 2
  height := 2
  timestampMs := 0
  now := 0
  main := .bitstream main false
  aux := .bitstream aux false

/-- A new AVC444 encoder. -/
def freshAvc444 : IdrState := .init (.avc444 (.new .bt709 0)) 0

/-- A frame goes out, a keyframe is requested, and rate control skips the main
stream of the next frame but not its auxiliary stream. -/
def skippedMain : List IdrEvent :=
  [.encode (blackCall [1] [2]), .requestIdr, .encode (blackCall [] [3])]

/-- The auxiliary stream nobody sends has taken the force: the next frame is an
ordinary one. -/
theorem skipped_main_loses_idr :
    ¬ ∀ (platform : Platform) (enc : VideoEncoder) (now : ℕ) (es : List IdrEvent)
      (s t : IdrState) (c : EncodeCall),
      Run (StepOf (IdrState.step platform)) (.init enc now) es s →
      s.step platform (.encode c) = some t → s.owed c.now = true →
      s.enc.Refreshes platform c := by
  intro hall
  obtain ⟨s, t, e, f, hs, ht, howed, henc, hf, hkey⟩ :
      ∃ s t e f, skippedMain.foldlM (IdrState.step plainPlatform) freshAvc444 = some s ∧
        s.step plainPlatform (.encode (blackCall [4] [5])) = some t ∧
        s.owed 0 = true ∧ s.enc = .avc444 e ∧
        (e.encodeBgra plainPlatform (blackCall [4] [5])).2 = .frame f ∧
        f.isKeyframe = false := by
    refine ⟨_, _, _, _, rfl, rfl, ?_, rfl, rfl, ?_⟩ <;> decide
  have h := hall _ _ _ _ s t _ (Run.of_foldlM hs) ht howed
  rw [henc] at h
  exact absurd ((h f hf).1.symm.trans hkey) (by decide)

/-- With both streams coming out the request is answered. -/
theorem idr_request_honoured_both_streams :
    ∃ s t, Run (Guarded (StepOf (IdrState.step plainPlatform)) IdrState.Keeps) freshAvc444
        [.encode (blackCall [1] [2]), .requestIdr] s ∧
      s.step plainPlatform (.encode (blackCall [4] [5])) = some t ∧
      s.Keeps (.encode (blackCall [4] [5])) ∧ s.owed 0 = true ∧
      s.enc.Refreshes plainPlatform (blackCall [4] [5]) := by
  obtain ⟨s, t, hs, ht, hk, howed⟩ :
      ∃ s t, [.encode (blackCall [1] [2]), .requestIdr].foldlM
          (guardStep (IdrState.step plainPlatform) IdrState.Keeps) freshAvc444 = some s ∧
        s.step plainPlatform (.encode (blackCall [4] [5])) = some t ∧
        s.Keeps (.encode (blackCall [4] [5])) ∧ s.owed 0 = true := by
    refine ⟨_, _, rfl, rfl, ?_, ?_⟩ <;> decide
  have hrun := Run.guarded_of_foldlM hs
  exact ⟨s, t, hrun, ht, hk, howed, idr_request_honoured plainPlatform _ _ hrun ht hk howed⟩

end LamcoRdp
