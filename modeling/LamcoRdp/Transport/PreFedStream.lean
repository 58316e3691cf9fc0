/-
LamcoRdp/Transport/PreFedStream.lean

The stream in front of a WebSocket: `PreFedStream`, and the transport made of both.

`PreFedStream` puts the connection request in front of what is read and swallows the
first TPKT frame of what is written; the frame may arrive cut anywhere, also inside its
header.  `PreStep` says branch by branch what a call does.  The reading side is again a
`Source` (`PreFedStream.source`).  For the writing side the state of the swallowing is
tied to the bytes accepted so far (`Swallowed`), over any inner stream that keeps what
it takes.
-/
import LamcoRdp.Transport.WsByteStream
import Mathlib.Data.List.GetD

namespace LamcoRdp

open Runs AsyncIo

/-! ### The stream -/

/-- How far the first TPKT frame of the writes has been swallowed. -/
inductive SwallowState
  /-- collecting the header -/
  | header (headerBuf : List UInt8)
  /-- the bytes of the body that are still to be swallowed -/
  | body (remaining : ℕ)
  | passThrough
  deriving DecidableEq, Repr

/-- The state with so many bytes of the body left to swallow. -/
def SwallowState.left (remaining : ℕ) : SwallowState :=
  if remaining = 0 then .passThrough else .body remaining

/-- `u16::from_be_bytes`. -/
def u16FromBeBytes (hi lo : UInt8) : ℕ := hi.toNat * 256 + lo.toNat

/-- `PreFedStream`: the bytes read before, and how much of the first frame is still swallowed.
-/
structure PreFedStream (S : Type) where
  inner : S
  preRead : List UInt8
  preReadPos : ℕ
  swallow : SwallowState
  deriving DecidableEq, Repr

namespace PreFedStream

variable {S : Type} [AsyncRead S] [AsyncWrite S]

/-- `PreFedStream::new`. -/
def new (inner : S) (x224RequestBytes : List UInt8) : PreFedStream S :=
  { inner, preRead := x224RequestBytes, preReadPos := 0, swallow := .header [] }

/-- What is left of the connection request. -/
def rest (s : PreFedStream S) : List UInt8 := s.preRead.drop s.preReadPos

/-- `poll_read`: first what was read before, then the stream. -/
def pollRead (s : PreFedStream S) (remaining : ℕ) : Poll (List UInt8) × PreFedStream S :=
  if s.preReadPos < s.preRead.length then
    let n := min s.rest.length remaining
    (.ok (s.rest.take n), { s with preReadPos := s.preReadPos + n })
  else
    let (reply, inner) := AsyncIo.pollRead s.inner remaining
    (reply, { s with inner })

/-- `poll_write`. -/
def pollWrite (s : PreFedStream S) (buf : List UInt8) : Poll ℕ × PreFedStream S :=
  if buf.isEmpty then (.ok 0, s)
  else
    match s.swallow with
    | .passThrough =>
        let (reply, inner) := AsyncIo.pollWrite s.inner buf
        (reply, { s with inner })
    | .header headerBuf =>
        let needed := 4 - headerBuf.length
        let take := min buf.length needed
        let headerBuf := headerBuf ++ buf.take take
        if headerBuf.length < 4 then (.ok take, { s with swallow := .header headerBuf })
        else
          let totalLen := u16FromBeBytes (headerBuf.getD 2 0) (headerBuf.getD 3 0)
          if totalLen < 4 then
            (.err ⟨.invalidData, s!"invalid TPKT length {totalLen}"⟩,
              { s with swallow := .header headerBuf })
          else
            let bodyRemaining := totalLen - 4
            (.ok take, { s with swallow := .left bodyRemaining })
    | .body remaining =>
        let take := min buf.length remaining
        (.ok take, { s with swallow := .left (remaining - take) })

instance : AsyncRead (PreFedStream S) := ⟨pollRead⟩

instance : AsyncWrite (PreFedStream S) := ⟨pollWrite⟩

end PreFedStream

/-! ### The calls, branch by branch -/

/-- The length that the TPKT header in front of some bytes gives. -/
def tpktLength (bytes : List UInt8) : ℕ := u16FromBeBytes (bytes.getD 2 0) (bytes.getD 3 0)

theorem tpktLength_of_isPrefix {bytes more : List UInt8} (h : bytes <+: more)
    (hlen : 4 ≤ bytes.length) : tpktLength more = tpktLength bytes := by
  obtain ⟨rest, rfl⟩ := h
  rw [tpktLength, tpktLength, List.getD_append _ _ _ _ (by omega),
    List.getD_append _ _ _ _ (by omega)]

namespace PreFedStream

variable {S : Type} [AsyncRead S] [AsyncWrite S] {s t : PreFedStream S} {c : Call}

/-- What a call does, branch by branch. -/
inductive PreStep (s : PreFedStream S) : Call → PreFedStream S → Prop
  | preRead (k : ℕ) (hlt : s.preReadPos < s.preRead.length) :
      PreStep s (.read k (.ok (s.rest.take (min s.rest.length k))))
        { s with preReadPos := s.preReadPos + min s.rest.length k }
  | read {k reply inner} (hlt : ¬ s.preReadPos < s.preRead.length)
      (hst : IoStep s.inner (.read k reply) inner) :
      PreStep s (.read k reply) { s with inner }
  | nothing : PreStep s (.write [] (.ok 0)) s
  | pass {buf reply inner} (hsw : s.swallow = .passThrough)
      (hst : IoStep s.inner (.write buf reply) inner) :
      PreStep s (.write buf reply) { s with inner }
  | collect {buf headerBuf} (hbuf : buf ≠ []) (hsw : s.swallow = .header headerBuf)
      (hlen : headerBuf.length + buf.length < 4) :
      PreStep s (.write buf (.ok buf.length)) { s with swallow := .header (headerBuf ++ buf) }
  | badHeader {buf headerBuf take} (e : IoError) (hsw : s.swallow = .header headerBuf)
      (htake : take = min buf.length (4 - headerBuf.length))
      (hlen : 4 ≤ (headerBuf ++ buf.take take).length)
      (hbad : tpktLength (headerBuf ++ buf.take take) < 4) :
      PreStep s (.write buf (.err e))
        { s with swallow := .header (headerBuf ++ buf.take take) }
  | goodHeader {buf headerBuf take} (hsw : s.swallow = .header headerBuf)
      (htake : take = min buf.length (4 - headerBuf.length))
      (hlen : 4 ≤ (headerBuf ++ buf.take take).length)
      (hgood : 4 ≤ tpktLength (headerBuf ++ buf.take take)) :
      PreStep s (.write buf (.ok take))
        { s with swallow := .left (tpktLength (headerBuf ++ buf.take take) - 4) }
  | body {buf remaining take} (hbuf : buf ≠ []) (hsw : s.swallow = .body remaining)
      (htake : take = min buf.length remaining) :
      PreStep s (.write buf (.ok take)) { s with swallow := .left (remaining - take) }

theorem preStep_of_read (s : PreFedStream S) (k : ℕ) :
    PreStep s (.read k (s.pollRead k).1) (s.pollRead k).2 := by
  unfold pollRead
  split_ifs with hlt
  · exact .preRead k hlt
  · exact .read hlt (IoStep.read s.inner k)

theorem preStep_of_write (s : PreFedStream S) (buf : List UInt8) :
    PreStep s (.write buf (s.pollWrite buf).1) (s.pollWrite buf).2 := by
  unfold pollWrite
  split_ifs with hempty
  · obtain rfl := List.isEmpty_iff.mp hempty
    exact .nothing
  have hbuf : buf ≠ [] := fun h => hempty (List.isEmpty_iff.mpr h)
  rcases hsw : s.swallow with headerBuf | remaining | -
  · dsimp only
    split_ifs with hlen hbad
    · have htake : min buf.length (4 - headerBuf.length) = buf.length := by
        rw [List.length_append, List.length_take] at hlen
        omega
      rw [htake, List.take_length] at hlen ⊢
      exact .collect hbuf hsw (List.length_append ▸ hlen)
    · exact .badHeader _ hsw rfl (not_lt.mp hlen) hbad
    · exact .goodHeader hsw rfl (not_lt.mp hlen) (not_lt.mp hbad)
  · exact .body hbuf hsw rfl
  · have h := PreStep.pass hsw (IoStep.write s.inner buf)
    rw [hsw] at h
    exact h

theorem preStep_of_ioStep (h : IoStep s c t) : PreStep s c t := by
  cases h with
  | read k => exact preStep_of_read s k
  | write buf => exact preStep_of_write s buf

/-- The connection request comes first, then what the inner stream delivers. -/
def content (R : Source S) (s : PreFedStream S) : List UInt8 := s.rest ++ R.content s.inner

omit [AsyncRead S] [AsyncWrite S] in
theorem rest_of_drained (hlt : ¬ s.preReadPos < s.preRead.length) : s.rest = [] :=
  List.drop_eq_nil_of_le (not_lt.mp hlt)

omit [AsyncRead S] [AsyncWrite S] in
theorem rest_ne_nil (hlt : s.preReadPos < s.preRead.length) : s.rest ≠ [] := by
  refine List.ne_nil_of_length_pos ?_
  rw [rest, List.length_drop]
  omega

/-- The stream is a source if the one inside is. -/
def source (R : Source S) : Source (PreFedStream S) where
  content := content R
  ends s := R.ends s.inner
  delay s := R.delay s.inner
  content_step {s _ _} h := by
    cases preStep_of_ioStep h with
    | preRead k hlt =>
        show s.rest ++ _ = s.rest.take _ ++ (s.preRead.drop _ ++ _)
        rw [← List.append_assoc, ← List.drop_drop]
        exact congrArg (· ++ _) (List.take_append_drop _ s.rest).symm
    | read hlt hst =>
        rw [content, content, rest_of_drained hlt, R.content_step hst]
        show _ = _ ++ (rest _ ++ _)
        rw [rest, List.drop_eq_nil_of_le (not_lt.mp hlt)]
        rfl
    | pass hsw hst => exact congrArg (_ ++ ·) (R.content_step hst)
    | _ => rfl
  ends_step h := by
    cases preStep_of_ioStep h with
    | read hlt hst => exact R.ends_step hst
    | pass hsw hst => exact R.ends_step hst
    | _ => exact Iff.rfl
  eof_step h heof := by
    cases preStep_of_ioStep h with
    | preRead k hlt =>
        obtain ⟨hpos, hnil⟩ := Call.isEof_read.mp heof
        exact absurd hnil (Call.bytes_front (rest_ne_nil hlt) hpos)
    | read hlt hst =>
        obtain ⟨hempty, hends⟩ := R.eof_step hst heof
        exact ⟨by rw [content, rest_of_drained hlt, hempty, List.append_nil], hends⟩
    | _ => cases heof
  delay_step h := by
    cases preStep_of_ioStep h with
    | read hlt hst => exact R.delay_step hst
    | pass hsw hst => exact R.delay_step hst
    | _ => exact le_rfl
  progress h hasks hs := by
    cases preStep_of_ioStep h with
    | preRead k hlt =>
        exact Or.inr (Or.inl (Call.bytes_front (rest_ne_nil hlt) (Call.asks_read.mp hasks)))
    | read hlt hst => exact R.progress hst hasks hs
    | _ => cases hasks

/-- The state of the swallowing is one that the code can be in. -/
def Sound (F : Flow S) (s : PreFedStream S) : Prop :=
  F.Sound s.inner ∧
    match s.swallow with
    | .header headerBuf =>
        headerBuf.length < 4 ∨ headerBuf.length = 4 ∧ tpktLength headerBuf < 4
    | .body remaining => 0 < remaining
    | .passThrough => True

theorem sound_of_left {F : Flow S} (hs : F.Sound s.inner) (remaining : ℕ) :
    Sound F { s with swallow := .left remaining } := by
  refine ⟨hs, ?_⟩
  unfold SwallowState.left
  split_ifs with h
  · trivial
  · exact Nat.pos_of_ne_zero h

/-- A header that has just been completed has four bytes, and it was not complete
before unless it was found bad. -/
theorem header_length {headerBuf buf : List UInt8} {take : ℕ}
    (hlen : headerBuf.length ≤ 4)
    (htake : take = min buf.length (4 - headerBuf.length))
    (hfull : 4 ≤ (headerBuf ++ buf.take take).length) :
    (headerBuf ++ buf.take take).length = 4 ∧ take = 4 - headerBuf.length := by
  rw [List.length_append, List.length_take] at hfull ⊢
  omega

/-- A header found good takes at least one byte of the write that completes it. -/
theorem header_take_pos {headerBuf buf : List UInt8} {take : ℕ}
    (hsound : headerBuf.length < 4 ∨ headerBuf.length = 4 ∧ tpktLength headerBuf < 4)
    (htake : take = min buf.length (4 - headerBuf.length))
    (hfull : 4 ≤ (headerBuf ++ buf.take take).length)
    (hgood : 4 ≤ tpktLength (headerBuf ++ buf.take take)) : 0 < take := by
  rcases hsound with hlt | ⟨hlen, hbad⟩
  · have h := (header_length hlt.le htake hfull).2
    omega
  · rw [tpktLength_of_isPrefix (List.prefix_append _ _) hlen.ge] at hgood
    omega

/-- The stream lets go on what the one inside does. -/
def flow (F : Flow S) : Flow (PreFedStream S) where
  Sound := Sound F
  patience s := F.patience s.inner
  sound_step {s _ _} h hs := by
    have hsw' := hs.2
    cases preStep_of_ioStep h with
    | preRead k hlt => exact hs
    | read hlt hst => exact ⟨F.sound_step hst hs.1, hs.2⟩
    | nothing => exact hs
    | pass hsw hst => exact ⟨F.sound_step hst hs.1, hs.2⟩
    | collect hbuf hsw hlen => exact ⟨hs.1, Or.inl (List.length_append ▸ hlen)⟩
    -- four bytes have come, and they are no header
    | badHeader e hsw htake hlen hbad =>
        rw [hsw] at hsw'
        have hle : _ ≤ 4 := hsw'.elim le_of_lt fun h => h.1.le
        exact ⟨hs.1, Or.inr ⟨(header_length hle htake hlen).1, hbad⟩⟩
    | goodHeader hsw htake hlen hgood => exact sound_of_left hs.1 _
    | body hbuf hsw htake => exact sound_of_left hs.1 _
  patience_step h := by
    cases preStep_of_ioStep h with
    | read hlt hst => exact F.patience_step hst
    | pass hsw hst => exact F.patience_step hst
    | _ => exact le_rfl
  no_zero {s _ _} h hs := by
    have hsw' := hs.2
    cases preStep_of_ioStep h with
    | read hlt hst => exact F.no_zero hst hs.1
    | pass hsw hst => exact F.no_zero hst hs.1
    | collect hbuf hsw hlen => exact Call.not_isZeroWrite_ok (List.length_pos_iff.mpr hbuf)
    | badHeader e hsw htake hlen hbad => exact Call.not_isZeroWrite (Or.inr nofun)
    -- a good header takes at least one byte
    | goodHeader hsw htake hlen hgood =>
        rw [hsw] at hsw'
        exact Call.not_isZeroWrite_ok (header_take_pos hsw' htake hlen hgood)
    | body hbuf hsw htake =>
        rw [hsw] at hsw'
        refine Call.not_isZeroWrite_ok ?_
        rw [htake]
        exact lt_min (List.length_pos_iff.mpr hbuf) hsw'
    | _ => exact Bool.false_ne_true
  progress {s _ _} h hs hoff := by
    have hsw' := hs.2
    cases preStep_of_ioStep h with
    | pass hsw hst => exact F.progress hst hs.1 hoff
    -- each call takes a byte of what is offered
    | collect hbuf hsw hlen =>
        exact Or.inl (Call.taken_ne_nil hbuf (List.length_pos_iff.mpr hbuf))
    | badHeader e hsw htake hlen hbad => exact Or.inr (Or.inl rfl)
    | goodHeader hsw htake hlen hgood =>
        rw [hsw] at hsw'
        exact Or.inl (Call.taken_ne_nil (Call.offers_write.mp hoff)
          (header_take_pos hsw' htake hlen hgood))
    | body hbuf hsw htake =>
        rw [hsw] at hsw'
        refine Or.inl (Call.taken_ne_nil hbuf ?_)
        rw [htake]
        exact lt_min (List.length_pos_iff.mpr hbuf) hsw'
    | _ => cases hoff

/-! ### What reaches the inner stream -/

/-- How the state of the swallowing goes with the bytes `w` accepted so far. -/
def Swallowed (K : Sink S) (log w : List UInt8) (s : PreFedStream S) : Prop :=
  match s.swallow with
  | .header headerBuf =>
      w.length < 4 ∧ K.written s.inner = log ∧
        (headerBuf = w ∨ headerBuf.length = 4 ∧ tpktLength headerBuf < 4)
  | .body remaining =>
      4 ≤ w.length ∧ w.length + remaining = tpktLength w ∧ K.written s.inner = log
  | .passThrough =>
      4 ≤ w.length ∧ tpktLength w ≤ w.length ∧
        K.written s.inner = log ++ w.drop (tpktLength w)

variable {K : Sink S} {log w : List UInt8}

theorem swallowed_left {remaining : ℕ} (hlen : 4 ≤ w.length)
    (hsum : w.length + remaining = tpktLength w) (hlog : K.written s.inner = log) :
    Swallowed K log w { s with swallow := .left remaining } := by
  unfold Swallowed SwallowState.left
  split_ifs with h
  · refine ⟨hlen, by omega, ?_⟩
    rw [List.drop_eq_nil_of_le (by omega), List.append_nil]
    exact hlog
  · exact ⟨hlen, hsum, hlog⟩

theorem Swallowed.of_written (h : Swallowed K log w s) (hsw : t.swallow = s.swallow)
    (hlog : K.written t.inner = K.written s.inner) : Swallowed K log w t := by
  unfold Swallowed at h ⊢
  rw [hsw, hlog]
  exact h

theorem swallowed_step (h : Swallowed K log w s) (hst : IoStep s c t) :
    Swallowed K log (w ++ c.taken) t := by
  have hnone : ∀ {u : PreFedStream S}, Swallowed K log w u → Swallowed K log (w ++ []) u :=
    fun hu => (List.append_nil w).symm ▸ hu
  cases preStep_of_ioStep hst with
  | preRead k hlt => exact hnone h
  | read hlt hread =>
      refine hnone (h.of_written rfl ?_)
      exact (K.written_step hread).trans (List.append_nil _)
  | nothing => exact hnone h
  -- the first frame is gone, so the bytes go through
  | @pass buf reply inner hsw hwrite =>
      rw [Swallowed, hsw] at h
      obtain ⟨hlen, hle, hlog⟩ := h
      have hprefix := tpktLength_of_isPrefix
        (List.prefix_append w (Call.write buf reply).taken) hlen
      rw [Swallowed]
      simp only [hsw]
      rw [List.length_append, hprefix, K.written_step hwrite, hlog,
        List.drop_append_of_le_length hle, List.append_assoc]
      exact ⟨by omega, by omega, rfl⟩
  | @collect buf headerBuf hbuf hsw hlen =>
      rw [Swallowed, hsw] at h
      -- the header is not complete yet
      obtain ⟨-, hlog, rfl | ⟨hfull, -⟩⟩ := h
      · have htaken : (Call.write buf (.ok buf.length)).taken = buf := List.take_length
        rw [htaken]
        exact ⟨List.length_append ▸ hlen, hlog, Or.inl rfl⟩
      · omega
  | @badHeader buf headerBuf take e hsw htake hlen hbad =>
      rw [Swallowed, hsw] at h
      obtain ⟨hw, hlog, hhead⟩ := h
      have hle : headerBuf.length ≤ 4 := by
        -- a bad header has been kept, and nothing more is swallowed
        rcases hhead with rfl | ⟨hfull, -⟩
        · exact hw.le
        · exact hfull.le
      exact hnone ⟨hw, hlog, Or.inr ⟨(header_length hle htake hlen).1, hbad⟩⟩
  | @goodHeader buf headerBuf take hsw htake hlen hgood =>
      rw [Swallowed, hsw] at h
      -- the header gives the length of the frame
      obtain ⟨hw, hlog, rfl | ⟨hfull, hbad⟩⟩ := h
      · have hfour := (header_length hw.le htake hlen).1
        refine swallowed_left (s := s) hfour.ge ?_ hlog
        show (headerBuf ++ buf.take take).length + _ = tpktLength (headerBuf ++ buf.take take)
        omega
      · rw [tpktLength_of_isPrefix (List.prefix_append _ _) hfull.ge] at hgood
        omega
  | @body buf remaining take hbuf hsw htake =>
      rw [Swallowed, hsw] at h
      obtain ⟨hlen, hsum, hlog⟩ := h
      -- the body is swallowed up to that length
      have hprefix := tpktLength_of_isPrefix (List.prefix_append w (buf.take take)) hlen
      have htaken : (w ++ buf.take take).length = w.length + take := by
        rw [List.length_append, List.length_take]
        omega
      refine swallowed_left (s := s) ?_ ?_ hlog
      · show 4 ≤ (w ++ buf.take take).length
        omega
      · show (w ++ buf.take take).length + _ = tpktLength (w ++ buf.take take)
        omega

/-- What the inner stream was given, whatever the cuts. -/
def afterFirstFrame (w : List UInt8) : List UInt8 :=
  if w.length < 4 then [] else w.drop (tpktLength w)

theorem Swallowed.written (h : Swallowed K log w s) :
    K.written s.inner = log ++ afterFirstFrame w := by
  unfold Swallowed at h
  rcases hsw : s.swallow with headerBuf | remaining | -
  · rw [hsw] at h
    rw [afterFirstFrame, if_pos h.1, h.2.1, List.append_nil]
  · rw [hsw] at h
    obtain ⟨hlen, hsum, hlog⟩ := h
    rw [afterFirstFrame, if_neg (not_lt.mpr hlen), List.drop_eq_nil_of_le (by omega), hlog,
      List.append_nil]
  · rw [hsw] at h
    obtain ⟨hlen, -, hlog⟩ := h
    rw [afterFirstFrame, if_neg (not_lt.mpr hlen), hlog]

theorem run_swallowed {calls : List Call} (h : Run IoStep s calls t)
    (hs : Swallowed K log [] s) : Swallowed K log (accepted calls) t :=
  h.invariant_trace (P := fun calls t => Swallowed K log (accepted calls) t) hs
    fun _ ih hst => by
      rw [accepted_append, accepted_singleton]
      exact swallowed_step ih hst

theorem left_ne_header (remaining : ℕ) (headerBuf : List UInt8) :
    SwallowState.left remaining ≠ .header headerBuf := by
  unfold SwallowState.left
  split_ifs <;> nofun

/-- A call that goes on with a well-formed frame meets no error of the stream in front,
and what is collected of the header is what was accepted. -/
theorem no_error_step {before : List UInt8} (hw : 4 ≤ tpktLength w) (hst : IoStep s c t)
    (hhealthy : K.Healthy s.inner)
    (hhead : ∀ headerBuf, s.swallow = .header headerBuf → headerBuf = before)
    (hfront : ∀ buf reply, c = .write buf reply → before ++ buf <+: w) :
    ¬ c.isWriteError ∧ K.Healthy t.inner ∧
      ∀ headerBuf, t.swallow = .header headerBuf → headerBuf = before ++ c.taken := by
  have hnone : ∀ headerBuf, s.swallow = .header headerBuf → headerBuf = before ++ [] :=
    fun headerBuf hsw => (hhead headerBuf hsw).trans (List.append_nil _).symm
  cases preStep_of_ioStep hst with
  | preRead k hlt => exact ⟨Bool.false_ne_true, hhealthy, hnone⟩
  | read hlt hread => exact ⟨Bool.false_ne_true, K.healthy_step hread hhealthy, hnone⟩
  | nothing => exact ⟨Bool.false_ne_true, hhealthy, hnone⟩
  | pass hsw hwrite =>
      refine ⟨K.no_error hwrite hhealthy, K.healthy_step hwrite hhealthy, fun headerBuf hsw' => ?_⟩
      exact absurd (hsw.symm.trans hsw') nofun
  | @collect buf headerBuf hbuf hsw hlen =>
      refine ⟨Bool.false_ne_true, hhealthy, fun headerBuf' hsw' => ?_⟩
      rw [← SwallowState.header.inj hsw', hhead headerBuf hsw]
      exact congrArg (_ ++ ·) List.take_length.symm
  | @badHeader buf headerBuf take e hsw htake hlen hbad =>
      -- the header is the front of what the caller writes
      have hprefix : headerBuf ++ buf.take take <+: w := by
        rw [hhead headerBuf hsw]
        exact ((List.prefix_append_right_inj _).mpr (List.take_prefix take buf)).trans
          (hfront buf _ rfl)
      rw [tpktLength_of_isPrefix hprefix hlen] at hw
      omega
  | goodHeader hsw htake hlen hgood =>
      refine ⟨Bool.false_ne_true, hhealthy, fun headerBuf' hsw' => ?_⟩
      exact absurd hsw' (left_ne_header _ _)
  | body hbuf hsw htake =>
      refine ⟨Bool.false_ne_true, hhealthy, fun headerBuf' hsw' => ?_⟩
      exact absurd hsw' (left_ne_header _ _)

/-- A caller that writes a well-formed frame and resubmits what was not accepted meets
no error of the stream in front. -/
theorem run_no_error {calls : List Call} (hw : 4 ≤ tpktLength w) (h : Run IoStep s calls t)
    (hs : s.swallow = .header []) (hhealthy : K.Healthy s.inner) (hr : Resubmits w calls) :
    (∀ c ∈ calls, ¬ c.isWriteError) ∧ K.Healthy t.inner ∧
      ∀ headerBuf, t.swallow = .header headerBuf → headerBuf = accepted calls := by
  induction h with
  | nil =>
      refine ⟨nofun, hhealthy, fun headerBuf hsw => ?_⟩
      exact (SwallowState.header.inj (hs.symm.trans hsw)).symm
  | @snoc es u c t hrun hst ih =>
      obtain ⟨hok, hu, hhead⟩ := ih hr.init
      obtain ⟨hlast, ht, hhead'⟩ := no_error_step hw hst hu hhead fun buf reply hc =>
        (hr es buf reply [] (by rw [hc])).2
      refine ⟨?_, ht, ?_⟩
      · intro c' hc'
        rcases List.mem_append.mp hc' with hc' | hc'
        · exact hok c' hc'
        · exact List.mem_singleton.mp hc' ▸ hlast
      · rw [accepted_append, accepted_singleton]
        exact hhead'

end PreFedStream

/-! ### The transport -/

/-- The stream that the dispatcher gets for a WebSocket connection. -/
def webSocketTransport (incoming : List PollNext) (readiness : List PollReady)
    (sends : List (Option String)) (x224Request : List UInt8) : PreFedStream WsByteStream :=
  .new (.new { incoming, readiness, sends, sent := [] }) x224Request

variable {incoming : List PollNext} {readiness : List PollReady} {sends : List (Option String)}
  {request : List UInt8} {calls : List Call} {t : PreFedStream WsByteStream}

/-- The bytes read are the connection request and the payloads of the binary messages,
however both are cut: a read finds a prefix, the end is reported only after all of
them, and whoever goes on reading gets there. -/
theorem transport_reads
    (h : Run IoStep (webSocketTransport incoming readiness sends request) calls t) :
    bytesRead calls <+: request ++ payloads incoming ∧
      (∀ pre c post, calls = pre ++ c :: post → c.isEof →
        bytesRead pre = request ++ payloads incoming ∧ hasEnd incoming) ∧
      (hasEnd incoming →
        (request ++ payloads incoming).length + incoming.length < calls.countP Call.asks →
        (∃ c ∈ calls, c.isEof) ∧ bytesRead calls = request ++ payloads incoming) := by
  have hends : hasEnd incoming ↔
      (PreFedStream.source WsByteStream.source).ends
        (webSocketTransport incoming readiness sends request) :=
    (or_iff_right Bool.false_ne_true).symm
  refine ⟨?_, ?_, ?_⟩
  · exact ⟨_, ((PreFedStream.source WsByteStream.source).run h).symm⟩
  · rintro pre c post rfl hc
    obtain ⟨hread, hend⟩ := (PreFedStream.source WsByteStream.source).eof_run h hc
    exact ⟨hread, hends.mpr hend⟩
  · intro hend hmany
    exact (PreFedStream.source WsByteStream.source).complete h (hends.mp hend) hmany

/-- The bytes handed to the socket are those accepted after the first TPKT frame, and
no write of something is answered with nothing. -/
theorem transport_writes
    (h : Run IoStep (webSocketTransport incoming readiness sends request) calls t) :
    t.inner.written = PreFedStream.afterFirstFrame (accepted calls) ∧
      ∀ c ∈ calls, ¬ c.isZeroWrite := by
  constructor
  · have hinit : PreFedStream.Swallowed WsByteStream.sink [] []
        (webSocketTransport incoming readiness sends request) :=
      ⟨by decide, rfl, Or.inl rfl⟩
    exact (PreFedStream.run_swallowed h hinit).written
  · exact (PreFedStream.flow WsByteStream.sink.toFlow).run_no_zero h
      ⟨trivial, Or.inl (by decide)⟩

/-- A caller that writes `w`, with a well-formed frame in front, over a socket that
does not fail: no write fails, and each of them has some of `w` accepted or uses up
one of the times that the socket is not ready. -/
theorem transport_resubmits {w : List UInt8} (hw : 4 ≤ tpktLength w)
    (hready : ∀ e, PollReady.error e ∉ readiness) (hsends : ∀ e, some e ∉ sends)
    (h : Run IoStep (webSocketTransport incoming readiness sends request) calls t)
    (hr : Resubmits w calls) :
    accepted calls <+: w ∧ (∀ c ∈ calls, ¬ c.isWriteError) ∧
      calls.countP Call.offers ≤ (accepted calls).length + readiness.length := by
  have hok :=
    (PreFedStream.run_no_error (K := WsByteStream.sink) hw h rfl ⟨hready, hsends⟩ hr).1
  have hle := (PreFedStream.flow WsByteStream.sink.toFlow).offers_le h
    ⟨trivial, Or.inl (by decide)⟩ hok
  refine ⟨hr.accepted_isPrefix, hok, ?_⟩
  exact (Nat.le_add_right _ _).trans hle

/-- The WebSocket transport is byte-exact for every chunking, in both directions. -/
theorem websocket_byte_exact (incoming : List PollNext) (readiness : List PollReady)
    (sends : List (Option String)) (request : List UInt8) {calls : List Call}
    {t : PreFedStream WsByteStream}
    (h : Run IoStep (webSocketTransport incoming readiness sends request) calls t) :
    (bytesRead calls <+: request ++ payloads incoming ∧
      (∀ pre c post, calls = pre ++ c :: post → c.isEof →
        bytesRead pre = request ++ payloads incoming ∧ hasEnd incoming) ∧
      (hasEnd incoming →
        (request ++ payloads incoming).length + incoming.length < calls.countP Call.asks →
        (∃ c ∈ calls, c.isEof) ∧ bytesRead calls = request ++ payloads incoming)) ∧
    (t.inner.written = PreFedStream.afterFirstFrame (accepted calls) ∧
      ∀ c ∈ calls, ¬ c.isZeroWrite) ∧
    ∀ w, 4 ≤ tpktLength w → Resubmits w calls → (∀ e, PollReady.error e ∉ readiness) →
      (∀ e, some e ∉ sends) →
      accepted calls <+: w ∧ (∀ c ∈ calls, ¬ c.isWriteError) ∧
        calls.countP Call.offers ≤ (accepted calls).length + readiness.length :=
  ⟨transport_reads h, transport_writes h,
    fun _ hw hr hready hsends => transport_resubmits hw hready hsends h hr⟩

/-- Messages that carry `3, 4`, and calls that cut the first frame in three pieces. -/
def choppyIncoming : List PollNext :=
  [.pending, .message (.text [1]), .message (.binary [3, 4]), .message (.binary []),
    .message .close]

/-- Reads and writes in small pieces. -/
def choppyRequests : List Request :=
  [.read 1, .write [3], .write [0, 0, 5], .read 4, .write [9, 7, 8], .write [7, 8], .read 8,
    .read 8, .write [7, 8], .read 8]

/-- The socket is not ready once. -/
def choppy : List Call × PreFedStream WsByteStream :=
  drive (webSocketTransport choppyIncoming [.pending] [] [1, 2]) choppyRequests

theorem websocket_byte_exact_choppy :
    bytesRead choppy.1 = [1, 2] ++ [3, 4] ∧ choppy.2.inner.written = [7, 8] := by
  obtain ⟨hreads, hwrites, -⟩ := websocket_byte_exact choppyIncoming [.pending] [] [1, 2]
    (run_drive _ choppyRequests)
  constructor
  · -- the last call reports the end
    obtain ⟨hread, -⟩ := hreads.2.1 (choppy.1.take 9) (.read 8 (.ok [])) [] (by decide) rfl
    exact (by decide : bytesRead choppy.1 = bytesRead (choppy.1.take 9)).trans hread
  · exact hwrites.1.trans (by decide)

end LamcoRdp
