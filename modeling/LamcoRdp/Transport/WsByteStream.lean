/-
LamcoRdp/Transport/WsByteStream.lean

The bytes of a WebSocket: `WsByteStream`.

It reads the payloads of the binary messages one after the other and writes each buffer
as one binary message; a close ends it.  The socket itself is given by the answers to
its polls, in the order in which they are made: a message may be late, the sink may be
full, either may fail.  So the reading side is the `Source` of the payloads up to the
first close or end (`WsByteStream.source`) and the writing side a `Sink` of what it
accepts (`WsByteStream.sink`).
-/
import LamcoRdp.Lib.AsyncIo
import Mathlib.Order.Nat

namespace LamcoRdp

open Runs AsyncIo

/-! ### The socket -/

/-- `tungstenite::Message`. -/
inductive Message
  | text (data : List UInt8)
  | binary (data : List UInt8)
  | ping (data : List UInt8)
  | pong (data : List UInt8)
  | close
  | frame (data : List UInt8)
  deriving DecidableEq, Repr

/-- What a poll for the next message finds. -/
inductive PollNext
  | pending
  | ended
  | error (e : String)
  | message (m : Message)
  deriving DecidableEq, Repr

/-- What a poll for room to send finds. -/
inductive PollReady
  | pending
  | error (e : String)
  | ready
  deriving DecidableEq, Repr

/-- `WebSocketStream`, by the answers it will give: the messages (after them nothing
has arrived yet), the room to send (after them there is room) and the errors of the
sends (after them none). -/
structure WebSocketStream where
  incoming : List PollNext
  readiness : List PollReady
  sends : List (Option String)
  /-- the messages sent so far -/
  sent : List Message
  deriving DecidableEq, Repr

namespace WebSocketStream

/-- `poll_ready` of the sink. -/
def pollReady (s : WebSocketStream) : Poll Unit × WebSocketStream :=
  match s.readiness with
  | [] => (.ok (), s)
  | .pending :: rest => (.pending, { s with readiness := rest })
  | .error e :: rest => (.err ⟨.other, e⟩, { s with readiness := rest })
  | .ready :: rest => (.ok (), { s with readiness := rest })

/-- `start_send` of the sink. -/
def startSend (s : WebSocketStream) (msg : Message) : Option IoError × WebSocketStream :=
  match s.sends with
  | some e :: rest => (some ⟨.other, e⟩, { s with sends := rest })
  | none :: rest => (none, { s with sends := rest, sent := s.sent ++ [msg] })
  | [] => (none, { s with sent := s.sent ++ [msg] })

end WebSocketStream

/-! ### The stream -/

/-- `WsByteStream`: a message being read, and the end of the stream. -/
structure WsByteStream where
  inner : WebSocketStream
  readBuf : List UInt8
  readPos : ℕ
  eof : Bool
  deriving DecidableEq, Repr

namespace WsByteStream

/-- `WsByteStream::new`. -/
def new (inner : WebSocketStream) : WsByteStream :=
  { inner, readBuf := [], readPos := 0, eof := false }

/-- What is left of the last binary message. -/
def rest (s : WsByteStream) : List UInt8 := s.readBuf.drop s.readPos

/-- The loop of `poll_read`, over the answers that the socket still gives. -/
def readLoop (s : WsByteStream) (remaining : ℕ) (incoming : List PollNext) :
    Poll (List UInt8) × WsByteStream :=
  if s.readPos < s.readBuf.length then
    let n := min s.rest.length remaining
    (.ok (s.rest.take n),
      { s with readPos := s.readPos + n, inner := { s.inner with incoming } })
  else if s.eof then
    (.ok [], { s with inner := { s.inner with incoming } })
  else
    let s := { s with readBuf := [], readPos := 0 }
    match incoming with
    | [] => (.pending, { s with inner := { s.inner with incoming := [] } })
    | next :: later =>
      let taken := { s with inner := { s.inner with incoming := later } }
      match next with
      | .pending => (.pending, taken)
      | .ended => (.ok [], { taken with eof := true })
      | .error e => (.err ⟨.other, e⟩, taken)
      | .message (.binary bytes) => readLoop { s with readBuf := bytes } remaining later
      | .message .close => (.ok [], { taken with eof := true })
      | .message _ => readLoop s remaining later

/-- `poll_read`. -/
def pollRead (s : WsByteStream) (remaining : ℕ) : Poll (List UInt8) × WsByteStream :=
  s.readLoop remaining s.inner.incoming

/-- `poll_write`: a message for each call. -/
def pollWrite (s : WsByteStream) (buf : List UInt8) : Poll ℕ × WsByteStream :=
  match s.inner.pollReady with
  | (.pending, inner) => (.pending, { s with inner })
  | (.err e, inner) => (.err e, { s with inner })
  | (.ok (), inner) =>
      match inner.startSend (.binary buf) with
      | (none, inner) => (.ok buf.length, { s with inner })
      | (some e, inner) => (.err e, { s with inner })

instance : AsyncRead WsByteStream := ⟨pollRead⟩

instance : AsyncWrite WsByteStream := ⟨pollWrite⟩

end WsByteStream

/-! ### What is read -/

/-- The payloads of the binary messages up to the first close or the end. -/
def payloads : List PollNext → List UInt8
  | [] => []
  | .ended :: _ => []
  | .message .close :: _ => []
  | .message (.binary bytes) :: later => bytes ++ payloads later
  | _ :: later => payloads later

/-- The messages include a close or the end. -/
def hasEnd : List PollNext → Bool
  | [] => false
  | .ended :: _ => true
  | .message .close :: _ => true
  | _ :: later => hasEnd later

namespace WsByteStream

/-- What the reader has still to come. -/
def content (s : WsByteStream) : List UInt8 :=
  s.rest ++ if s.eof then [] else payloads s.inner.incoming

/-- The stream comes to an end. -/
def ends (s : WsByteStream) : Prop := s.eof ∨ hasEnd s.inner.incoming

/-- The stream with other messages to come. -/
def withIncoming (s : WsByteStream) (incoming : List PollNext) : WsByteStream :=
  { s with inner := { s.inner with incoming } }

/-- What a read does: the laws of `Source`, and the writing side untouched. -/
structure ReadSpec (s : WsByteStream) (c : Call) (t : WsByteStream) : Prop where
  content : s.content = c.bytes ++ t.content
  ends : t.ends ↔ s.ends
  eof : c.isEof → s.content = [] ∧ s.ends
  delay : t.inner.incoming.length ≤ s.inner.incoming.length
  progress : c.asks → s.ends →
    c.isEof ∨ c.bytes ≠ [] ∨ t.inner.incoming.length < s.inner.incoming.length
  readiness : t.inner.readiness = s.inner.readiness
  sends : t.inner.sends = s.inner.sends
  sent : t.inner.sent = s.inner.sent

variable {s s' t : WsByteStream} {c : Call}

/-- A state from which the same is to be read. -/
theorem ReadSpec.of_same (h : ReadSpec s' c t) (hcontent : s.content = s'.content)
    (hends : s.ends ↔ s'.ends)
    (hdelay : s'.inner.incoming.length ≤ s.inner.incoming.length)
    (hready : s'.inner.readiness = s.inner.readiness) (hsends : s'.inner.sends = s.inner.sends)
    (hsent : s'.inner.sent = s.inner.sent) : ReadSpec s c t where
  content := hcontent.trans h.content
  ends := h.ends.trans hends.symm
  eof heof := by
    rw [hcontent, hends]
    exact h.eof heof
  delay := h.delay.trans hdelay
  progress hasks hs := by
    rcases h.progress hasks (hends.mp hs) with heof | hbytes | hlt
    · exact Or.inl heof
    · exact Or.inr (Or.inl hbytes)
    · exact Or.inr (Or.inr (hlt.trans_le hdelay))
  readiness := h.readiness.trans hready
  sends := h.sends.trans hsends
  sent := h.sent.trans hsent

/-- A read of what is left of the last message. -/
theorem drain_spec (hlt : s.readPos < s.readBuf.length) (remaining : ℕ) :
    ReadSpec s (.read remaining (.ok (s.rest.take (min s.rest.length remaining))))
      { s with readPos := s.readPos + min s.rest.length remaining } := by
  have hrest : s.rest ≠ [] := List.ne_nil_of_length_pos (by
    rw [rest, List.length_drop]
    omega)
  refine ⟨?_, Iff.rfl, ?_, le_rfl, ?_, rfl, rfl, rfl⟩
  · show s.rest ++ _ = s.rest.take _ ++ (s.readBuf.drop _ ++ _)
    rw [← List.append_assoc, ← List.drop_drop]
    exact congrArg (· ++ _) (List.take_append_drop _ s.rest).symm
  · intro heof
    obtain ⟨hpos, hnil⟩ := Call.isEof_read.mp heof
    exact absurd hnil (Call.bytes_front hrest hpos)
  · intro hasks _
    exact Or.inr (Or.inl (Call.bytes_front hrest (Call.asks_read.mp hasks)))

/-- A read after the end of the stream. -/
theorem eof_spec (hlt : ¬ s.readPos < s.readBuf.length) (heof : s.eof = true)
    (remaining : ℕ) : ReadSpec s (.read remaining (.ok [])) s := by
  have hempty : s.content = [] := by
    rw [content, rest, List.drop_eq_nil_of_le (not_lt.mp hlt), heof]
    rfl
  refine ⟨rfl, Iff.rfl, fun _ => ⟨hempty, Or.inl heof⟩, le_rfl, ?_, rfl, rfl, rfl⟩
  intro hasks _
  exact Or.inl (Call.isEof_read.mpr ⟨Call.asks_read.mp hasks, rfl⟩)

/-- What is to be read where the last message is used up. -/
theorem content_of_drained (hlt : ¬ s.readPos < s.readBuf.length) (heof : ¬ s.eof) :
    s.content = payloads s.inner.incoming := by
  rw [content, rest, List.drop_eq_nil_of_le (not_lt.mp hlt), if_neg heof, List.nil_append]

theorem ends_of_drained (heof : ¬ s.eof) : s.ends ↔ hasEnd s.inner.incoming :=
  or_iff_right heof

/-- The state that takes the next message off the socket. -/
def pull (s : WsByteStream) (later : List PollNext) : WsByteStream :=
  { s with readBuf := [], readPos := 0, inner := { s.inner with incoming := later } }

/-- A poll that finds no message now, or one that carries no bytes. -/
theorem pass_spec (later : List PollNext) (hlt : ¬ s.readPos < s.readBuf.length)
    (heof : ¬ s.eof) (hpay : payloads s.inner.incoming = payloads later)
    (hend : hasEnd s.inner.incoming = hasEnd later)
    (hle : later.length ≤ s.inner.incoming.length)
    (hlen : hasEnd s.inner.incoming → later.length < s.inner.incoming.length)
    (hbytes : c.bytes = []) (hc : ¬ c.isEof) : ReadSpec s c (s.pull later) where
  content := by
    rw [content_of_drained hlt heof, hbytes, hpay]
    exact (content_of_drained (s := s.pull later) (Nat.lt_irrefl 0) heof).symm
  ends := by
    rw [ends_of_drained heof, hend]
    exact ends_of_drained (s := s.pull later) heof
  eof h := absurd h hc
  delay := hle
  progress _ h := Or.inr (Or.inr (hlen ((ends_of_drained heof).mp h)))
  readiness := rfl
  sends := rfl
  sent := rfl

/-- A poll that finds a close or the end. -/
theorem end_spec (later : List PollNext) (hlt : ¬ s.readPos < s.readBuf.length)
    (heof : ¬ s.eof) (hpay : payloads s.inner.incoming = [])
    (hend : hasEnd s.inner.incoming = true)
    (hlen : later.length < s.inner.incoming.length) (remaining : ℕ) :
    ReadSpec s (.read remaining (.ok [])) { s.pull later with eof := true } where
  content := by
    rw [content_of_drained hlt heof, hpay]
    rfl
  ends := iff_of_true (Or.inl rfl) ((ends_of_drained heof).mpr hend)
  eof _ := ⟨(content_of_drained hlt heof).trans hpay, (ends_of_drained heof).mpr hend⟩
  delay := hlen.le
  progress _ _ := Or.inr (Or.inr hlen)
  readiness := rfl
  sends := rfl
  sent := rfl

/-- The loop goes on after a message: from there the same is to be read. -/
theorem loop_spec (bytes : List UInt8) (later : List PollNext)
    (hlt : ¬ s.readPos < s.readBuf.length) (heof : ¬ s.eof)
    (hpay : payloads s.inner.incoming = bytes ++ payloads later)
    (hend : hasEnd s.inner.incoming = hasEnd later)
    (hlen : later.length < s.inner.incoming.length)
    (h : ReadSpec { s.pull later with readBuf := bytes } c t) : ReadSpec s c t := by
  refine h.of_same ?_ ?_ hlen.le rfl rfl rfl
  · rw [content_of_drained hlt heof, hpay]
    show _ = bytes ++ if s.eof then [] else payloads later
    rw [if_neg heof]
  · rw [ends_of_drained heof, hend]
    exact (or_iff_right heof).symm

theorem readLoop_spec (s : WsByteStream) (remaining : ℕ) (incoming : List PollNext) :
    ReadSpec (s.withIncoming incoming) (.read remaining (s.readLoop remaining incoming).1)
      (s.readLoop remaining incoming).2 := by
  -- a call without bytes is no end of the stream
  have hzero : ∀ reply : Poll (List UInt8), (∀ bs, reply ≠ .ok bs) →
      (Call.read remaining reply).bytes = [] ∧ ¬ (Call.read remaining reply).isEof := by
    intro reply hreply
    cases reply with
    | ok bs => exact absurd rfl (hreply bs)
    | _ => cases remaining <;> exact ⟨rfl, Bool.false_ne_true⟩
  induction incoming generalizing s with
  | nil =>
      unfold readLoop
      split_ifs with hlt heof
      · -- what is buffered comes first, then the end
        exact drain_spec (s := s.withIncoming []) hlt remaining
      · exact eof_spec (s := s.withIncoming []) hlt heof remaining
      · obtain ⟨hbytes, hc⟩ := hzero .pending fun _ => nofun
        exact pass_spec (s := s.withIncoming []) [] hlt heof rfl rfl le_rfl nofun
          hbytes hc
  | cons next later ih =>
      unfold readLoop
      have hlen : later.length < (next :: later).length := Nat.lt_succ_self _
      split_ifs with hlt heof
      · exact drain_spec (s := s.withIncoming (next :: later)) hlt remaining
      · exact eof_spec (s := s.withIncoming (next :: later)) hlt heof remaining
      · -- a message with a payload is read on, by induction
        have hskip := fun bytes hpay hend => loop_spec (s := s.withIncoming (next :: later))
          bytes later hlt heof hpay hend hlen (ih { s with readBuf := bytes, readPos := 0 })
        -- the next item waits, ends, fails, or is a message
        rcases next with - | - | e | m
        · obtain ⟨hbytes, hc⟩ := hzero .pending fun _ => nofun
          exact pass_spec (s := s.withIncoming (.pending :: later)) later hlt heof
            rfl rfl hlen.le (fun _ => hlen) hbytes hc
        · exact end_spec (s := s.withIncoming (.ended :: later)) later hlt heof
            rfl rfl hlen remaining
        · obtain ⟨hbytes, hc⟩ := hzero (.err ⟨.other, e⟩) fun _ => nofun
          exact pass_spec (s := s.withIncoming (.error e :: later)) later hlt heof
            rfl rfl hlen.le (fun _ => hlen) hbytes hc
        · rcases m with d | d | d | d | - | d
          · exact hskip [] rfl rfl
          · exact hskip d rfl rfl
          · exact hskip [] rfl rfl
          · exact hskip [] rfl rfl
          · exact end_spec (s := s.withIncoming (.message .close :: later)) later
              hlt heof rfl rfl hlen remaining
          · exact hskip [] rfl rfl

theorem pollRead_spec (s : WsByteStream) (remaining : ℕ) :
    ReadSpec s (.read remaining (s.pollRead remaining).1) (s.pollRead remaining).2 :=
  s.readLoop_spec remaining s.inner.incoming

end WsByteStream

/-! ### What is written -/

/-- The bytes that a message puts into the stream of the other side. -/
def payload : Message → List UInt8
  | .binary bytes => bytes
  | _ => []

namespace WsByteStream

/-- The bytes handed to the socket. -/
def written (s : WsByteStream) : List UInt8 := s.inner.sent.flatMap payload

/-- The socket will not fail. -/
def Healthy (s : WsByteStream) : Prop :=
  (∀ e, PollReady.error e ∉ s.inner.readiness) ∧ ∀ e, some e ∉ s.inner.sends

/-- What a write does: the laws of `Sink`, and the reading side untouched. -/
structure WriteSpec (s : WsByteStream) (c : Call) (t : WsByteStream) : Prop where
  content : t.content = s.content
  ends : t.ends ↔ s.ends
  incoming : t.inner.incoming = s.inner.incoming
  written : t.written = s.written ++ c.taken
  patience : t.inner.readiness.length ≤ s.inner.readiness.length
  healthy : s.Healthy → t.Healthy ∧ ¬ c.isWriteError
  no_zero : ¬ c.isZeroWrite
  progress : c.offers →
    c.taken ≠ [] ∨ c.isWriteError ∨ t.inner.readiness.length < s.inner.readiness.length

variable {s : WsByteStream} {c : Call}

/-- The socket with some of its answers used up. -/
def used (s : WsByteStream) (readiness : List PollReady) (sends : List (Option String)) :
    WsByteStream :=
  { s with inner := { s.inner with readiness, sends } }

theorem healthy_used {readiness : List PollReady} {sends : List (Option String)}
    (hready : ∀ r ∈ readiness, r ∈ s.inner.readiness)
    (hsends : ∀ r ∈ sends, r ∈ s.inner.sends) (h : s.Healthy) : (s.used readiness sends).Healthy :=
  ⟨fun e he => h.1 e (hready _ he), fun e he => h.2 e (hsends _ he)⟩

/-- A write that becomes a binary message. -/
theorem accept_spec {readiness : List PollReady} {sends : List (Option String)}
    (hready : readiness <:+ s.inner.readiness) (hsends : sends <:+ s.inner.sends)
    (buf : List UInt8) :
    let t := s.used readiness sends
    WriteSpec s (.write buf (.ok buf.length))
      { t with inner := { t.inner with sent := t.inner.sent ++ [.binary buf] } } where
  content := rfl
  ends := Iff.rfl
  incoming := rfl
  written := by
    show (s.inner.sent ++ [Message.binary buf]).flatMap payload = s.written ++ buf.take buf.length
    rw [List.flatMap_append, List.flatMap_singleton, List.take_length]
    rfl
  patience := hready.length_le
  healthy h := ⟨healthy_used hready.subset hsends.subset h, Bool.false_ne_true⟩
  no_zero := by
    rcases buf with - | ⟨b, bs⟩
    · exact Call.not_isZeroWrite (Or.inl rfl)
    · exact Call.not_isZeroWrite_ok (Nat.succ_pos _)
  progress hoff := by
    cases buf with
    | nil => cases hoff
    | cons b bs => exact Or.inl (List.cons_ne_nil _ _)

/-- A write that is left pending. -/
theorem pending_spec {readiness : List PollReady}
    (hready : s.inner.readiness = .pending :: readiness) (buf : List UInt8) :
    WriteSpec s (.write buf .pending) (s.used readiness s.inner.sends) where
  content := rfl
  ends := Iff.rfl
  incoming := rfl
  written := (List.append_nil _).symm
  patience := by
    rw [hready]
    exact Nat.le_succ _
  healthy h :=
    ⟨healthy_used (fun r hr => hready ▸ List.mem_cons_of_mem _ hr) (fun _ hr => hr) h,
      Bool.false_ne_true⟩
  no_zero := Call.not_isZeroWrite (Or.inr nofun)
  progress _ := by
    right; right
    rw [hready]
    exact Nat.lt_succ_self _

/-- A write that fails. -/
theorem error_spec {readiness : List PollReady} {sends : List (Option String)}
    (hready : readiness <:+ s.inner.readiness) (hfail : ¬ s.Healthy) (buf : List UInt8)
    (e : IoError) : WriteSpec s (.write buf (.err e)) (s.used readiness sends) where
  content := rfl
  ends := Iff.rfl
  incoming := rfl
  written := (List.append_nil _).symm
  patience := hready.length_le
  healthy h := absurd h hfail
  no_zero := Call.not_isZeroWrite (Or.inr nofun)
  progress _ := Or.inr (Or.inl rfl)

/-- There is room: what the write does is up to the send. -/
theorem send_spec {readiness : List PollReady} (hready : readiness <:+ s.inner.readiness)
    (buf : List UInt8) :
    let sending := { s.inner with readiness }.startSend (.binary buf)
    WriteSpec s (.write buf (sending.1.elim (.ok buf.length) .err))
      { s with inner := sending.2 } := by
  rcases hs : s.inner.sends with - | ⟨- | e, sends⟩
  · simp only [WebSocketStream.startSend, hs]
    exact accept_spec hready List.nil_suffix buf
  · simp only [WebSocketStream.startSend, hs]
    exact accept_spec hready (hs ▸ List.suffix_cons none sends) buf
  · have hfail : ¬ s.Healthy := fun h => h.2 e (hs ▸ List.mem_cons_self)
    simp only [WebSocketStream.startSend, hs]
    exact error_spec hready hfail buf ⟨.other, e⟩

theorem pollWrite_of_ready {inner : WebSocketStream} (hready : s.inner.pollReady = (.ok (), inner))
    (buf : List UInt8) :
    let sending := inner.startSend (.binary buf)
    s.pollWrite buf
      = (sending.1.elim (.ok buf.length) .err, { s with inner := sending.2 }) := by
  rw [pollWrite, hready]
  dsimp only
  rcases inner.startSend (.binary buf) with ⟨- | e, sent⟩ <;> rfl

theorem pollWrite_spec (s : WsByteStream) (buf : List UInt8) :
    WriteSpec s (.write buf (s.pollWrite buf).1) (s.pollWrite buf).2 := by
  rcases hr : s.inner.readiness with - | ⟨- | e | -, readiness⟩
  · have hready : s.inner.pollReady = (.ok (), s.inner) := by
      rw [WebSocketStream.pollReady, hr]
    rw [pollWrite_of_ready hready]
    exact send_spec (List.suffix_refl s.inner.readiness) buf
  · rw [pollWrite, WebSocketStream.pollReady, hr]
    exact pending_spec hr buf
  · have hfail : ¬ s.Healthy := fun h => h.1 e (hr ▸ List.mem_cons_self)
    rw [pollWrite, WebSocketStream.pollReady, hr]
    exact error_spec (hr ▸ List.suffix_cons _ readiness) hfail buf ⟨.other, e⟩
  · have hready : s.inner.pollReady = (.ok (), { s.inner with readiness }) := by
      rw [WebSocketStream.pollReady, hr]
    rw [pollWrite_of_ready hready]
    exact send_spec (hr ▸ List.suffix_cons _ readiness) buf

/-! ### The byte stream as a source and a sink -/

theorem ioStep_cases {c : Call} {t : WsByteStream} (h : IoStep s c t) :
    ReadSpec s c t ∧ c.taken = [] ∧ ¬ c.offers ∧ ¬ c.isZeroWrite ∧ ¬ c.isWriteError ∨
      WriteSpec s c t ∧ c.bytes = [] ∧ ¬ c.asks ∧ ¬ c.isEof := by
  cases h with
  | read k =>
      exact Or.inl ⟨s.pollRead_spec k, rfl, Bool.false_ne_true, Bool.false_ne_true,
        Bool.false_ne_true⟩
  | write buf =>
      exact Or.inr ⟨s.pollWrite_spec buf, rfl, Bool.false_ne_true, Bool.false_ne_true⟩

/-- The stream is a source. -/
def source : Source WsByteStream where
  content := content
  ends := ends
  delay s := s.inner.incoming.length
  content_step h := by
    rcases ioStep_cases h with ⟨hr, -⟩ | ⟨hw, hb, -⟩
    · exact hr.content
    · rw [hb, hw.content, List.nil_append]
  ends_step h := by
    rcases ioStep_cases h with ⟨hr, -⟩ | ⟨hw, -⟩
    · exact hr.ends
    · exact hw.ends
  eof_step h heof := by
    rcases ioStep_cases h with ⟨hr, -⟩ | ⟨-, -, -, hne⟩
    · exact hr.eof heof
    · exact absurd heof hne
  delay_step h := by
    rcases ioStep_cases h with ⟨hr, -⟩ | ⟨hw, -⟩
    · exact hr.delay
    · exact (congrArg List.length hw.incoming).le
  progress h hasks hs := by
    rcases ioStep_cases h with ⟨hr, -⟩ | ⟨-, -, hno, -⟩
    · exact hr.progress hasks hs
    · exact absurd hasks hno

/-- The stream is a sink. -/
def sink : Sink WsByteStream where
  Sound _ := True
  patience s := s.inner.readiness.length
  sound_step _ h := h
  patience_step h := by
    rcases ioStep_cases h with ⟨hr, -⟩ | ⟨hw, -⟩
    · exact (congrArg List.length hr.readiness).le
    · exact hw.patience
  no_zero h _ := by
    rcases ioStep_cases h with ⟨-, -, -, hz, -⟩ | ⟨hw, -⟩
    · exact hz
    · exact hw.no_zero
  progress h _ hoff := by
    rcases ioStep_cases h with ⟨-, -, hno, -⟩ | ⟨hw, -⟩
    · exact absurd hoff hno
    · exact hw.progress hoff
  written := written
  Healthy := Healthy
  written_step h := by
    rcases ioStep_cases h with ⟨hr, htaken, -⟩ | ⟨hw, -⟩
    · rw [htaken, List.append_nil, written, written, hr.sent]
    · exact hw.written
  healthy_step h hs := by
    rcases ioStep_cases h with ⟨hr, -⟩ | ⟨hw, -⟩
    · rwa [Healthy, hr.readiness, hr.sends]
    · exact (hw.healthy hs).1
  no_error h hs := by
    rcases ioStep_cases h with ⟨-, -, -, -, he⟩ | ⟨hw, -⟩
    · exact he
    · exact (hw.healthy hs).2

end WsByteStream

end LamcoRdp
