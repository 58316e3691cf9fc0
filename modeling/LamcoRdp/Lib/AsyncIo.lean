/-
LamcoRdp/Lib/AsyncIo.lean

Byte streams that are polled, and the rules for the layers built on them.

A poll is answered at once: with `pending`, with an error or with a result.  A call
is a poll together with its answer, and a run of `IoStep` is a sequence of calls in
any order and with any buffers.  What a caller sees of a run is a function of the
calls alone: the bytes read (`bytesRead`) and the bytes accepted (`accepted`).

A layer says what it does by two structures of laws, each about one call:

* `Source`: what is still to be read and whether the stream ends there;
* `Sink`: what has been written so far.

The rules `Source.run`, `Source.eof_run`, `Source.complete`, `Sink.run` and
`Sink.complete` carry the laws to whole runs.
-/
import LamcoRdp.Lib.Runs

namespace AsyncIo

open Runs

/-! ### Polls and calls -/

/-- Kinds of errors. -/
inductive ErrorKind
  | other
  | invalidData
  deriving DecidableEq, Repr

/-- An error of a stream. -/
structure IoError where
  kind : ErrorKind
  message : String
  deriving DecidableEq, Repr

/-- The answer to a poll. -/
inductive Poll (α : Type*)
  | pending
  | err (e : IoError)
  | ok (result : α)
  deriving DecidableEq, Repr

/-- A stream that can be read: a poll with room for `remaining` bytes answers with
the bytes put into the buffer. -/
class AsyncRead (S : Type*) where
  pollRead : S → ℕ → Poll (List UInt8) × S

/-- A stream that can be written: a poll with a buffer answers with the number of
its bytes that were accepted. -/
class AsyncWrite (S : Type*) where
  pollWrite : S → List UInt8 → Poll ℕ × S

export AsyncRead (pollRead)
export AsyncWrite (pollWrite)

/-- A poll and its answer. -/
inductive Call
  | read (remaining : ℕ) (reply : Poll (List UInt8))
  | write (buf : List UInt8) (reply : Poll ℕ)
  deriving DecidableEq, Repr

namespace Call

/-- The bytes that a call delivers to its caller. -/
def bytes : Call → List UInt8
  | read _ (.ok bs) => bs
  | _ => []

/-- The bytes that a call takes from its caller. -/
def taken : Call → List UInt8
  | write buf (.ok n) => buf.take n
  | _ => []

/-- A read with room in its buffer. -/
def asks : Call → Bool
  | read (_ + 1) _ => true
  | _ => false

/-- A write of at least one byte. -/
def offers : Call → Bool
  | write (_ :: _) _ => true
  | _ => false

/-- A read with room in its buffer that succeeds with nothing reports the end of the
stream. -/
def isEof : Call → Bool
  | read (_ + 1) (.ok []) => true
  | _ => false

/-- A write that succeeds although it took nothing of a buffer with bytes in it. -/
def isZeroWrite : Call → Bool
  | write (_ :: _) (.ok 0) => true
  | _ => false

/-- A write that ends in an error. -/
def isWriteError : Call → Bool
  | write _ (.err _) => true
  | _ => false

end Call

/-- What the reader got, in order. -/
def bytesRead (calls : List Call) : List UInt8 := calls.flatMap Call.bytes

/-- What the stream took from the writer, in order. -/
def accepted (calls : List Call) : List UInt8 := calls.flatMap Call.taken

@[simp] theorem bytesRead_append (xs ys : List Call) :
    bytesRead (xs ++ ys) = bytesRead xs ++ bytesRead ys :=
  List.flatMap_append

@[simp] theorem accepted_append (xs ys : List Call) :
    accepted (xs ++ ys) = accepted xs ++ accepted ys :=
  List.flatMap_append

@[simp] theorem bytesRead_singleton (c : Call) : bytesRead [c] = c.bytes :=
  List.flatMap_singleton Call.bytes c

@[simp] theorem accepted_singleton (c : Call) : accepted [c] = c.taken :=
  List.flatMap_singleton Call.taken c

theorem Call.isEof_read {remaining : ℕ} {bs : List UInt8} :
    (Call.read remaining (.ok bs)).isEof ↔ 0 < remaining ∧ bs = [] := by
  cases remaining <;> cases bs <;> simp [Call.isEof]

theorem Call.asks_read {remaining : ℕ} {reply : Poll (List UInt8)} :
    (Call.read remaining reply).asks ↔ 0 < remaining := by
  cases remaining <;> simp [Call.asks]

theorem Call.offers_write {buf : List UInt8} {reply : Poll ℕ} :
    (Call.write buf reply).offers ↔ buf ≠ [] := by
  cases buf <;> simp [Call.offers]

theorem Call.not_isZeroWrite {buf : List UInt8} {reply : Poll ℕ}
    (h : buf = [] ∨ reply ≠ .ok 0) : ¬ (Call.write buf reply).isZeroWrite := by
  rcases buf with - | ⟨b, bs⟩
  · exact Bool.false_ne_true
  · rcases reply with - | e | - | n
    · exact Bool.false_ne_true
    · exact Bool.false_ne_true
    · exact absurd rfl (h.resolve_left (List.cons_ne_nil b bs))
    · exact Bool.false_ne_true

theorem Call.taken_ne_nil {buf : List UInt8} {n : ℕ} (hbuf : buf ≠ []) (hn : 0 < n) :
    (Call.write buf (.ok n)).taken ≠ [] := by
  refine List.ne_nil_of_length_pos ?_
  have hpos := List.length_pos_iff.mpr hbuf
  show 0 < (buf.take n).length
  rw [List.length_take]
  omega

theorem Call.not_isZeroWrite_ok {buf : List UInt8} {n : ℕ} (hn : 0 < n) :
    ¬ (Call.write buf (.ok n)).isZeroWrite :=
  Call.not_isZeroWrite (Or.inr fun h => Nat.pos_iff_ne_zero.mp hn (Poll.ok.inj h))

/-- A read of the front of a buffer that is not empty delivers some of it. -/
theorem Call.bytes_front {rest : List UInt8} {remaining : ℕ} (hrest : rest ≠ [])
    (hasks : 0 < remaining) : rest.take (min rest.length remaining) ≠ [] := by
  have hpos := List.length_pos_iff.mpr hrest
  intro hnil
  have hlen := congrArg List.length hnil
  rw [List.length_take, List.length_nil] at hlen
  omega

/-- One call: the stream answers it. -/
inductive IoStep {S : Type*} [AsyncRead S] [AsyncWrite S] : S → Call → S → Prop
  | read (s : S) (remaining : ℕ) :
      IoStep s (.read remaining (pollRead s remaining).1) (pollRead s remaining).2
  | write (s : S) (buf : List UInt8) :
      IoStep s (.write buf (pollWrite s buf).1) (pollWrite s buf).2

variable {S : Type*} [AsyncRead S] [AsyncWrite S] {s t : S} {calls : List Call} {c : Call}

/-! ### Driving a stream -/

/-- A request to a stream: there is room for so many bytes, or there are these to write. -/
inductive Request
  | read (remaining : ℕ)
  | write (buf : List UInt8)
  deriving DecidableEq, Repr

/-- The stream answers a request. -/
def answer (s : S) : Request → Call × S
  | .read remaining => (.read remaining (pollRead s remaining).1, (pollRead s remaining).2)
  | .write buf => (.write buf (pollWrite s buf).1, (pollWrite s buf).2)

/-- The calls that answer some requests, and the stream after them. -/
def drive (s : S) : List Request → List Call × S
  | [] => ([], s)
  | r :: rs => ((answer s r).1 :: (drive (answer s r).2 rs).1, (drive (answer s r).2 rs).2)

theorem ioStep_answer (s : S) (r : Request) : IoStep s (answer s r).1 (answer s r).2 := by
  cases r with
  | read remaining => exact .read s remaining
  | write buf => exact .write s buf

theorem run_drive (s : S) (rs : List Request) : Run IoStep s (drive s rs).1 (drive s rs).2 := by
  induction rs generalizing s with
  | nil => exact Run.nil
  | cons r rs ih => exact (ih (answer s r).2).cons (ioStep_answer s r)

/-! ### What a stream delivers -/

/-- The laws of a stream that delivers fixed content.  `delay` counts the polls that
may deliver nothing before the content is used up. -/
structure Source (S : Type*) [AsyncRead S] [AsyncWrite S] where
  content : S → List UInt8
  /-- the end of the stream follows the content -/
  ends : S → Prop
  delay : S → ℕ
  content_step : ∀ {s : S} {c t}, IoStep s c t → content s = c.bytes ++ content t
  ends_step : ∀ {s : S} {c t}, IoStep s c t → (ends t ↔ ends s)
  eof_step : ∀ {s : S} {c t}, IoStep s c t → c.isEof → content s = [] ∧ ends s
  delay_step : ∀ {s : S} {c t}, IoStep s c t → delay t ≤ delay s
  progress : ∀ {s : S} {c t}, IoStep s c t → c.asks → ends s →
    c.isEof ∨ c.bytes ≠ [] ∨ delay t < delay s

namespace Source

variable (R : Source S)

/-- What was read comes first, what is left comes after it. -/
theorem run (h : Run IoStep s calls t) : R.content s = bytesRead calls ++ R.content t := by
  induction h with
  | nil => rfl
  | snoc _ hst ih =>
      rw [ih, R.content_step hst, bytesRead_append, bytesRead_singleton, List.append_assoc]

theorem run_ends (h : Run IoStep s calls t) : R.ends t ↔ R.ends s := by
  induction h with
  | nil => rfl
  | snoc _ hst ih => exact (R.ends_step hst).trans ih

/-- The end of the stream is reported only after all of its content. -/
theorem eof_run {pre post : List Call} (h : Run IoStep s (pre ++ c :: post) t)
    (hc : c.isEof) : bytesRead pre = R.content s ∧ R.ends s := by
  obtain ⟨r, u, hpre, hst⟩ := h.step_of_split
  obtain ⟨hempty, hends⟩ := R.eof_step hst hc
  refine ⟨?_, (R.run_ends hpre).mp hends⟩
  rw [R.run hpre, hempty, List.append_nil]

/-- Each read with room in its buffer delivers something, uses up some of the delay
or reports the end. -/
theorem asks_le (h : Run IoStep s calls t) (hends : R.ends s) :
    (∃ c ∈ calls, c.isEof) ∨
      calls.countP Call.asks + (R.content t).length + R.delay t
        ≤ (R.content s).length + R.delay s := by
  induction h with
  | nil => right; simp
  | @snoc es u c t hr hst ih =>
      rcases ih with ⟨c', hc', heof⟩ | hle
      · exact Or.inl ⟨c', List.mem_append_left _ hc', heof⟩
      have hcontent := congrArg List.length (R.content_step hst)
      have hdelay := R.delay_step hst
      rw [List.length_append] at hcontent
      by_cases hasks : c.asks
      · rcases R.progress hst hasks ((R.run_ends hr).mpr hends) with heof | hbytes | hlt
        · exact Or.inl ⟨c, by simp, heof⟩
        · have hpos := List.length_pos_iff.mpr hbytes
          right
          simp only [List.countP_append, List.countP_singleton, hasks, if_true]
          omega
        · right
          simp only [List.countP_append, List.countP_singleton, hasks, if_true]
          omega
      · right
        simp only [List.countP_append, List.countP_singleton, if_neg hasks]
        omega

/-- Whoever keeps reading gets the whole content and is told of the end. -/
theorem complete (h : Run IoStep s calls t) (hends : R.ends s)
    (hmany : (R.content s).length + R.delay s < calls.countP Call.asks) :
    (∃ c ∈ calls, c.isEof) ∧ bytesRead calls = R.content s := by
  rcases R.asks_le h hends with ⟨c, hc, heof⟩ | hle
  · obtain ⟨pre, post, rfl⟩ := List.append_of_mem hc
    refine ⟨⟨c, hc, heof⟩, ?_⟩
    have hall := (R.eof_run h heof).1
    have hrun := R.run h
    rw [bytesRead_append, hall, List.append_assoc] at hrun
    have hrest := List.self_eq_append_right.mp hrun
    rw [bytesRead_append, hall, (List.append_eq_nil_iff.mp hrest).1, List.append_nil]
  · omega

end Source

/-! ### What a stream takes -/

/-- The laws of a stream that takes bytes as long as it is `Sound`.  `patience` counts
the writes that it may leave pending. -/
structure Flow (S : Type*) [AsyncRead S] [AsyncWrite S] where
  Sound : S → Prop
  patience : S → ℕ
  sound_step : ∀ {s : S} {c t}, IoStep s c t → Sound s → Sound t
  patience_step : ∀ {s : S} {c t}, IoStep s c t → patience t ≤ patience s
  no_zero : ∀ {s : S} {c t}, IoStep s c t → Sound s → ¬ c.isZeroWrite
  progress : ∀ {s : S} {c t}, IoStep s c t → Sound s → c.offers →
    c.taken ≠ [] ∨ c.isWriteError ∨ patience t < patience s

/-- A stream that also keeps what it takes. -/
structure Sink (S : Type*) [AsyncRead S] [AsyncWrite S] extends Flow S where
  written : S → List UInt8
  /-- no write to come fails -/
  Healthy : S → Prop
  written_step : ∀ {s : S} {c t}, IoStep s c t → written t = written s ++ c.taken
  healthy_step : ∀ {s : S} {c t}, IoStep s c t → Healthy s → Healthy t
  no_error : ∀ {s : S} {c t}, IoStep s c t → Healthy s → ¬ c.isWriteError

namespace Flow

variable (F : Flow S)

theorem run_sound (h : Run IoStep s calls t) (hs : F.Sound s) : F.Sound t :=
  h.invariant hs fun hs hst => F.sound_step hst hs

theorem run_no_zero (h : Run IoStep s calls t) (hs : F.Sound s) :
    ∀ c ∈ calls, ¬ c.isZeroWrite := by
  intro c hc
  obtain ⟨pre, post, rfl⟩ := List.append_of_mem hc
  obtain ⟨r, u, hpre, hst⟩ := h.step_of_split
  exact F.no_zero hst (F.run_sound hpre hs)

/-- Where no write fails, each write that offers something has some of it taken or
uses up some of the patience. -/
theorem offers_le (h : Run IoStep s calls t) (hs : F.Sound s)
    (hok : ∀ c ∈ calls, ¬ c.isWriteError) :
    calls.countP Call.offers + F.patience t ≤ (accepted calls).length + F.patience s := by
  induction h with
  | nil => simp [accepted]
  | @snoc es u c t hr hst ih =>
      have hle := ih fun c' hc' => hok c' (List.mem_append_left _ hc')
      have hpat := F.patience_step hst
      rw [accepted_append, accepted_singleton, List.length_append, List.countP_append,
        List.countP_singleton]
      by_cases hoff : c.offers
      · rw [if_pos hoff]
        rcases F.progress hst (F.run_sound hr hs) hoff with htaken | herr | hlt
        · have hpos := List.length_pos_iff.mpr htaken
          omega
        · exact absurd herr (hok c (by simp))
        · omega
      · rw [if_neg hoff]
        omega

end Flow

namespace Sink

variable (K : Sink S)

/-- What was taken has been written, in its order. -/
theorem run (h : Run IoStep s calls t) : K.written t = K.written s ++ accepted calls := by
  induction h with
  | nil => exact (List.append_nil _).symm
  | snoc _ hst ih =>
      rw [K.written_step hst, ih, accepted_append, accepted_singleton, List.append_assoc]

end Sink

/-! ### A caller that resubmits -/

/-- The caller has `w` to write: each write offers bytes from where the last one that
succeeded stopped. -/
def Resubmits (w : List UInt8) (calls : List Call) : Prop :=
  ∀ pre buf reply post, calls = pre ++ .write buf reply :: post →
    buf ≠ [] ∧ accepted pre ++ buf <+: w

theorem Resubmits.init {w : List UInt8} (h : Resubmits w (calls ++ [c])) :
    Resubmits w calls := by
  intro pre buf reply post heq
  refine h pre buf reply (post ++ [c]) ?_
  rw [heq, List.append_assoc, List.cons_append]

theorem Resubmits.accepted_isPrefix {w : List UInt8} (h : Resubmits w calls) :
    accepted calls <+: w := by
  induction calls using List.reverseRecOn with
  | nil => exact List.nil_prefix
  | append_singleton calls c ih =>
      rw [accepted_append, accepted_singleton]
      rcases c with ⟨k, reply⟩ | ⟨buf, - | e | n⟩
      · exact (List.append_nil _).symm ▸ ih h.init
      · exact (List.append_nil _).symm ▸ ih h.init
      · exact (List.append_nil _).symm ▸ ih h.init
      · have hlast := (h calls buf (.ok n) [] rfl).2
        exact ((List.prefix_append_right_inj _).mpr (List.take_prefix n buf)).trans hlast

end AsyncIo
