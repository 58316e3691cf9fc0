/-
LamcoRdp/Lib/Checked.lean

Machine arithmetic that stops where it cannot go on, and machines that never do.

A checked computation gives a value or the `Fault` that kept it from giving one.
Words have `w` bits and are natural numbers; an operation whose exact result is
not a word faults.

`NeverFaults step s` says that from `s` no list of events makes the machine
fault.  It is the largest property that every step keeps, so it is proved by an
invariant (`NeverFaults.of_invariant`), and carried from a machine to a part of
it by a simulation (`NeverFaults.of_simulates`).

`inRange` turns a read that may be out of range into a checked one, and
`foldlM_inRange` does so for a loop.

`Follows f g R Out` says that a machine does not fault on a list of inputs, and does
what a reference does that knows no faults.  Where a step of the machine does so exactly
under a condition on the reference, so does a run (`follows_iff`).
-/
import Mathlib.Data.List.Basic
import Mathlib.Algebra.Order.Group.Nat

/-- What keeps a computation from going on. -/
inductive Fault
  | divisionByZero
  | underflow
  | overflow
  | emptyClamp
  | badDuration
  | failedAssertion
  | outOfRange
  deriving DecidableEq, Repr

/-- A value, or the fault met on the way to it. -/
abbrev Checked (α : Type*) := Except Fault α

namespace Checked

/-! ### Sequencing -/

section Sequencing

variable {ε α β : Type}

@[simp] theorem ok_bind (a : α) (f : α → Except ε β) : ((.ok a : Except ε α) >>= f) = f a := rfl

/-- A sequence gives a value exactly if both of its parts do. -/
theorem bind_eq_ok {x : Except ε α} {f : α → Except ε β} {b : β} :
    (x >>= f) = .ok b ↔ ∃ a, x = .ok a ∧ f a = .ok b := by
  cases x with
  | error e =>
      constructor
      · intro h
        cases h
      · rintro ⟨a, ha, -⟩
        cases ha
  | ok a => simp

/-- A list of computations that all succeed. -/
theorem mapM_ok {f : α → Except ε β} {g : α → β} {l : List α} (h : ∀ a ∈ l, f a = .ok (g a)) :
    l.mapM f = .ok (l.map g) := by
  induction l with
  | nil => rfl
  | cons a l ih =>
      rw [List.mapM_cons, h a List.mem_cons_self,
        ih fun b hb => h b (List.mem_cons_of_mem a hb)]
      rfl

/-- A list of computations that succeeds, one by one. -/
theorem of_mapM_ok {f : α → Except ε β} {l : List α} {bs : List β} (h : l.mapM f = .ok bs) :
    ∀ a ∈ l, ∃ b, f a = .ok b := by
  induction l generalizing bs with
  | nil => exact fun a ha => absurd ha List.not_mem_nil
  | cons a l ih =>
      rw [List.mapM_cons, bind_eq_ok] at h
      obtain ⟨b, hb, hrest⟩ := h
      obtain ⟨bs, hbs, -⟩ := bind_eq_ok.mp hrest
      intro c hc
      rcases List.mem_cons.mp hc with rfl | hc
      · exact ⟨b, hb⟩
      · exact ih hbs c hc

/-- The last step of a fold. -/
theorem foldlM_concat (f : β → α → Except ε β) (b : β) (a : α) (l : List α) :
    (l ++ [a]).foldlM f b = l.foldlM f b >>= fun c => f c a := by
  rw [List.foldlM_append]
  congr 1
  funext c
  rw [List.foldlM_cons]
  cases f c a <;> rfl

end Sequencing

/-! ### Values that may be missing -/

section Missing

variable {α β γ : Type}

/-- What was read at an index that may be out of range. -/
def inRange : Option α → Checked α
  | some a => .ok a
  | none => .error .outOfRange

@[simp] theorem inRange_some (a : α) : inRange (some a) = .ok a := rfl

theorem inRange_eq_ok {o : Option α} {a : α} : inRange o = .ok a ↔ o = some a := by
  cases o with
  | none =>
      constructor
      · intro h
        cases h
      · intro h
        cases h
  | some b =>
      constructor
      · intro h
        rw [Except.ok.inj h]
      · intro h
        rw [Option.some.inj h, inRange_some]

theorem inRange_bind (o : Option α) (f : α → Option β) :
    inRange (o.bind f) = inRange o >>= fun a => inRange (f a) := by
  cases o <;> rfl

theorem inRange_map (o : Option α) (f : α → β) :
    inRange (o.map f) = inRange o >>= fun a => .ok (f a) := by
  cases o <;> rfl

/-- A loop in which nothing but a read can fault. -/
theorem foldlM_inRange (P : β → Prop) {f : β → γ → Checked β} {g : β → γ → Option β} {l : List γ}
    (hstep : ∀ c ∈ l, ∀ b, P b → f b c = inRange (g b c))
    (hkeep : ∀ c ∈ l, ∀ b b', P b → g b c = some b' → P b') {b : β} (hb : P b) :
    l.foldlM f b = inRange (l.foldlM g b) := by
  induction l generalizing b with
  | nil => rfl
  | cons c l ih =>
      rw [List.foldlM_cons, List.foldlM_cons, hstep c List.mem_cons_self b hb]
      rcases hg : g b c with - | b'
      · rfl
      · exact ih (fun d hd => hstep d (List.mem_cons_of_mem c hd))
          (fun d hd => hkeep d (List.mem_cons_of_mem c hd)) (hkeep c List.mem_cons_self b b' hb hg)

end Missing

/-! ### Computations that give no value -/

section Faults

variable {ε α β γ : Type}

/-- The computation gives no value. -/
def Faults (x : Except ε α) : Prop := ∀ a, x ≠ .ok a

theorem faults_error (e : ε) : Faults (.error e : Except ε α) := by
  intro a h
  cases h

/-- A sequence faults if its second part does after every value of the first. -/
theorem faults_bind {x : Except ε α} {f : α → Except ε β} (h : ∀ a, x = .ok a → Faults (f a)) :
    Faults (x >>= f) := by
  intro b hb
  obtain ⟨a, ha, hf⟩ := bind_eq_ok.mp hb
  exact h a ha b hf

/-- A sequence faults if its first part does. -/
theorem Faults.bind {x : Except ε α} (h : Faults x) (f : α → Except ε β) : Faults (x >>= f) :=
  faults_bind fun a ha => absurd ha (h a)

/-- A loop faults that has a pass which faults in every state it may be reached in. -/
theorem foldlM_faults (P : β → Prop) {f : β → γ → Except ε β} {l : List γ} {c : γ} (hc : c ∈ l)
    (hkeep : ∀ c b b', P b → f b c = .ok b' → P b') (hfault : ∀ b, P b → Faults (f b c)) {b : β}
    (hb : P b) : Faults (l.foldlM f b) := by
  induction l generalizing b with
  | nil => exact absurd hc List.not_mem_nil
  | cons d l ih =>
      rw [List.foldlM_cons]
      rcases List.mem_cons.mp hc with rfl | hc
      · exact (hfault b hb).bind _
      · exact faults_bind fun b' hb' => ih hc (hkeep d b b' hb hb')

/-- What every pass keeps, a loop that gives a value keeps. -/
theorem foldlM_keeps (P : β → Prop) {f : β → γ → Except ε β} {l : List γ}
    (hkeep : ∀ c b b', P b → f b c = .ok b' → P b') {b b' : β} (hb : P b)
    (h : l.foldlM f b = .ok b') : P b' := by
  induction l generalizing b with
  | nil => rwa [← Except.ok.inj h]
  | cons c l ih =>
      rw [List.foldlM_cons] at h
      obtain ⟨b₁, hb₁, hrest⟩ := bind_eq_ok.mp h
      exact ih (hkeep c b b₁ hb hb₁) hrest

end Faults

/-! ### Words -/

section Words

variable {w a b c lo hi : ℕ}

/-- `a + b`. -/
def add (w a b : ℕ) : Checked ℕ := if a + b < 2 ^ w then .ok (a + b) else .error .overflow

/-- `a - b`. -/
def sub (a b : ℕ) : Checked ℕ := if b ≤ a then .ok (a - b) else .error .underflow

/-- `a * b`. -/
def mul (w a b : ℕ) : Checked ℕ := if a * b < 2 ^ w then .ok (a * b) else .error .overflow

/-- `a / b`. -/
def div (a b : ℕ) : Checked ℕ := if b = 0 then .error .divisionByZero else .ok (a / b)

/-- `a.clamp(lo, hi)`. -/
def clamp (a lo hi : ℕ) : Checked ℕ :=
  if lo ≤ hi then .ok (max lo (min a hi)) else .error .emptyClamp

theorem add_ok (h : a + b < 2 ^ w) : add w a b = .ok (a + b) := if_pos h

theorem sub_ok (h : b ≤ a) : sub a b = .ok (a - b) := if_pos h

theorem mul_ok (h : a * b < 2 ^ w) : mul w a b = .ok (a * b) := if_pos h

theorem div_ok (h : b ≠ 0) : div a b = .ok (a / b) := if_neg h

theorem clamp_ok (h : lo ≤ hi) : clamp a lo hi = .ok (max lo (min a hi)) := if_pos h

theorem add_eq_ok : add w a b = .ok c ↔ a + b < 2 ^ w ∧ a + b = c := by
  unfold add
  split <;> simp [*]

theorem sub_eq_ok : sub a b = .ok c ↔ b ≤ a ∧ a - b = c := by
  unfold sub
  split <;> simp [*]

theorem mul_eq_ok : mul w a b = .ok c ↔ a * b < 2 ^ w ∧ a * b = c := by
  unfold mul
  split <;> simp [*]

theorem div_eq_ok : div a b = .ok c ↔ b ≠ 0 ∧ a / b = c := by
  unfold div
  split <;> simp [*]

theorem clamp_eq_ok : clamp a lo hi = .ok c ↔ lo ≤ hi ∧ max lo (min a hi) = c := by
  unfold clamp
  split <;> simp [*]

end Words

/-! ### Machines -/

section Machines

variable {S E T F : Type} {step : S → E → Checked S} {s : S}

/-- No events make the machine fault. -/
def NeverFaults (step : S → E → Checked S) (s : S) : Prop :=
  ∀ es : List E, ∃ t, es.foldlM step s = .ok t

/-- A property of the state under which every step succeeds, and which it keeps. -/
theorem NeverFaults.of_invariant {I : S → Prop}
    (hstep : ∀ {s} e, I s → ∃ t, step s e = .ok t ∧ I t) (hs : I s) : NeverFaults step s := by
  intro es
  induction es generalizing s with
  | nil => exact ⟨s, rfl⟩
  | cons e es ih =>
      obtain ⟨t, ht, hI⟩ := hstep e hs
      rw [List.foldlM_cons, ht]
      exact ih hI

/-- The next step succeeds, and so does every one after it. -/
theorem NeverFaults.next (h : NeverFaults step s) (e : E) :
    ∃ t, step s e = .ok t ∧ NeverFaults step t := by
  obtain ⟨t, ht⟩ := h [e]
  rw [List.foldlM_cons, bind_eq_ok] at ht
  obtain ⟨r, hr, -⟩ := ht
  refine ⟨r, hr, fun es => ?_⟩
  obtain ⟨u, hu⟩ := h (e :: es)
  rw [List.foldlM_cons, hr, ok_bind] at hu
  exact ⟨u, hu⟩

/-- A machine whose steps go along with some of the steps of one that never faults. -/
theorem NeverFaults.of_simulates {step' : T → F → Checked T} {R : S → T → Prop} {f : F → E}
    (hstep : ∀ {s t s'} e, R s t → step s (f e) = .ok s' → ∃ t', step' t e = .ok t' ∧ R s' t')
    {t : T} (hR : R s t) (h : NeverFaults step s) : NeverFaults step' t := by
  intro es
  induction es generalizing s t with
  | nil => exact ⟨t, rfl⟩
  | cons e es ih =>
      obtain ⟨s', hs', h'⟩ := h.next (f e)
      obtain ⟨t', ht', hR'⟩ := hstep e hR hs'
      rw [List.foldlM_cons, ht']
      exact ih hR' h'

end Machines

/-! ### Machines and references -/

section References

variable {S T A B C : Type} {f : S → A → Checked (S × B)} {g : T → A → T × C}
  {R : S → T → Prop} {Out : B → C → Prop} {P : T → A → Prop} {s : S} {t : T}

/-- For every input the machine gives a value, its output is like that of the reference, and
the states stay related. -/
def Follows (f : S → A → Checked (S × B)) (g : T → A → T × C) (R : S → T → Prop)
    (Out : B → C → Prop) : S → T → List A → Prop
  | s, t, [] => R s t
  | s, t, a :: l =>
      R s t ∧ ∃ s' b, f s a = .ok (s', b) ∧ Out b (g t a).2 ∧ Follows f g R Out s' (g t a).1 l

theorem Follows.related {l : List A} (h : Follows f g R Out s t l) : R s t := by
  cases l with
  | nil => exact h
  | cons a l => exact h.1

/-- If a single step goes well exactly under a condition, a run does exactly if every step
meets the condition. -/
theorem follows_iff {l : List A} (hR : R s t)
    (hstep : ∀ s t a, a ∈ l → R s t →
      ((∃ s' b, f s a = .ok (s', b) ∧ Out b (g t a).2 ∧ R s' (g t a).1) ↔ P t a)) :
    Follows f g R Out s t l ↔
      ∀ pre a, pre ++ [a] <+: l → P (pre.foldl (fun t a => (g t a).1) t) a := by
  induction l generalizing s t with
  | nil =>
      refine iff_of_true hR fun pre a hpre => ?_
      have hnil := List.prefix_nil.mp hpre
      simp at hnil
  | cons a l ih =>
      have hrest := fun s t b hb => hstep s t b (List.mem_cons_of_mem a hb)
      constructor
      · -- the step at the first input answers for an empty prefix, the rest by induction
        rintro ⟨-, s', b, hf, hout, hfollows⟩ pre c hpre
        cases pre with
        | nil =>
            obtain rfl := (List.cons_prefix_cons.mp hpre).1
            exact (hstep s t c List.mem_cons_self hR).mp ⟨s', b, hf, hout, hfollows.related⟩
        | cons d pre =>
            obtain ⟨rfl, htail⟩ := List.cons_prefix_cons.mp hpre
            exact (ih hfollows.related hrest).mp hfollows pre c htail
      · -- every prefix is fine: first the empty one, then those that start with `a`
        intro hok
        have hfirst : P t a := hok [] a (List.prefix_append [a] l)
        obtain ⟨s', b, hf, hout, hR'⟩ := (hstep s t a List.mem_cons_self hR).mpr hfirst
        refine ⟨hR, s', b, hf, hout, (ih hR' hrest).mpr fun pre c hpre => ?_⟩
        exact hok (a :: pre) c (List.cons_prefix_cons.mpr ⟨rfl, hpre⟩)

end References

end Checked
