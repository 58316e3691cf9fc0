/-
LamcoRdp/Lib/Runs.lean

Labelled runs of a transition system and the rules by which a property is
carried along them.

A system is a step relation `Step : S → E → S → Prop`: in state `s` the event
`e` may lead to `t`.  `Run Step s₀ es s` says that the events `es`, taken in
order from `s₀`, may lead to `s`.  Events are appended at the end, so that an
induction over a run meets its steps in the order in which they were taken
last.  Two rules do all the work:

* `Run.invariant` carries a property of states along every run;
* `Run.invariant_trace` carries a relation between the trace and the state.

`Guarded Step Ok` keeps the steps whose event is allowed in the state before
the step.  A run of `Guarded Step Ok` is a run of `Step` in which every step
meets `Ok`.

`Since mark reset es` says that the events `es` hold a `mark` after their last
`reset`, or no `reset` at all.  `Run.since` is the rule for a property that a
`mark` establishes and that only a `reset` can break.

For a step function that always succeeds, `after` is the state after the first
events of a list, and `after_property_iff` characterises the runs along which a
property holds.

For a step function with an output, which may stop, `outputs` lists the outputs
of a run.  They do not depend on the history if no output depends on the state
(`outputs_eq_upToStop`).
-/
import Mathlib.Data.List.Induction

namespace Runs

variable {S E : Type*}

/-- `Run Step s₀ es s`: taking the events `es` in order from `s₀` may lead to
`s`. -/
inductive Run (Step : S → E → S → Prop) (s₀ : S) : List E → S → Prop
  | nil : Run Step s₀ [] s₀
  | snoc {es s e t} : Run Step s₀ es s → Step s e t → Run Step s₀ (es ++ [e]) t

/-- The steps of `Step` whose event is allowed in the state before the step. -/
def Guarded (Step : S → E → S → Prop) (Ok : S → E → Prop) : S → E → S → Prop :=
  fun s e t => Step s e t ∧ Ok s e

variable {Step : S → E → S → Prop} {Ok : S → E → Prop} {s₀ s : S} {es : List E}

/-- A property of the initial state that every step keeps holds in every state
reached. -/
theorem Run.invariant {P : S → Prop} (h₀ : P s₀)
    (hstep : ∀ {s e t}, P s → Step s e t → P t)
    (h : Run Step s₀ es s) : P s := by
  induction h with
  | nil => exact h₀
  | snoc _ hst ih => exact hstep ih hst

/-- A relation between trace and state that holds of the empty trace and that
every step keeps holds of every run. -/
theorem Run.invariant_trace {P : List E → S → Prop} (h₀ : P [] s₀)
    (hstep : ∀ {es s e t}, Run Step s₀ es s → P es s → Step s e t →
      P (es ++ [e]) t)
    (h : Run Step s₀ es s) : P es s := by
  induction h with
  | nil => exact h₀
  | snoc hr hst ih => exact hstep hr ih hst

/-- A run of events that are allowed in every state is a guarded run. -/
theorem Run.guarded (h : Run Step s₀ es s) (hok : ∀ e ∈ es, ∀ s, Ok s e) :
    Run (Guarded Step Ok) s₀ es s := by
  induction h with
  | nil => exact Run.nil
  | snoc _ hst ih =>
      refine (ih fun e he => hok e (List.mem_append_left _ he)).snoc ⟨hst, ?_⟩
      exact hok _ (List.mem_append_right _ (List.mem_singleton_self _)) _

/-- A step before a run. -/
theorem Run.cons {e : E} {r : S} (hst : Step s₀ e r) (h : Run Step r es s) :
    Run Step s₀ (e :: es) s := by
  induction h with
  | nil => exact Run.nil.snoc hst
  | snoc _ hst' ih => exact ih.snoc hst'

/-- A run of fewer steps is one of more. -/
theorem Run.mono {Step' : S → E → S → Prop} (hle : ∀ {s e t}, Step s e t → Step' s e t)
    (h : Run Step s₀ es s) : Run Step' s₀ es s := by
  induction h with
  | nil => exact Run.nil
  | snoc _ hst ih => exact ih.snoc (hle hst)

/-- A guarded run is a run. -/
theorem Run.unguard (h : Run (Guarded Step Ok) s₀ es s) : Run Step s₀ es s :=
  h.mono And.left

/-- The last step of a run. -/
theorem Run.snoc_inv {e : E} (h : Run Step s₀ (es ++ [e]) s) :
    ∃ r, Run Step s₀ es r ∧ Step r e s := by
  generalize hl : es ++ [e] = l at h
  cases h with
  | nil => simp at hl
  | snoc hr hst =>
      obtain ⟨rfl, he⟩ := List.append_inj' hl rfl
      obtain rfl := (List.cons.inj he).1
      exact ⟨_, hr, hst⟩

/-- A step in the middle of a run. -/
theorem Run.step_of_split {pre post : List E} {e : E}
    (h : Run Step s₀ (pre ++ e :: post) s) : ∃ r t, Run Step s₀ pre r ∧ Step r e t := by
  rw [List.append_cons] at h
  induction post using List.reverseRecOn generalizing s with
  | nil =>
      rw [List.append_nil] at h
      obtain ⟨r, hr, hst⟩ := h.snoc_inv
      exact ⟨r, s, hr, hst⟩
  | append_singleton post x ih =>
      rw [← List.append_assoc] at h
      obtain ⟨r, hr, -⟩ := h.snoc_inv
      exact ih hr

/-- A property that a step keeps, or mends, exactly if its event is allowed holds at the
end of a run exactly if every step was allowed. -/
theorem Run.iff_guarded {P : S → Prop} (h₀ : P s₀)
    (hstep : ∀ {es s e t}, Run Step s₀ es s → Step s e t → (P t ↔ P s ∧ Ok s e))
    (h : Run Step s₀ es s) : P s ↔ Run (Guarded Step Ok) s₀ es s := by
  constructor
  · intro hP
    induction h with
    | nil => exact Run.nil
    | snoc hr hst ih =>
        obtain ⟨hs, hok⟩ := (hstep hr hst).mp hP
        exact (ih hs).snoc ⟨hst, hok⟩
  · intro hg
    clear h
    induction hg with
    | nil => exact h₀
    | snoc hr hst ih => exact (hstep hr.unguard hst.1).mpr ⟨ih, hst.2⟩

/-- Where a step that is not allowed does damage that no later step mends, a run either has
only steps that are allowed or ends in damage. -/
theorem Run.guarded_or_damaged (Damaged : S → Prop)
    (hbad : ∀ {es s e t}, Run (Guarded Step Ok) s₀ es s → Step s e t → ¬ Ok s e → Damaged t)
    (hkeep : ∀ {s e t}, Damaged s → Step s e t → Damaged t) (h : Run Step s₀ es s) :
    Run (Guarded Step Ok) s₀ es s ∨ Damaged s := by
  induction h with
  | nil => exact Or.inl Run.nil
  | @snoc es s e t _ hst ih =>
      rcases ih with hg | hd
      · by_cases hok : Ok s e
        · exact Or.inl (hg.snoc ⟨hst, hok⟩)
        · exact Or.inr (hbad hg hst hok)
      · exact Or.inr (hkeep hd hst)

/-- A property that a step which starts from it keeps exactly if its event is allowed holds
in every state on the way exactly if every step was allowed. -/
theorem Run.always_iff {P : S → Prop} (h₀ : P s₀)
    (hstep : ∀ {es s e t}, Run Step s₀ es s → P s → Step s e t → (P t ↔ Ok s e)) (es : List E) :
    (∀ pre s, pre <+: es → Run Step s₀ pre s → P s) ↔
      ∀ pre e s t, pre ++ [e] <+: es → Run Step s₀ pre s → Step s e t → Ok s e := by
  constructor
  · intro hall pre e s t hpre hr hst
    have hs := hall pre s ((List.prefix_append pre [e]).trans hpre) hr
    exact (hstep hr hs hst).mp (hall _ t hpre (hr.snoc hst))
  · intro hok pre s hpre h
    induction h with
    | nil => exact h₀
    | snoc hr hst ih =>
        have hs := ih ((List.prefix_append _ _).trans hpre)
        exact (hstep hr hs hst).mpr (hok _ _ _ _ hpre hr hst)

/-- There has been a `mark` since the last `reset`, or no `reset` so far. -/
def Since (mark reset : E → Bool) (es : List E) : Bool :=
  es.foldl (fun b e => !reset e && (mark e || b)) true

theorem since_snoc (mark reset : E → Bool) (es : List E) (e : E) :
    Since mark reset (es ++ [e]) = (!reset e && (mark e || Since mark reset es)) := by
  rw [Since, List.foldl_append]
  rfl

/-- A property that holds at first, that a `mark` establishes and that every step but a
`reset` keeps holds wherever there has been a `mark` since the last `reset`. -/
theorem Run.since {mark reset : E → Bool} {P : S → Prop} (h₀ : P s₀)
    (hmark : ∀ {es s e t}, Run Step s₀ es s → Step s e t → reset e = false → mark e = true → P t)
    (hstep : ∀ {es s e t}, Run Step s₀ es s → Step s e t → reset e = false → P s → P t)
    (h : Run Step s₀ es s) (hsince : Since mark reset es = true) : P s := by
  induction h with
  | nil => exact h₀
  | snoc hr hst ih =>
      rw [since_snoc, Bool.and_eq_true, Bool.or_eq_true, Bool.not_eq_true'] at hsince
      obtain ⟨hreset, hmarked | hearlier⟩ := hsince
      · exact hmark hr hst hreset hmarked
      · exact hstep hr hst hreset (ih hearlier)

/-- The system of a partial step function. -/
def StepOf (step : S → E → Option S) : S → E → S → Prop :=
  fun s e t => step s e = some t

/-- A partial step function restricted to the events allowed. -/
def guardStep (step : S → E → Option S) (Ok : S → E → Prop) [∀ s e, Decidable (Ok s e)] :
    S → E → Option S :=
  fun s e => if Ok s e then step s e else none

/-- Folding a partial step function over the events is a run of its system. -/
theorem Run.of_foldlM {step : S → E → Option S} {s₀ s : S} {es : List E}
    (hf : es.foldlM step s₀ = some s) : Run (StepOf step) s₀ es s := by
  induction es using List.reverseRecOn generalizing s with
  | nil =>
      obtain rfl : s₀ = s := by simpa using hf
      exact Run.nil
  | append_singleton es e ih =>
      rw [List.foldlM_append] at hf
      obtain ⟨r, hr, he⟩ := Option.bind_eq_some_iff.mp hf
      have hst : step r e = some s := by simpa using he
      exact (ih hr).snoc hst

/-- Folding the restricted step function is a guarded run. -/
theorem Run.guarded_of_foldlM {step : S → E → Option S} [∀ s e, Decidable (Ok s e)]
    (hf : es.foldlM (guardStep step Ok) s₀ = some s) :
    Run (Guarded (StepOf step) Ok) s₀ es s := by
  have h := Run.of_foldlM hf
  clear hf
  induction h with
  | nil => exact Run.nil
  | snoc _ hst ih =>
      obtain ⟨hok, hst⟩ := Option.ite_none_right_eq_some.mp hst
      exact ih.snoc ⟨hst, hok⟩

/-- A fold that succeeds, by what is seen of the state it leads to. -/
theorem Run.exists_of_foldlM {β : Type*} {step : S → E → Option S} (f : S → β) {b : β}
    (h : (es.foldlM step s₀).map f = some b) : ∃ s, Run (StepOf step) s₀ es s ∧ f s = b := by
  obtain ⟨s, hs, hb⟩ := Option.map_eq_some_iff.mp h
  exact ⟨s, Run.of_foldlM hs, hb⟩

/-- A fold of allowed events that succeeds. -/
theorem Run.exists_guarded_of_foldlM {β : Type*} {step : S → E → Option S}
    [∀ s e, Decidable (Ok s e)] (f : S → β) {b : β}
    (h : (es.foldlM (guardStep step Ok) s₀).map f = some b) :
    ∃ s, Run (Guarded (StepOf step) Ok) s₀ es s ∧ f s = b := by
  obtain ⟨s, hs, hb⟩ := Option.map_eq_some_iff.mp h
  exact ⟨s, Run.guarded_of_foldlM hs, hb⟩

/-- The state after the first `n` events. -/
def after (step : S → E → S) (s₀ : S) (es : List E) (n : ℕ) : S := (es.take n).foldl step s₀

theorem after_succ (step : S → E → S) (s₀ : S) {es : List E} {n : ℕ} {e : E}
    (he : es[n]? = some e) : after step s₀ es (n + 1) = step (after step s₀ es n) e := by
  rw [after, List.take_add_one, he, List.foldl_append]
  rfl

/-- The runs along which a property holds, where an invariant carries it: an event
that is allowed keeps the invariant, and any other breaks the property at once. -/
theorem after_property_iff {step : S → E → S} {P Inv : S → Prop} {Ok : S → E → Prop} {s₀ : S}
    (h₀ : Inv s₀) (hP : ∀ s, Inv s → P s) (hok : ∀ s e, Inv s → Ok s e → Inv (step s e))
    (hbad : ∀ s e, Inv s → P (step s e) → Ok s e) (es : List E) :
    (∀ n, P (after step s₀ es n)) ↔
      ∀ n e, es[n]? = some e → Ok (after step s₀ es n) e := by
  -- the invariant holds as long as the events are allowed
  have hInv : ∀ n, (∀ m < n, ∀ e, es[m]? = some e → Ok (after step s₀ es m) e) →
      Inv (after step s₀ es n) := by
    intro n
    induction n with
    | zero => exact fun _ => h₀
    | succ n ih =>
        intro hall
        have hn := ih fun m hm => hall m (Nat.lt_succ_of_lt hm)
        rcases he : es[n]? with - | e
        · rw [after, List.take_add_one, he, Option.toList_none, List.append_nil]
          exact hn
        · rw [after_succ step s₀ he]
          exact hok _ e hn (hall n (Nat.lt_succ_self n) e he)
  constructor
  · intro hall n
    induction n using Nat.strongRecOn with
    | ind n ih =>
        intro e he
        have hnext := hall (n + 1)
        rw [after_succ step s₀ he] at hnext
        exact hbad _ e (hInv n ih) hnext
  · intro hall n
    exact hP _ (hInv n fun m _ => hall m)

/-- A property that a step keeps exactly if its event is allowed holds all along a
run exactly if all its events are allowed. -/
theorem after_invariant_iff {step : S → E → S} {P : S → Prop} {Ok : S → E → Prop} {s₀ : S}
    (h₀ : P s₀) (hstep : ∀ s e, P s → (P (step s e) ↔ Ok s e)) (es : List E) :
    (∀ n, P (after step s₀ es n)) ↔
      ∀ n e, es[n]? = some e → Ok (after step s₀ es n) e :=
  after_property_iff h₀ (fun _ h => h) (fun s e h => (hstep s e h).mpr)
    (fun s e h => (hstep s e h).mp) es

/-! ### Outputs -/

section Outputs

variable {A B : Type*}

/-- A list of results up to the first one that is missing. -/
def upToStop : List (Option B) → List (Option B)
  | [] => []
  | none :: _ => [none]
  | some b :: l => some b :: upToStop l

/-- The outputs for a list of inputs, up to the input that stops the machine. -/
def outputs (step : S → A → Option (S × B)) : S → List A → List (Option B)
  | _, [] => []
  | s, a :: l =>
      match step s a with
      | none => [none]
      | some (t, b) => some b :: outputs step t l

/-- Where the output for an input is the same in every state, a run gives what the inputs
give one by one. -/
theorem outputs_eq_upToStop {step : S → A → Option (S × B)} {out : A → Option B} {l : List A}
    (h : ∀ a ∈ l, ∀ s, (step s a).map Prod.snd = out a) (s : S) :
    outputs step s l = upToStop (l.map out) := by
  induction l generalizing s with
  | nil => rfl
  | cons a l ih =>
      have hrest : ∀ a ∈ l, ∀ s, (step s a).map Prod.snd = out a :=
        fun b hb => h b (List.mem_cons_of_mem a hb)
      rw [List.map_cons, ← h a List.mem_cons_self s, outputs]
      rcases step s a with - | ⟨t, b⟩
      · rfl
      · show some b :: outputs step t l = some b :: upToStop (l.map out)
        rw [ih hrest t]

end Outputs

end Runs
