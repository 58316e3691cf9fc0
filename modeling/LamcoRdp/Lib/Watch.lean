/-
LamcoRdp/Lib/Watch.lean

A changing state and an observer that reports what it sees change.

Every change of the state is a new version.  The observer is woken when there is
a version it has not seen, and some time later reads the state, as it is then.
It looks at one aspect `f` of the state and reports a change of it together with
the aspect it saw before.  Versions that come in quick succession are seen as
one, and a version that came between waking and reading wakes it again.

`Watched.Reports` is what can be relied on whatever the order: the reports form
a chain without gaps, in which every link is a change, and the states reported
are some of the states there were, in their order.  An observer that waits and
has seen every version has reported the aspect as it is.
-/
import LamcoRdp.Lib.Runs

namespace Watch

open Runs

variable {S E A : Type*}

/-- Where the observer is. -/
inductive Phase (A : Type*)
  | notStarted
  | waiting (previous : A)
  | woken (previous : A)
  deriving DecidableEq, Repr

/-- A watched state with one observer. -/
structure Watched (S A : Type*) where
  state : S
  /-- there is a version that the observer has not seen -/
  unseen : Bool
  phase : Phase A
  /-- the reports: the aspect before, and the state that was read -/
  log : List (A × S)
  /-- all states so far -/
  history : List S

/-- The state changes, or the observer goes on. -/
inductive Act (E : Type*)
  | update (e : E)
  | start
  | wake
  | read
  deriving DecidableEq, Repr

/-- The observer has not started. -/
def Watched.init (s : S) : Watched S A := ⟨s, false, .notStarted, [], [s]⟩

section Step

variable [DecidableEq A] (step : S → E → S) (f : S → A)

/-- What an act does; `none` where it cannot come about. -/
def Watched.act (w : Watched S A) : Act E → Option (Watched S A)
  | .update e =>
      some { w with
        state := step w.state e
        unseen := true
        history := w.history ++ [step w.state e] }
  | .start =>
      match w.phase with
      | .notStarted => some { w with phase := .waiting (f w.state) }
      | .waiting _ | .woken _ => none
  | .wake =>
      match w.phase with
      | .waiting previous =>
          if w.unseen then some { w with unseen := false, phase := .woken previous } else none
      | .notStarted | .woken _ => none
  | .read =>
      match w.phase with
      | .woken previous =>
          if f w.state = previous then some { w with phase := .waiting previous }
          else
            some { w with
              phase := .waiting (f w.state)
              log := w.log ++ [(previous, w.state)] }
      | .notStarted | .waiting _ => none

end Step

/-! ### Chains of reports -/

variable (f : S → A)

/-- Reports that lead from one aspect to another, each from where the last one ended and each
a change. -/
inductive Links : A → List (A × S) → A → Prop
  | nil (a : A) : Links a [] a
  | snoc {a b : A} {log : List (A × S)} {s : S} :
      Links a log b → f s ≠ b → Links a (log ++ [(b, s)]) (f s)

/-- The reports of an observer that has seen the aspect as `previous` last. -/
structure Watched.Reports (w : Watched S A) (previous : A) : Prop where
  /-- a chain from the aspect of the state the observer started in, and these states are
  some of the states there were -/
  chain : ∃ s, Links f (f s) w.log previous ∧ (s :: w.log.map Prod.snd).Sublist w.history
  /-- unless there is a version it has not seen, the aspect is what was reported last -/
  current : w.unseen = true ∨ previous = f w.state

/-- What is true of an observer in each phase. -/
def Watched.Ok (w : Watched S A) : Prop :=
  w.history.getLast? = some w.state ∧
    match w.phase with
    | .notStarted => w.log = []
    | .waiting previous => w.Reports f previous
    | .woken previous =>
        ∃ s, Links f (f s) w.log previous ∧ (s :: w.log.map Prod.snd).Sublist w.history

variable {f}

/-- A chain ends in the aspect of the state reported last. -/
theorem Links.exists_last {s : S} {b : A} {log : List (A × S)} (h : Links f (f s) log b) :
    ∃ l t, s :: log.map Prod.snd = l ++ [t] ∧ f t = b := by
  generalize ha : f s = a at h
  cases h with
  | nil => exact ⟨[], s, rfl, ha⟩
  | @snoc c log t _ _ =>
      refine ⟨s :: log.map Prod.snd, t, ?_, rfl⟩
      rw [List.map_append]
      rfl

/-- A subsequence that does not end in the last element is one of the rest. -/
theorem sublist_of_concat {l h : List S} {b c : S} (hsub : (l ++ [b]).Sublist (h ++ [c]))
    (hne : b ≠ c) : (l ++ [b]).Sublist h := by
  rw [← List.reverse_sublist] at hsub ⊢
  rw [List.reverse_append, List.reverse_append] at hsub
  rw [List.reverse_append]
  cases hsub with
  | cons _ hsub => exact hsub
  | cons_cons _ _ => exact absurd rfl hne

/-- One more report, of the state as it is. -/
theorem Links.extend {s t : S} {b : A} {log : List (A × S)} {h : List S}
    (hlinks : Links f (f s) log b) (hsub : (s :: log.map Prod.snd).Sublist h)
    (hlast : h.getLast? = some t) (hne : f t ≠ b) :
    Links f (f s) (log ++ [(b, t)]) (f t) ∧
      (s :: (log ++ [(b, t)]).map Prod.snd).Sublist h := by
  refine ⟨hlinks.snoc hne, ?_⟩
  obtain ⟨l, u, hl, hu⟩ := hlinks.exists_last
  obtain ⟨h, rfl⟩ := List.getLast?_eq_some_iff.mp hlast
  -- the state reported last is not the last there was
  have hut : u ≠ t := by
    rintro rfl
    exact hne hu
  rw [hl] at hsub
  have hbefore := sublist_of_concat hsub hut
  rw [List.map_append, ← List.cons_append, hl]
  exact hbefore.append (List.Sublist.refl [t])

/-! ### The run -/

theorem ok_init (s : S) : (Watched.init s : Watched S A).Ok f := ⟨rfl, rfl⟩

variable [DecidableEq A] {step : S → E → S} {w w' : Watched S A}

/-- What a step can do. -/
theorem act_cases {a : Act E} (h : w.act step f a = some w') :
    (∃ e, a = .update e ∧ w' = { w with
      state := step w.state e, unseen := true, history := w.history ++ [step w.state e] }) ∨
    (a = .start ∧ w.phase = .notStarted ∧ w' = { w with phase := .waiting (f w.state) }) ∨
    (∃ previous, a = .wake ∧ w.phase = .waiting previous ∧ w.unseen = true ∧
      w' = { w with unseen := false, phase := .woken previous }) ∨
    (∃ previous, a = .read ∧ w.phase = .woken previous ∧ f w.state = previous ∧
      w' = { w with phase := .waiting previous }) ∨
    ∃ previous, a = .read ∧ w.phase = .woken previous ∧ f w.state ≠ previous ∧
      w' = { w with phase := .waiting (f w.state), log := w.log ++ [(previous, w.state)] } := by
  cases a with
  | update e => exact Or.inl ⟨e, rfl, (Option.some.inj h).symm⟩
  -- only a watcher that has not started can start
  | start =>
      rcases hp : w.phase with - | previous | previous <;> simp only [Watched.act, hp] at h
      · exact Or.inr (Or.inl ⟨rfl, rfl, (Option.some.inj h).symm⟩)
      · cases h
      · cases h
  -- only a waiting one is woken, and only by an update it has not seen
  | wake =>
      rcases hp : w.phase with - | previous | previous <;> simp only [Watched.act, hp] at h
      · cases h
      · obtain ⟨hunseen, h⟩ := Option.ite_none_right_eq_some.mp h
        exact Or.inr (Or.inr (Or.inl ⟨previous, rfl, rfl, hunseen, (Option.some.inj h).symm⟩))
      · cases h
  -- a woken one reads: it logs a change, or waits on
  | read =>
      rcases hp : w.phase with - | previous | previous <;> simp only [Watched.act, hp] at h
      · cases h
      · cases h
      · right; right; right
        by_cases hsame : f w.state = previous
        · rw [if_pos hsame] at h
          exact Or.inl ⟨previous, rfl, rfl, hsame, (Option.some.inj h).symm⟩
        · rw [if_neg hsame] at h
          exact Or.inr ⟨previous, rfl, rfl, hsame, (Option.some.inj h).symm⟩

theorem ok_act {a : Act E} (hok : w.Ok f) (h : w.act step f a = some w') : w'.Ok f := by
  obtain ⟨hlast, hphase⟩ := hok
  obtain ⟨e, -, rfl⟩ | ⟨-, hp, rfl⟩ | ⟨previous, -, hp, -, rfl⟩ | ⟨previous, -, hp, hsame, rfl⟩ |
    ⟨previous, -, hp, hne, rfl⟩ := act_cases h
  · have hmore := List.sublist_append_left w.history [step w.state e]
    refine ⟨List.getLast?_concat, ?_⟩
    rcases hp : w.phase with - | previous | previous <;> rw [hp] at hphase
    · exact hphase
    · obtain ⟨⟨s, hlinks, hsub⟩, -⟩ := hphase
      exact ⟨⟨s, hlinks, hsub.trans hmore⟩, Or.inl rfl⟩
    · obtain ⟨s, hlinks, hsub⟩ := hphase
      exact ⟨s, hlinks, hsub.trans hmore⟩
  · -- the observer starts from what there is
    rw [hp] at hphase
    refine ⟨hlast, ⟨w.state, ?_, ?_⟩, Or.inr rfl⟩
    · show Links f (f w.state) w.log (f w.state)
      rw [hphase]
      exact Links.nil _
    · show (w.state :: w.log.map Prod.snd).Sublist w.history
      rw [hphase]
      exact List.singleton_sublist.mpr (List.mem_of_getLast? hlast)
  · rw [hp] at hphase
    exact ⟨hlast, hphase.chain⟩
  · rw [hp] at hphase
    obtain ⟨s, hlinks, hsub⟩ := hphase
    exact ⟨hlast, ⟨s, hlinks, hsub⟩, Or.inr hsame.symm⟩
  · rw [hp] at hphase
    obtain ⟨s, hlinks, hsub⟩ := hphase
    obtain ⟨hlinks', hsub'⟩ := hlinks.extend hsub hlast hne
    exact ⟨hlast, ⟨s, hlinks', hsub'⟩, Or.inr rfl⟩

/-- The reports can be relied on after every run. -/
theorem ok_run {s : S} {acts : List (Act E)}
    (h : Run (StepOf (Watched.act step f)) (Watched.init s) acts w) : w.Ok f :=
  h.invariant (ok_init s) fun hok hst => ok_act hok hst

/-- The changes of the state in the course of some steps. -/
def updates (acts : List (Act E)) : List E :=
  acts.filterMap fun
    | .update e => some e
    | .start | .wake | .read => none

/-- The observer only looks on. -/
theorem state_run {s : S} {acts : List (Act E)}
    (h : Run (StepOf (Watched.act step f)) (Watched.init s) acts w) :
    w.state = (updates acts).foldl step s := by
  induction h with
  | nil => rfl
  | @snoc acts w a w' _ hst ih =>
      have happend : updates (acts ++ [a]) = updates acts ++ updates [a] := List.filterMap_append
      rw [happend, List.foldl_append, ← ih]
      obtain ⟨e, rfl, rfl⟩ | ⟨rfl, -, rfl⟩ | ⟨previous, rfl, -, -, rfl⟩ |
        ⟨previous, rfl, -, -, rfl⟩ | ⟨previous, rfl, -, -, rfl⟩ := act_cases hst <;> rfl

end Watch
