/-
LamcoRdp/Lib/Publishing.lean

Work that is handed over now and comes out later.

A source goes through versions, and what belongs to which version is told by `Belongs`.  A task
is handed over with what it is to publish, and may publish it when a newer version is there
already.  A publisher is `Current` if everything it published belonged to the version that was
the latest at the time.

A task that was handed over with what belonged to the latest version (`Honest`) publishes well
as long as no version has come in between (`Current.perform`).  If one has, or if the task was
handed something older, it can only do wrong, now or later: that is `Spoilt`, and it lasts.
-/
import Mathlib.Data.List.Basic

namespace Publishing

/-- The number of the latest version, the tasks with the number of the version at which they
were handed over, and what was published under which version. -/
structure Publisher (α : Type*) where
  latest : ℕ
  tasks : List (ℕ × α)
  published : List (ℕ × α)

variable {α : Type*}

/-- No version so far. -/
def init : Publisher α := ⟨0, [], []⟩

/-- The next version. -/
def Publisher.announce (p : Publisher α) : Publisher α := { p with latest := p.latest + 1 }

/-- A task is handed over. -/
def Publisher.spawn (p : Publisher α) (a : α) : Publisher α :=
  { p with tasks := p.tasks ++ [(p.latest, a)] }

/-- The task with number `i` publishes. -/
def Publisher.perform (p : Publisher α) (i : ℕ) : Option (Publisher α) :=
  (p.tasks[i]?).map fun task =>
    { p with tasks := p.tasks.eraseIdx i, published := p.published ++ [(p.latest, task.2)] }

/-- What a task that publishes does. -/
theorem Publisher.perform_inv {p q : Publisher α} {i : ℕ} (h : p.perform i = some q) :
    ∃ task, p.tasks[i]? = some task ∧
      q = { p with
        tasks := p.tasks.eraseIdx i, published := p.published ++ [(p.latest, task.2)] } := by
  obtain ⟨task, hi, heq⟩ := Option.map_eq_some_iff.mp h
  exact ⟨task, hi, heq.symm⟩

variable {Belongs : ℕ → α → Prop} {p q : Publisher α} {a : α} {i : ℕ} {task : ℕ × α}

/-! ### What was published -/

/-- Everything was published under the version it belongs to. -/
def Current (Belongs : ℕ → α → Prop) (p : Publisher α) : Prop :=
  ∀ x ∈ p.published, Belongs x.1 x.2

/-- Every task was handed over what belonged to the latest version. -/
def Honest (Belongs : ℕ → α → Prop) (p : Publisher α) : Prop :=
  ∀ task ∈ p.tasks, Belongs task.1 task.2

theorem current_init : Current Belongs init := fun _ hx => absurd hx List.not_mem_nil

theorem honest_init : Honest Belongs init := fun _ hx => absurd hx List.not_mem_nil

theorem Honest.spawn (hp : Honest Belongs p) (ha : Belongs p.latest a) :
    Honest Belongs (p.spawn a) := by
  intro task htask
  rcases List.mem_append.mp htask with hold | hnew
  · exact hp task hold
  · rw [List.mem_singleton.mp hnew]
    exact ha

theorem Honest.perform (hp : Honest Belongs p) (h : p.perform i = some q) :
    Honest Belongs q := by
  obtain ⟨task, -, rfl⟩ := Publisher.perform_inv h
  exact fun task' hmem => hp task' (List.mem_of_mem_eraseIdx hmem)

/-- What a task publishes is current if it belongs to the version that is the latest now. -/
theorem current_perform_iff (hi : p.tasks[i]? = some task) (h : p.perform i = some q) :
    Current Belongs q ↔ Current Belongs p ∧ Belongs p.latest task.2 := by
  obtain ⟨task', hi', rfl⟩ := Publisher.perform_inv h
  obtain rfl := Option.some.inj (hi.symm.trans hi')
  constructor
  · intro hq
    refine ⟨fun x hx => hq x (List.mem_append_left _ hx), ?_⟩
    exact hq _ (List.mem_append_right _ (List.mem_singleton_self _))
  · rintro ⟨hp, htask⟩ x hx
    rcases List.mem_append.mp hx with hold | hnew
    · exact hp x hold
    · rw [List.mem_singleton.mp hnew]
      exact htask

/-- **No version in between.**  What a task was handed over honestly is still current. -/
theorem Current.perform (hp : Current Belongs p) (hh : Honest Belongs p)
    (hi : p.tasks[i]? = some task) (hlatest : task.1 = p.latest) (h : p.perform i = some q) :
    Current Belongs q := by
  refine (current_perform_iff hi h).mpr ⟨hp, ?_⟩
  rw [← hlatest]
  exact hh task (List.mem_of_getElem? hi)

/-! ### What cannot be made good -/

/-- Something was published under the wrong version, or a task can only do so. -/
def Spoilt (Belongs : ℕ → α → Prop) (p : Publisher α) : Prop :=
  ¬ Current Belongs p ∨ ∃ task ∈ p.tasks, ∀ m, p.latest ≤ m → ¬ Belongs m task.2

theorem Spoilt.announce (hp : Spoilt Belongs p) : Spoilt Belongs p.announce := by
  rcases hp with hcur | ⟨task, hmem, hnever⟩
  · exact Or.inl hcur
  · exact Or.inr ⟨task, hmem, fun m hm => hnever m (Nat.le_of_succ_le hm)⟩

theorem Spoilt.spawn (hp : Spoilt Belongs p) (a : α) : Spoilt Belongs (p.spawn a) := by
  rcases hp with hcur | ⟨task, hmem, hnever⟩
  · exact Or.inl hcur
  · exact Or.inr ⟨task, List.mem_append_left _ hmem, hnever⟩

theorem Spoilt.perform (hp : Spoilt Belongs p) (h : p.perform i = some q) :
    Spoilt Belongs q := by
  obtain ⟨done, hi, rfl⟩ := Publisher.perform_inv h
  rcases hp with hcur | ⟨task, hmem, hnever⟩
  · exact Or.inl fun hq => hcur ((current_perform_iff hi h).mp hq).1
  · obtain ⟨j, hj⟩ := List.getElem?_of_mem hmem
    by_cases hji : j = i
    · -- it is the one that publishes now
      subst hji
      obtain rfl := Option.some.inj (hi.symm.trans hj)
      exact Or.inl fun hq => hnever _ (Nat.le_refl _) ((current_perform_iff hi h).mp hq).2
    · exact Or.inr ⟨task, List.mem_eraseIdx_iff_getElem?.mpr ⟨j, hji, hj⟩, hnever⟩

/-- What was handed over too old is published too old. -/
theorem spoilt_spawn (h : ∀ m, p.latest ≤ m → ¬ Belongs m a) : Spoilt Belongs (p.spawn a) :=
  Or.inr ⟨(p.latest, a), List.mem_append_right _ (List.mem_singleton_self _), h⟩

/-- So is what has become too old. -/
theorem spoilt_perform (hi : p.tasks[i]? = some task) (h : p.perform i = some q)
    (hold : ¬ Belongs p.latest task.2) : Spoilt Belongs q :=
  Or.inl fun hq => hold ((current_perform_iff hi h).mp hq).2

/-- When all tasks have published, what was spoilt has shown. -/
theorem Spoilt.not_current (hp : Spoilt Belongs p) (hdone : p.tasks = []) :
    ¬ Current Belongs p := by
  rcases hp with hcur | ⟨task, hmem, -⟩
  · exact hcur
  · rw [hdone] at hmem
    cases hmem

end Publishing
