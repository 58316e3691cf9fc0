/-
LamcoRdp/Lib/Standing.lean

Verdicts that stand until the next one.

An event of a sequence may give a verdict, which may depend on the events before it.
`Stands verdict es` says that the verdict `true` was given and none against it since.
Events that are appended carry it on (`stands_concat`), so a property that every step sets
by the verdict of its event is standing or not after every sequence (`foldl_iff_stands`).
-/
import Mathlib.Data.List.Basic
import Mathlib.Data.List.Induction

namespace Standing

variable {E S : Type*}

/-- The verdict `true` was given over the events, and no other since. -/
def Stands (verdict : List E → E → Option Bool) (es : List E) : Prop :=
  ∃ pre e post, es = pre ++ e :: post ∧ verdict pre e = some true ∧
    ∀ mid e' rest, post = mid ++ e' :: rest → verdict (pre ++ e :: mid) e' ≠ some false

variable {verdict : List E → E → Option Bool} {es : List E} {e : E}

theorem not_stands_nil : ¬ Stands verdict [] := by
  rintro ⟨pre, e, post, hsplit, -⟩
  cases pre <;> cases hsplit

/-- A sequence that ends in `e`, split at one of its events. -/
theorem concat_eq_split {pre post : List E} {e' : E} (h : es ++ [e] = pre ++ e' :: post) :
    (pre = es ∧ e' = e ∧ post = []) ∨
      ∃ post', post = post' ++ [e] ∧ es = pre ++ e' :: post' := by
  rcases List.eq_nil_or_concat post with rfl | ⟨post', last, rfl⟩
  · obtain ⟨hes, he⟩ := List.append_inj' h rfl
    exact Or.inl ⟨hes.symm, (List.singleton_inj.mp he).symm, rfl⟩
  · rw [List.concat_eq_append, ← List.cons_append, ← List.append_assoc] at h
    obtain ⟨hes, he⟩ := List.append_inj' h rfl
    exact Or.inr ⟨post', by rw [List.concat_eq_append, List.singleton_inj.mp he], hes⟩

/-- An event of a sequence that is extended by one, with the events before it. -/
theorem exists_split_concat {P : List E → E → Prop} :
    (∃ pre e' post, es ++ [e] = pre ++ e' :: post ∧ P pre e') ↔
      P es e ∨ ∃ pre e' post, es = pre ++ e' :: post ∧ P pre e' := by
  constructor
  · rintro ⟨pre, e', post, hsplit, hP⟩
    rcases concat_eq_split hsplit with ⟨rfl, rfl, rfl⟩ | ⟨post', rfl, rfl⟩
    · exact Or.inl hP
    · exact Or.inr ⟨pre, e', post', rfl, hP⟩
  · rintro (hP | ⟨pre, e', post, rfl, hP⟩)
    · exact ⟨es, e, [], rfl, hP⟩
    · exact ⟨pre, e', post ++ [e], by rw [List.append_assoc, List.cons_append], hP⟩

theorem stands_concat : Stands verdict (es ++ [e]) ↔
    verdict es e = some true ∨ (verdict es e = none ∧ Stands verdict es) := by
  constructor
  · rintro ⟨pre, e', post, hsplit, htrue, hpost⟩
    rcases concat_eq_split hsplit with ⟨rfl, rfl, rfl⟩ | ⟨post', rfl, rfl⟩
    · exact Or.inl htrue
    · have hlast : verdict (pre ++ e' :: post') e ≠ some false := hpost post' e [] rfl
      cases hverdict : verdict (pre ++ e' :: post') e with
      | none =>
          refine Or.inr ⟨rfl, pre, e', post', rfl, htrue, fun mid e'' rest hmid => ?_⟩
          exact hpost mid e'' (rest ++ [e]) (by rw [hmid, List.append_assoc, List.cons_append])
      | some b =>
          cases b with
          | true => exact Or.inl rfl
          | false => exact absurd hverdict hlast
  · rintro (htrue | ⟨hnone, pre, e', post, rfl, htrue, hpost⟩)
    · refine ⟨es, e, [], rfl, htrue, fun mid e' rest hmid => ?_⟩
      cases mid <;> cases hmid
    · refine ⟨pre, e', post ++ [e], by rw [List.append_assoc, List.cons_append], htrue, ?_⟩
      intro mid e'' rest hmid
      rcases concat_eq_split hmid with ⟨rfl, rfl, rfl⟩ | ⟨rest', rfl, rfl⟩
      · rw [hnone]
        exact fun heq => by cases heq
      · exact hpost mid e'' rest' rfl

theorem stands_concat_none (h : verdict es e = none) :
    Stands verdict (es ++ [e]) ↔ Stands verdict es := by
  rw [stands_concat, h]
  constructor
  · rintro (heq | ⟨-, hstands⟩)
    · cases heq
    · exact hstands
  · exact fun hstands => Or.inr ⟨rfl, hstands⟩

theorem stands_concat_some {b : Bool} (h : verdict es e = some b) :
    Stands verdict (es ++ [e]) ↔ b = true := by
  rw [stands_concat, h]
  constructor
  · rintro (heq | ⟨heq, -⟩)
    · exact Option.some.inj heq
    · cases heq
  · exact fun hb => Or.inl (congrArg some hb)

/-- Verdicts on what the events are mapped to. -/
theorem stands_map {F : Type*} (f : E → F) (of : F → Option Bool) (es : List E) :
    Stands (fun _ => of) (es.map f) ↔ Stands (fun _ e => of (f e)) es := by
  induction es using List.reverseRecOn with
  | nil => exact iff_of_false not_stands_nil not_stands_nil
  | append_singleton es e ih =>
      rw [List.map_append, List.map_singleton, stands_concat, stands_concat, ih]

/-- A flag that every step sets by the verdict of its event, and keeps without one. -/
theorem foldl_iff_stands {f : S → Bool} {step : S → E → S} {of : E → Option Bool} {s₀ : S}
    (h₀ : f s₀ = false) (hstep : ∀ s e, f (step s e) = (of e).getD (f s)) :
    f (es.foldl step s₀) = true ↔ Stands (fun _ => of) es := by
  induction es using List.reverseRecOn with
  | nil => exact iff_of_false (by rw [List.foldl_nil, h₀]; exact Bool.false_ne_true) not_stands_nil
  | append_singleton es e ih =>
      rw [List.foldl_concat, hstep]
      cases hof : of e with
      | none => exact ih.trans (stands_concat_none hof).symm
      | some b => exact (stands_concat_some hof).symm

end Standing
