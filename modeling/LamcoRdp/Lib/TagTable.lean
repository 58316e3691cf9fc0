/-
LamcoRdp/Lib/TagTable.lean

Answers matched to their askers by a tag.

Whoever issues a request enters its asker in a table, under the tag that the
request carries and its answer echoes.  Answers come in any order; one removes the
entry of its tag.  The table holds one entry for a tag, so an asker is lost when a
request is issued under a tag that is in use.  If every request finds its tag free,
the table and the requests in flight agree (`Agrees.issue`, `Agrees.answer`), and
an answer finds the asker of its own request (`Agrees.asker`).
-/
import Mathlib.Data.List.Nodup
import Mathlib.Logic.Function.Basic

/-- Askers by tag, and the requests in flight. -/
structure TagTable (τ α ρ : Type*) where
  asker : τ → Option α
  inFlight : List ρ

namespace TagTable

variable {τ α ρ : Type*}

/-- No tag is in use. -/
def empty : TagTable τ α ρ := ⟨fun _ => none, []⟩

section Agrees

-- the tag that a request carries, and who waits for its answer
variable (tag : ρ → τ) (owner : ρ → α)

/-- The table holds the askers of the requests in flight, under their tags, and no
two requests in flight share a tag. -/
structure Agrees (s : TagTable τ α ρ) : Prop where
  distinct : (s.inFlight.map tag).Nodup
  holds : ∀ t a, s.asker t = some a ↔ ∃ r ∈ s.inFlight, tag r = t ∧ owner r = a

variable {tag owner} {s : TagTable τ α ρ} {r : ρ}

theorem agrees_empty : (empty : TagTable τ α ρ).Agrees tag owner where
  distinct := List.nodup_nil
  holds := by simp [empty]

/-- The answer to a request in flight finds its asker. -/
theorem Agrees.asker (h : s.Agrees tag owner) (hr : r ∈ s.inFlight) :
    s.asker (tag r) = some (owner r) :=
  (h.holds _ _).mpr ⟨r, hr, rfl, rfl⟩

/-- A tag without an asker is the tag of no request in flight. -/
theorem Agrees.tag_ne (h : s.Agrees tag owner) {t : τ} (hfree : s.asker t = none)
    (hr : r ∈ s.inFlight) : tag r ≠ t := by
  rintro rfl
  rw [h.asker hr] at hfree
  cases hfree

end Agrees

/-! ### Requests and answers -/

variable [DecidableEq τ]

/-- A request goes out: its asker takes the place of the tag. -/
def issue (tag : ρ → τ) (owner : ρ → α) (s : TagTable τ α ρ) (r : ρ) : TagTable τ α ρ :=
  ⟨Function.update s.asker (tag r) (some (owner r)), s.inFlight ++ [r]⟩

/-- The answer to the `n`-th request in flight comes in, with its tag. -/
def answer (s : TagTable τ α ρ) (n : ℕ) (t : τ) : TagTable τ α ρ :=
  ⟨Function.update s.asker t none, s.inFlight.eraseIdx n⟩

variable {tag : ρ → τ} {owner : ρ → α} {s : TagTable τ α ρ} {r : ρ} {n : ℕ}

/-- A request issued under a free tag. -/
theorem Agrees.issue (h : s.Agrees tag owner) (hfree : s.asker (tag r) = none) :
    (s.issue tag owner r).Agrees tag owner where
  distinct := by
    show ((s.inFlight ++ [r]).map tag).Nodup
    rw [List.map_append, List.map_singleton, List.nodup_append_comm]
    refine List.nodup_cons.mpr ⟨?_, h.distinct⟩
    intro hmem
    obtain ⟨r', hr', htag⟩ := List.mem_map.mp hmem
    exact h.tag_ne hfree hr' htag
  holds t a := by
    show Function.update s.asker (tag r) (some (owner r)) t = some a ↔
      ∃ r' ∈ s.inFlight ++ [r], tag r' = t ∧ owner r' = a
    -- the slot of the tag is free: it now names the owner of `r`
    by_cases ht : t = tag r
    · subst ht
      rw [Function.update_self]
      constructor
      · intro ha
        exact ⟨r, List.mem_append_right _ (List.mem_singleton_self r), rfl, Option.some.inj ha⟩
      · rintro ⟨r', hr', htag, rfl⟩
        rcases List.mem_append.mp hr' with hr' | hr'
        · exact absurd htag (h.tag_ne hfree hr')
        · rw [List.mem_singleton.mp hr']
    · -- other slots are as they were, and `r` is not in them
      rw [Function.update_of_ne ht, h.holds]
      constructor
      · rintro ⟨r', hr', htag, howner⟩
        exact ⟨r', List.mem_append_left _ hr', htag, howner⟩
      · rintro ⟨r', hr', htag, howner⟩
        rcases List.mem_append.mp hr' with hr' | hr'
        · exact ⟨r', hr', htag, howner⟩
        · rw [List.mem_singleton.mp hr'] at htag
          exact absurd htag.symm ht

/-- The answer to a request in flight: the other requests keep their askers. -/
theorem Agrees.answer (h : s.Agrees tag owner) (hn : s.inFlight[n]? = some r) :
    (s.answer n (tag r)).Agrees tag owner where
  distinct := by
    show ((s.inFlight.eraseIdx n).map tag).Nodup
    exact h.distinct.sublist ((List.eraseIdx_sublist _ n).map tag)
  holds t a := by
    show Function.update s.asker (tag r) none t = some a ↔
      ∃ r' ∈ s.inFlight.eraseIdx n, tag r' = t ∧ owner r' = a
    -- no request left carries the tag of the one answered
    have hleft : ∀ r', r' ∈ s.inFlight.eraseIdx n ↔ r' ∈ s.inFlight ∧ tag r' ≠ tag r := by
      obtain ⟨hlt, rfl⟩ := List.getElem?_eq_some_iff.mp hn
      intro r'
      have hsplit := h.distinct
      rw [← List.take_append_drop n s.inFlight, List.drop_eq_getElem_cons hlt, List.map_append,
        List.map_cons, List.nodup_middle, List.nodup_cons] at hsplit
      rw [List.eraseIdx_eq_take_drop_succ]
      constructor
      · intro hr'
        refine ⟨?_, fun htag => hsplit.1 ?_⟩
        · exact (List.eraseIdx_sublist s.inFlight n).subset
            (by rwa [List.eraseIdx_eq_take_drop_succ])
        · rw [← List.map_append, ← htag]
          exact List.mem_map_of_mem hr'
      · rintro ⟨hr', htag⟩
        rw [← List.take_append_drop n s.inFlight, List.drop_eq_getElem_cons hlt] at hr'
        rcases List.mem_append.mp hr' with hr' | hr'
        · exact List.mem_append_left _ hr'
        · rcases List.mem_cons.mp hr' with rfl | hr'
          · exact absurd rfl htag
          · exact List.mem_append_right _ hr'
    by_cases ht : t = tag r
    · subst ht
      rw [Function.update_self]
      constructor
      · intro ha
        cases ha
      · rintro ⟨r', hr', htag, -⟩
        exact absurd htag ((hleft r').mp hr').2
    · rw [Function.update_of_ne ht, h.holds]
      constructor
      · rintro ⟨r', hr', htag, howner⟩
        exact ⟨r', (hleft r').mpr ⟨hr', fun he => ht (htag.symm.trans he)⟩, htag, howner⟩
      · rintro ⟨r', hr', htag, howner⟩
        exact ⟨r', ((hleft r').mp hr').1, htag, howner⟩

end TagTable
