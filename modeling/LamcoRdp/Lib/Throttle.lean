/-
LamcoRdp/Lib/Throttle.lean

Loops that drop what comes too early.

A loop is given items one by one.  It forwards something for an item or drops the item for good,
and goes by what it forwarded last.  `last` is what it has forwarded last in the end.  An item
behind which all others are dropped is reflected in the end exactly if the loop forwards
something for it, or if what it had forwarded before reflects it already (`reflected_iff`).
-/
import Mathlib.Data.List.Basic

namespace Throttle

variable {I O : Type*}

/-- What is forwarded last, by a loop that forwards `forward o i` for `i` behind `o`. -/
def last (forward : Option O → I → Option O) (items : List I) : Option O :=
  items.foldl (fun o i => (forward o i).or o) none

/-- What was forwarded last reflects an item. -/
def Reflected (Reflects : O → I → Prop) (o : Option O) (i : I) : Prop :=
  ∃ out ∈ o, Reflects out i

variable {forward : Option O → I → Option O} {Reflects : O → I → Prop} {pre post items : List I}
  {i : I}

theorem last_snoc (items : List I) (i : I) :
    last forward (items ++ [i]) = (forward (last forward items) i).or (last forward items) := by
  unfold last
  rw [List.foldl_append]
  rfl

/-- Items that are dropped in any case change nothing. -/
theorem last_append_of_dropped (h : ∀ i ∈ post, ∀ o, forward o i = none) (pre : List I) :
    last forward (pre ++ post) = last forward pre := by
  induction post generalizing pre with
  | nil => rw [List.append_nil]
  | cons i post ih =>
      have hi : last forward (pre ++ [i]) = last forward pre := by
        rw [last_snoc, h i List.mem_cons_self]
        rfl
      rw [List.append_cons, ih (fun j hj => h j (List.mem_cons_of_mem i hj)), hi]

/-- **The last item that counts** is reflected in the end exactly if something is forwarded for
it, or if it was reflected before. -/
theorem reflected_iff (hforward : ∀ out, forward (last forward pre) i = some out → Reflects out i)
    (hpost : ∀ j ∈ post, ∀ o, forward o j = none) :
    Reflected Reflects (last forward (pre ++ i :: post)) i ↔
      (forward (last forward pre) i).isSome ∨ Reflected Reflects (last forward pre) i := by
  rw [List.append_cons, last_append_of_dropped hpost, last_snoc]
  cases hi : forward (last forward pre) i with
  | none =>
      show Reflected Reflects (last forward pre) i ↔ _
      exact ⟨Or.inr, fun h => h.resolve_left Bool.false_ne_true⟩
  | some out => exact ⟨fun _ => Or.inl rfl, fun _ => ⟨out, rfl, hforward out hi⟩⟩

/-- If it is not, what was forwarded last is what was forwarded before it. -/
theorem last_of_not_reflected
    (hforward : ∀ out, forward (last forward pre) i = some out → Reflects out i)
    (hpost : ∀ j ∈ post, ∀ o, forward o j = none)
    (h : ¬ Reflected Reflects (last forward (pre ++ i :: post)) i) :
    forward (last forward pre) i = none ∧
      last forward (pre ++ i :: post) = last forward pre := by
  have hnone : forward (last forward pre) i = none := by
    rw [reflected_iff hforward hpost, not_or] at h
    exact Option.not_isSome_iff_eq_none.mp h.1
  refine ⟨hnone, ?_⟩
  rw [List.append_cons, last_append_of_dropped hpost, last_snoc, hnone]
  rfl

end Throttle
