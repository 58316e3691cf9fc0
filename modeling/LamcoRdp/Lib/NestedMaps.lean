/-
LamcoRdp/Lib/NestedMaps.lean

Maps whose values may be maps again, and writes to them at paths of keys.

`put` writes a value at a path and makes the maps on the way that are not there.  It fails
exactly if the way leads through a value that is no map (`put_eq_none_iff`).  `Overlaid v l w`
says by lookups that `w` is `v` with the values of `l` at their paths; there is one such `w`
at most (`Overlaid.unique`).

Whether several writes succeed, and with what, depends on their order.  What they can come to
is, for every choice among them of one write for each shortest path, the map that has these
values and differs in nothing else, and a failure if some path leads through another
(`putAll_perm_iff`).
-/
import Mathlib.Data.List.Infix
import Mathlib.Data.List.Pairwise
import Mathlib.Data.List.Perm.Subperm
import Mathlib.Logic.Function.Basic

/-- Values some of which are maps from keys to values. -/
structure Nesting (K V : Type*) where
  entries : V → Option (K → Option V)
  node : (K → Option V) → V
  entries_node : ∀ m, entries (node m) = some m
  node_of_entries : ∀ {v m}, entries v = some m → v = node m

namespace Nesting

/-! ### Paths -/

section Paths

variable {K : Type*} {p q r : List K}

/-- The way to `p` leads through `r`. -/
def Above (r p : List K) : Prop := r <+: p ∧ r ≠ p

/-- Neither path is a part of the way to the other. -/
def Apart (p q : List K) : Prop := ¬ p <+: q ∧ ¬ q <+: p

instance [DecidableEq K] : Decidable (Apart p q) := inferInstanceAs (Decidable (_ ∧ _))

theorem Apart.symm (h : Apart p q) : Apart q p := ⟨h.2, h.1⟩

theorem Above.length_lt (h : Above r p) : r.length < p.length :=
  Nat.lt_of_le_of_ne h.1.length_le fun hlength => h.2 (h.1.eq_of_length hlength)

theorem above_of_prefix_of_above (hpr : p <+: r) (h : Above r q) : Above p q := by
  refine ⟨hpr.trans h.1, fun hpq => h.2 ?_⟩
  subst hpq
  exact h.1.eq_of_length_le hpr.length_le

theorem above_or_prefix_or_apart (r p : List K) : Above r p ∨ p <+: r ∨ Apart r p := by
  by_cases hpr : p <+: r
  · exact .inr (.inl hpr)
  · by_cases hrp : r <+: p
    · refine .inl ⟨hrp, fun h => hpr ?_⟩
      rw [h]
    · exact .inr (.inr ⟨hrp, hpr⟩)

/-- What is apart from a path is apart from what it leads to. -/
theorem Apart.of_isPrefix (h : Apart r p) (hpq : p <+: q) : Apart r q := by
  refine ⟨fun hrq => ?_, fun hqr => h.2 (hpq.trans hqr)⟩
  rcases List.prefix_or_prefix_of_prefix hrq hpq with hrp | hpr
  · exact h.1 hrp
  · exact h.2 hpr

theorem not_above_nil : ¬ Above r [] := fun h => h.2 (List.prefix_nil.mp h.1)

theorem above_cons_iff {k : K} : Above r (k :: p) ↔ r = [] ∨ ∃ s, r = k :: s ∧ Above s p := by
  cases r with
  | nil => simp [Above]
  | cons j s =>
      simp only [Above, List.cons_prefix_cons, ne_eq, List.cons.injEq, reduceCtorEq, false_or]
      constructor
      · rintro ⟨⟨rfl, hs⟩, hne⟩
        exact ⟨s, ⟨rfl, rfl⟩, hs, fun h => hne ⟨rfl, h⟩⟩
      · rintro ⟨s', ⟨rfl, rfl⟩, hs, hne⟩
        exact ⟨⟨rfl, hs⟩, fun h => hne h.2⟩

end Paths

variable {K V : Type*} (N : Nesting K V)

/-! ### Lookups -/

/-- The value at a path. -/
def get : V → List K → Option V
  | v, [] => some v
  | v, k :: path => (N.entries v).bind fun m => (m k).bind fun u => get u path

/-- The map without entries. -/
def empty : V := N.node fun _ => none

/-- A value on the way to the path is not a map. -/
def Blocks (v : V) (path : List K) : Prop :=
  ∃ r, Above r path ∧ ∃ u, N.get v r = some u ∧ N.entries u = none

variable {N} {v w x y : V} {p q r : List K} {k : K} {m : K → Option V}

theorem get_cons (h : N.entries v = some m) (k : K) (p : List K) :
    N.get v (k :: p) = (m k).bind fun u => N.get u p := by
  rw [get, h]
  rfl

theorem get_node_cons (m : K → Option V) (k : K) (p : List K) :
    N.get (N.node m) (k :: p) = (m k).bind fun u => N.get u p := get_cons (N.entries_node m) k p

theorem get_append (v : V) (p q : List K) :
    N.get v (p ++ q) = (N.get v p).bind fun u => N.get u q := by
  induction p generalizing v with
  | nil => rfl
  | cons k p ih =>
      rw [List.cons_append, get, get, Option.bind_assoc]
      congr 1
      funext m
      rw [Option.bind_assoc]
      congr 1
      funext u
      exact ih u

theorem get_empty (h : r ≠ []) : N.get N.empty r = none := by
  cases r with
  | nil => exact absurd rfl h
  | cons k p => exact get_node_cons _ k p

/-- Below a key there is what the write finds there. -/
theorem get_getD (hr : r ≠ []) (m : K → Option V) (k : K) :
    N.get ((m k).getD N.empty) r = (m k).bind fun u => N.get u r := by
  cases m k with
  | none => exact get_empty hr
  | some u => rfl

theorem blocks_cons (h : N.entries v = some m) :
    N.Blocks v (k :: p) ↔ N.Blocks ((m k).getD N.empty) p := by
  constructor
  · rintro ⟨r, hr, u, hu, hleaf⟩
    -- a leaf above the path: at the root, where `v` is no leaf, or one step down
    rcases above_cons_iff.mp hr with rfl | ⟨s, rfl, hs⟩
    · obtain rfl : v = u := Option.some.inj hu
      rw [hleaf] at h
      cases h
    · rw [get_cons h] at hu
      obtain ⟨u', hu', hget⟩ := Option.bind_eq_some_iff.mp hu
      refine ⟨s, hs, u, ?_, hleaf⟩
      rw [hu']
      exact hget
  · rintro ⟨r, hr, u, hu, hleaf⟩
    refine ⟨k :: r, above_cons_iff.mpr (.inr ⟨r, rfl, hr⟩), u, ?_, hleaf⟩
    rw [get_cons h]
    by_cases hnil : r = []
    · subst hnil
      -- a missing key stands for the empty node, which is no leaf
      cases hk : m k with
      | none =>
          rw [hk] at hu
          obtain rfl : N.empty = u := Option.some.inj hu
          rw [empty, N.entries_node] at hleaf
          cases hleaf
      | some u' =>
          rw [hk] at hu
          exact hu
    · rw [← get_getD hnil]
      exact hu

/-! ### Writes -/

section Writes

variable [DecidableEq K]

variable (N) in
/-- The value with `x` at a path, and maps on the way there. -/
def put : List K → V → V → Option V
  | [], x, _ => some x
  | k :: path, x, v => (N.entries v).bind fun m =>
      (put path x ((m k).getD N.empty)).map fun u => N.node (Function.update m k (some u))

/-- A write fails exactly if its way is blocked. -/
theorem put_eq_none_iff : N.put p x v = none ↔ N.Blocks v p := by
  induction p generalizing v with
  | nil =>
      constructor
      · intro h
        cases h
      · rintro ⟨r, hr, -⟩
        exact absurd hr not_above_nil
  | cons k p ih =>
      rw [put]
      cases h : N.entries v with
      | none => exact ⟨fun _ => ⟨[], above_cons_iff.mpr (.inl rfl), v, rfl, h⟩, fun _ => rfl⟩
      | some m =>
          rw [Option.bind_some, Option.map_eq_none_iff, ih, blocks_cons h]

/-- What a write to a longer path does. -/
theorem put_cons_eq_some (h : N.put (k :: p) x v = some w) :
    ∃ m u, N.entries v = some m ∧ N.put p x ((m k).getD N.empty) = some u ∧
      w = N.node (Function.update m k (some u)) := by
  obtain ⟨m, hm, h⟩ := Option.bind_eq_some_iff.mp h
  obtain ⟨u, hu, hw⟩ := Option.map_eq_some_iff.mp h
  exact ⟨m, u, hm, hu, hw.symm⟩

theorem get_put_self (h : N.put p x v = some w) : N.get w p = some x := by
  induction p generalizing v w with
  | nil => exact h.symm
  | cons k p ih =>
      obtain ⟨m, u, -, hu, rfl⟩ := put_cons_eq_some h
      rw [get_node_cons, Function.update_self]
      exact ih hu

/-- On the way to a path there are maps after a write. -/
theorem get_put_above (h : N.put p x v = some w) (hr : Above r p) :
    ∃ m, N.get w r = some (N.node m) := by
  induction p generalizing v w r with
  | nil => exact absurd hr not_above_nil
  | cons k p ih =>
      obtain ⟨m, u, -, hu, rfl⟩ := put_cons_eq_some h
      rcases above_cons_iff.mp hr with rfl | ⟨s, rfl, hs⟩
      · exact ⟨_, rfl⟩
      · rw [get_node_cons, Function.update_self]
        exact ih hu hs

/-- A write leaves alone what is apart from its path. -/
theorem get_put_apart (h : N.put p x v = some w) (hr : Apart r p) : N.get w r = N.get v r := by
  induction p generalizing v w r with
  | nil => exact absurd (List.nil_prefix) hr.2
  | cons k p ih =>
      obtain ⟨m, u, hm, hu, rfl⟩ := put_cons_eq_some h
      cases r with
      | nil => exact absurd (List.nil_prefix) hr.1
      | cons j s =>
          rw [get_node_cons, get_cons hm]
          by_cases hj : j = k
          · subst hj
            have hs : Apart s p := by
              rw [Apart, List.cons_prefix_cons, List.cons_prefix_cons] at hr
              exact ⟨fun h => hr.1 ⟨rfl, h⟩, fun h => hr.2 ⟨rfl, h⟩⟩
            have hnil : s ≠ [] := fun h => hs.1 (h ▸ List.nil_prefix)
            rw [Function.update_self, Option.bind_some, ih hu hs, get_getD hnil]
          · rw [Function.update_of_ne hj]

/-- A write of a value that is no map blocks what its path leads to. -/
theorem blocks_of_put (h : N.put p x v = some w) (hx : N.entries x = none) (hpq : Above p q) :
    N.Blocks w q := ⟨p, hpq, x, get_put_self h, hx⟩

/-- A write takes no obstacle away. -/
theorem Blocks.put (hq : N.Blocks v q) (h : N.put p x v = some w) (hx : N.entries x = none) :
    N.Blocks w q := by
  obtain ⟨r, hr, u, hu, hleaf⟩ := hq
  rcases above_or_prefix_or_apart r p with hrp | hpr | hapart
  · have hblocked : N.put p x v = none := put_eq_none_iff.mpr ⟨r, hrp, u, hu, hleaf⟩
    rw [hblocked] at h
    cases h
  · exact blocks_of_put h hx (above_of_prefix_of_above hpr hr)
  · exact ⟨r, hr, u, (get_put_apart h hapart).trans hu, hleaf⟩

/-- Nor does it put one in the way of other paths. -/
theorem Blocks.of_put (hq : N.Blocks w q) (h : N.put p x v = some w) (hpq : ¬ Above p q) :
    N.Blocks v q := by
  obtain ⟨r, hr, u, hu, hleaf⟩ := hq
  rcases above_or_prefix_or_apart r p with hrp | hpr | hapart
  · obtain ⟨m, hm⟩ := get_put_above h hrp
    rw [hm] at hu
    obtain rfl := Option.some.inj hu
    rw [N.entries_node] at hleaf
    cases hleaf
  · exact absurd (above_of_prefix_of_above hpr hr) hpq
  · exact ⟨r, hr, u, (get_put_apart h hapart).symm.trans hu, hleaf⟩

end Writes

/-! ### Values at several paths -/

variable (N) in
/-- `w` is `v` with the values of `l` at their paths, and maps on the way to these. -/
structure Overlaid (v : V) (l : List (List K × V)) (w : V) : Prop where
  at_path : ∀ e ∈ l, N.get w e.1 = some e.2
  above : ∀ e ∈ l, ∀ r, Above r e.1 → ∃ m, N.get w r = some (N.node m)
  apart : ∀ r, (∀ e ∈ l, Apart r e.1) → N.get w r = N.get v r

variable {l c : List (List K × V)} {e : List K × V} {w₁ w₂ : V}

/-- Where the values below a path agree, so do those at the path. -/
theorem Overlaid.get_eq_of_below (h₁ : N.Overlaid v l w₁) (h₂ : N.Overlaid v l w₂)
    (hbelow : ∀ e ∈ l, Above r e.1 → ∀ k, N.get w₁ (r ++ [k]) = N.get w₂ (r ++ [k])) :
    N.get w₁ r = N.get w₂ r := by
  by_cases hapart : ∀ e ∈ l, Apart r e.1
  · rw [h₁.apart r hapart, h₂.apart r hapart]
  · obtain ⟨e, hnot⟩ := not_forall.mp hapart
    obtain ⟨he, hnot⟩ := Classical.not_imp.mp hnot
    rcases above_or_prefix_or_apart r e.1 with habove | ⟨s, rfl⟩ | hr
    · obtain ⟨m₁, hm₁⟩ := h₁.above e he r habove
      obtain ⟨m₂, hm₂⟩ := h₂.above e he r habove
      have hmaps : m₁ = m₂ := by
        funext k
        have hk := hbelow e he habove k
        rw [get_append, get_append, hm₁, hm₂, Option.bind_some, Option.bind_some, get_node_cons,
          get_node_cons] at hk
        simpa [get] using hk
      rw [hm₁, hm₂, hmaps]
    · rw [get_append, get_append, h₁.at_path e he, h₂.at_path e he]
    · exact absurd hr hnot

theorem exists_length_le (l : List (List K × V)) : ∃ n, ∀ e ∈ l, e.1.length ≤ n := by
  induction l with
  | nil => exact ⟨0, fun e he => absurd he List.not_mem_nil⟩
  | cons d l ih =>
      obtain ⟨n, hn⟩ := ih
      refine ⟨max d.1.length n, fun e he => ?_⟩
      rcases List.mem_cons.mp he with rfl | he
      · exact Nat.le_max_left _ _
      · exact Nat.le_trans (hn e he) (Nat.le_max_right _ _)

/-- There is one such value at most. -/
theorem Overlaid.unique (h₁ : N.Overlaid v l w₁) (h₂ : N.Overlaid v l w₂) : w₁ = w₂ := by
  obtain ⟨n, hn⟩ := exists_length_le l
  -- by induction on how much longer than `r` a path can be
  have hget : ∀ d r, n ≤ d + r.length → N.get w₁ r = N.get w₂ r := by
    intro d
    induction d with
    | zero =>
        refine fun r hr => h₁.get_eq_of_below h₂ fun e he habove => ?_
        have hlt := habove.length_lt
        have hle := hn e he
        omega
    | succ d ih =>
        refine fun r hr => h₁.get_eq_of_below h₂ fun e he habove k => ih _ ?_
        rw [List.length_append, List.length_singleton]
        omega
  exact Option.some.inj (hget n [] (Nat.le_add_right n 0))

/-! ### A choice of writes -/

/-- One write of `l` for each of its shortest paths. -/
structure Choice (l c : List (List K × V)) : Prop where
  subset : c ⊆ l
  apart : c.Pairwise fun d e => Apart d.1 e.1
  covers : ∀ e ∈ l, ∃ d ∈ c, d.1 <+: e.1

instance : Std.Symm fun d e : List K × V => Apart d.1 e.1 := ⟨fun _ _ h => h.symm⟩

theorem eq_of_isPrefix (hl : l.Pairwise fun d e => Apart d.1 e.1) {d : List K × V} (hd : d ∈ l)
    (he : e ∈ l) (hde : d.1 <+: e.1) : d = e := by
  by_contra hne
  exact (hl.forall hd he hne).1 hde

/-- Where only the same write leads to a path, all writes are chosen. -/
theorem Choice.mem_iff (h : Choice l c) (hl : ∀ d ∈ l, ∀ e ∈ l, d.1 <+: e.1 → d = e) :
    e ∈ c ↔ e ∈ l := by
  refine ⟨fun he => h.subset he, fun he => ?_⟩
  obtain ⟨d, hd, hde⟩ := h.covers e he
  rwa [← hl d (h.subset hd) e he hde]

theorem Choice.perm {l' : List (List K × V)} (h : Choice l c) (hl : l.Perm l') : Choice l' c :=
  ⟨fun _ he => hl.subset (h.subset he), h.apart, fun e he => h.covers e (hl.symm.subset he)⟩

/-- What is apart from the chosen paths is apart from all. -/
theorem Choice.forall_apart (h : Choice l c) (hr : ∀ e ∈ c, Apart r e.1) :
    ∀ e ∈ l, Apart r e.1 := by
  intro e he
  obtain ⟨d, hd, hde⟩ := h.covers e he
  exact (hr d hd).of_isPrefix hde

theorem Overlaid.congr (h : N.Overlaid v l w) (hl : ∀ e, e ∈ l ↔ e ∈ c) : N.Overlaid v c w :=
  ⟨fun e he => h.at_path e ((hl e).mpr he), fun e he => h.above e ((hl e).mpr he),
    fun r hr => h.apart r fun e he => hr e ((hl e).mp he)⟩

/-- Longer paths first: none leads through an earlier one. -/
theorem pairwise_mergeSort_length (l : List (List K × V)) :
    (l.mergeSort fun d e => decide (e.1.length ≤ d.1.length)).Pairwise
      fun d e => ¬ Above d.1 e.1 := by
  have hsorted : (l.mergeSort fun d e => decide (e.1.length ≤ d.1.length)).Pairwise
      fun d e => decide (e.1.length ≤ d.1.length) = true := by
    refine List.pairwise_mergeSort (fun a b c hab hbc => ?_) (fun a b => ?_) l
    · rw [decide_eq_true_eq] at hab hbc ⊢
      exact Nat.le_trans hbc hab
    · rw [Bool.or_eq_true, decide_eq_true_eq, decide_eq_true_eq]
      exact Nat.le_total _ _
  refine hsorted.imp fun hle habove => ?_
  exact Nat.not_le.mpr habove.length_lt (of_decide_eq_true hle)

/-! ### Several writes -/

section Several

variable [DecidableEq K]

variable (N) in
/-- The value after some writes, made in order. -/
def putAll (v : V) (l : List (List K × V)) : Option V :=
  l.foldlM (fun v e => N.put e.1 e.2 v) v

theorem putAll_cons (v : V) (e : List K × V) (l : List (List K × V)) :
    N.putAll v (e :: l) = (N.put e.1 e.2 v).bind fun u => N.putAll u l := List.foldlM_cons

theorem putAll_append (v : V) (l c : List (List K × V)) :
    N.putAll v (l ++ c) = (N.putAll v l).bind fun u => N.putAll u c := List.foldlM_append

theorem putAll_snoc (v : V) (l : List (List K × V)) (e : List K × V) :
    N.putAll v (l ++ [e]) = (N.putAll v l).bind fun u => N.put e.1 e.2 u := by
  rw [putAll_append]
  congr 1
  funext u
  rw [putAll_cons]
  exact Option.bind_fun_some _

/-- Writes leave alone what is apart from all of their paths. -/
theorem get_putAll_apart (h : N.putAll v l = some w) (hr : ∀ e ∈ l, Apart r e.1) :
    N.get w r = N.get v r := by
  induction l generalizing v with
  | nil => rw [Option.some.inj h]
  | cons e l ih =>
      rw [putAll_cons] at h
      obtain ⟨u, hu, h⟩ := Option.bind_eq_some_iff.mp h
      rw [List.forall_mem_cons] at hr
      exact (ih h hr.2).trans (get_put_apart hu hr.1)

/-- A blocked path makes the writes fail, wherever it comes. -/
theorem putAll_of_blocks (hl : ∀ e ∈ l, N.entries e.2 = none) (he : e ∈ l)
    (hblocks : N.Blocks v e.1) : N.putAll v l = none := by
  induction l generalizing v with
  | nil => cases he
  | cons d l ih =>
      rw [List.forall_mem_cons] at hl
      rw [putAll_cons]
      cases hu : N.put d.1 d.2 v with
      | none => rfl
      | some u =>
          rcases List.mem_cons.mp he with rfl | he
          · rw [put_eq_none_iff.mpr hblocks] at hu
            cases hu
          · exact ih hl.2 he (hblocks.put hu hl.1)

/-- Writes of which none is blocked and none leads through an earlier one succeed. -/
theorem exists_putAll (hblocks : ∀ e ∈ l, ¬ N.Blocks v e.1)
    (hl : l.Pairwise fun d e => ¬ Above d.1 e.1) : ∃ w, N.putAll v l = some w := by
  induction l generalizing v with
  | nil => exact ⟨v, rfl⟩
  | cons d l ih =>
      rw [List.forall_mem_cons] at hblocks
      rw [List.pairwise_cons] at hl
      obtain ⟨u, hu⟩ : ∃ u, N.put d.1 d.2 v = some u :=
        Option.ne_none_iff_exists'.mp (mt put_eq_none_iff.mp hblocks.1)
      obtain ⟨w, hw⟩ := ih (fun e he h => hblocks.2 e he (h.of_put hu (hl.1 e he))) hl.2
      exact ⟨w, by rw [putAll_cons, hu, Option.bind_some, hw]⟩

/-- Where one path leads through another, some order fails. -/
theorem exists_perm_putAll_none (hl : ∀ e ∈ l, N.entries e.2 = none) {d : List K × V} (hd : d ∈ l)
    (he : e ∈ l) (hde : Above d.1 e.1) : ∃ l', l'.Perm l ∧ N.putAll v l' = none := by
  obtain ⟨rest, hrest⟩ : ∃ rest, l.Perm (d :: e :: rest) := by
    obtain ⟨s, t, rfl⟩ := List.append_of_mem hd
    have hmiddle : (s ++ d :: t).Perm (d :: (s ++ t)) := List.perm_middle
    have hmem : e ∈ s ++ t := by
      rcases List.mem_cons.mp (hmiddle.subset he) with rfl | hmem
      · exact absurd rfl hde.2
      · exact hmem
    obtain ⟨s', t', hst⟩ := List.append_of_mem hmem
    refine ⟨s' ++ t', hmiddle.trans (List.Perm.cons d ?_)⟩
    rw [hst]
    exact List.perm_middle
  refine ⟨d :: e :: rest, hrest.symm, ?_⟩
  rw [putAll_cons]
  cases hu : N.put d.1 d.2 v with
  | none => rfl
  | some u =>
      rw [Option.bind_some, putAll_cons, put_eq_none_iff.mpr (blocks_of_put hu (hl d hd) hde)]
      rfl

/-- A write that succeeds is not led through what is there. -/
theorem Overlaid.apart_of_put (h : N.Overlaid v c w) (hc : ∀ d ∈ c, N.entries d.2 = none)
    (hput : N.put p y w = some x) {d : List K × V} (hd : d ∈ c) (hpd : ¬ p <+: d.1) :
    Apart p d.1 := by
  refine ⟨hpd, fun hdp => ?_⟩
  have habove : Above d.1 p := ⟨hdp, fun heq => hpd (heq ▸ List.prefix_rfl)⟩
  rw [put_eq_none_iff.mpr ⟨d.1, habove, d.2, h.at_path d hd, hc d hd⟩] at hput
  cases hput

/-- One write more: what its path leads to is no longer there. -/
theorem Overlaid.put (h : N.Overlaid v c w) (hc : ∀ d ∈ c, N.entries d.2 = none)
    (hput : N.put e.1 e.2 w = some x) :
    N.Overlaid v (e :: c.filter fun d => !decide (e.1 <+: d.1)) x := by
  have hmem : ∀ d, d ∈ c.filter (fun d => !decide (e.1 <+: d.1)) ↔ d ∈ c ∧ ¬ e.1 <+: d.1 := by
    simp
  refine ⟨?_, ?_, ?_⟩
  · -- the new entry and the ones that stay hold their values
    intro d hd
    rcases List.mem_cons.mp hd with rfl | hd
    · exact get_put_self hput
    · obtain ⟨hd, hed⟩ := (hmem d).mp hd
      rw [get_put_apart hput (h.apart_of_put hc hput hd hed).symm]
      exact h.at_path d hd
  · -- above the kept paths there are still nodes
    intro d hd r hr
    rcases List.mem_cons.mp hd with rfl | hd
    · exact get_put_above hput hr
    · obtain ⟨hd, hed⟩ := (hmem d).mp hd
      rcases above_or_prefix_or_apart r e.1 with hre | her | hapart
      · exact get_put_above hput hre
      · exact absurd (her.trans hr.1) hed
      · rw [get_put_apart hput hapart]
        exact h.above d hd r hr
  · -- a path apart from all of them is as it was
    intro r hr
    rw [List.forall_mem_cons] at hr
    rw [get_put_apart hput hr.1]
    refine h.apart r fun d hd => ?_
    by_cases hed : e.1 <+: d.1
    · exact hr.1.of_isPrefix hed
    · exact hr.2 d ((hmem d).mpr ⟨hd, hed⟩)

/-- What the writes come to is there for some choice among them. -/
theorem exists_choice (hl : ∀ e ∈ l, N.entries e.2 = none) (h : N.putAll v l = some w) :
    ∃ c, Choice l c ∧ N.Overlaid v c w := by
  induction l using List.reverseRecOn generalizing w with
  | nil =>
      obtain rfl := Option.some.inj h
      exact ⟨[], ⟨List.Subset.refl _, List.Pairwise.nil, by simp⟩, by simp, by simp, by simp⟩
  | append_singleton l e ih =>
      rw [putAll_snoc] at h
      obtain ⟨u, hu, hput⟩ := Option.bind_eq_some_iff.mp h
      obtain ⟨c, hchoice, hover⟩ := ih (fun d hd => hl d (List.mem_append_left _ hd)) hu
      have hleaf : ∀ d ∈ c, N.entries d.2 = none :=
        fun d hd => hl d (List.mem_append_left _ (hchoice.subset hd))
      refine ⟨_, ⟨?_, ?_, ?_⟩, hover.put hleaf hput⟩
      · -- the choice is taken from the list
        intro d hd
        rcases List.mem_cons.mp hd with rfl | hd
        · exact List.mem_append_right _ (List.mem_singleton_self d)
        · exact List.mem_append_left _ (hchoice.subset (List.mem_of_mem_filter hd))
      · -- its paths are pairwise apart: the ones under the new path were dropped
        refine List.pairwise_cons.mpr ⟨fun d hd => ?_, hchoice.apart.filter _⟩
        obtain ⟨hd, hed⟩ := List.mem_filter.mp hd
        exact hover.apart_of_put hleaf hput hd (by simpa using hed)
      · -- and it covers the list: what was dropped lies under the new path
        intro d hd
        rcases List.mem_append.mp hd with hd | hd
        · obtain ⟨d', hd', hprefix⟩ := hchoice.covers d hd
          by_cases hed : e.1 <+: d'.1
          · exact ⟨e, List.mem_cons_self, hed.trans hprefix⟩
          · refine ⟨d', List.mem_cons_of_mem _ (List.mem_filter.mpr ⟨hd', ?_⟩), hprefix⟩
            simpa using hed
        · obtain rfl := List.mem_singleton.mp hd
          exact ⟨d, List.mem_cons_self, List.prefix_rfl⟩

/-- Where no path leads through another, all the values are there. -/
theorem overlaid_putAll (hl : ∀ e ∈ l, N.entries e.2 = none)
    (hapart : l.Pairwise fun d e => Apart d.1 e.1) (h : N.putAll v l = some w) :
    N.Overlaid v l w := by
  obtain ⟨c, hchoice, hover⟩ := exists_choice hl h
  exact hover.congr fun e => hchoice.mem_iff fun d hd e he => eq_of_isPrefix hapart hd he

/-- What some choice among the writes comes to is what they come to in some order: those that
were not chosen come first. -/
theorem exists_perm_putAll (hl : ∀ e ∈ l, N.entries e.2 = none)
    (hblocks : ∀ e ∈ l, ¬ N.Blocks v e.1) (hchoice : Choice l c) (hover : N.Overlaid v c w) :
    ∃ l', l'.Perm l ∧ N.putAll v l' = some w := by
  have hnodup : c.Nodup := by
    refine hchoice.apart.imp fun {d e} hapart heq => hapart.1 ?_
    rw [heq]
  obtain ⟨rest, hrest⟩ : ∃ rest, l.Perm (c ++ rest) := by
    obtain ⟨s, hs, hsub⟩ := hnodup.subperm hchoice.subset
    obtain ⟨rest, hrest⟩ := hsub.exists_perm_append
    exact ⟨rest, hrest.trans (hs.append_right rest)⟩
  -- put the deep entries first, so that none is in the way of a later one
  let first := rest.mergeSort fun d e => decide (e.1.length ≤ d.1.length)
  have hperm : (first ++ c).Perm l :=
    ((List.mergeSort_perm rest _).append_right c).trans (List.perm_append_comm.trans hrest.symm)
  have hpairwise : (first ++ c).Pairwise fun d e => ¬ Above d.1 e.1 := by
    refine List.pairwise_append.mpr ⟨pairwise_mergeSort_length rest,
      hchoice.apart.imp fun hapart habove => hapart.1 habove.1, fun d hd e he habove => ?_⟩
    obtain ⟨d', hd', hprefix⟩ := hchoice.covers d (hperm.subset (List.mem_append_left _ hd))
    have hd'e := above_of_prefix_of_above hprefix habove
    exact hd'e.2 (congrArg Prod.fst (eq_of_isPrefix hchoice.apart hd' he hd'e.1))
  -- the list is put without being blocked
  obtain ⟨w', hw'⟩ := exists_putAll (fun e he => hblocks e (hperm.subset he)) hpairwise
  refine ⟨first ++ c, hperm, hw'.trans (congrArg some ?_)⟩
  have hw := hw'
  -- and what the choice wrote last is what is read at its paths
  rw [putAll_append] at hw
  obtain ⟨u, hu, hc⟩ := Option.bind_eq_some_iff.mp hw
  have hover' := overlaid_putAll (fun e he => hl e (hchoice.subset he)) hchoice.apart hc
  refine Overlaid.unique ⟨hover'.at_path, hover'.above, fun r hr => ?_⟩ hover
  exact get_putAll_apart hw' fun e he => hchoice.forall_apart hr e (hperm.subset he)

/-- What follows from some writes is the same for every order of them exactly if one of the
paths is blocked, or it is the same for every choice among them and, if one path leads
through another, for a failure. -/
theorem putAll_perm_iff {O : Type*} (f : Option V → O) (hl : ∀ e ∈ l, N.entries e.2 = none) :
    (∀ l', l'.Perm l → f (N.putAll v l') = f (N.putAll v l)) ↔
      (∃ e ∈ l, N.Blocks v e.1) ∨
        ∃ o, (∀ c w, Choice l c → N.Overlaid v c w → f (some w) = o) ∧
          ((∃ d ∈ l, ∃ e ∈ l, Above d.1 e.1) → f none = o) := by
  constructor
  · intro h
    -- a blocked entry makes every order fail, else the orders reach every choice
    by_cases hblocks : ∃ e ∈ l, N.Blocks v e.1
    · exact .inl hblocks
    · refine .inr ⟨f (N.putAll v l), fun c w hchoice hover => ?_, ?_⟩
      · obtain ⟨l', hperm, hw⟩ := exists_perm_putAll hl
          (fun e he hblocked => hblocks ⟨e, he, hblocked⟩) hchoice hover
        rw [← hw]
        exact h l' hperm
      · -- a path above another: some order runs into it
        rintro ⟨d, hd, e, he, hde⟩
        obtain ⟨l', hperm, hnone⟩ := exists_perm_putAll_none (v := v) hl hd he hde
        rw [← hnone]
        exact h l' hperm
  · intro h
    -- conversely, every order ends in a choice, or in a failure
    by_cases hblocks : ∃ e ∈ l, N.Blocks v e.1
    · obtain ⟨e, he, hblocked⟩ := hblocks
      have hnone : ∀ l', l'.Perm l → N.putAll v l' = none := fun l' hperm =>
        putAll_of_blocks (fun d hd => hl d (hperm.subset hd)) (hperm.symm.subset he) hblocked
      intro l' hperm
      rw [hnone l' hperm, hnone l (List.Perm.refl l)]
    · obtain ⟨o, hsome, hnone⟩ := h.resolve_left hblocks
      have hall : ∀ l', l'.Perm l → f (N.putAll v l') = o := by
        intro l' hperm
        cases hw : N.putAll v l' with
        | some w =>
            obtain ⟨c, hchoice, hover⟩ := exists_choice (fun d hd => hl d (hperm.subset hd)) hw
            exact hsome c w (hchoice.perm hperm) hover
        | none =>
            -- a failing order has one path above another
            by_contra hne
            obtain ⟨w, hw'⟩ : ∃ w, N.putAll v l' = some w := by
              refine exists_putAll (fun e he hblocked => hblocks ⟨e, hperm.subset he, hblocked⟩)
                (List.pairwise_of_forall_mem_list fun d hd e he habove => hne (hnone ?_))
              exact ⟨d, hperm.subset hd, e, hperm.subset he, habove⟩
            rw [hw'] at hw
            cases hw
      intro l' hperm
      rw [hall l' hperm, hall l (List.Perm.refl l)]

/-- Where only the same write leads to a path, the order does not matter. -/
theorem putAll_perm {l' : List (List K × V)} (hl : ∀ e ∈ l, N.entries e.2 = none)
    (hsame : ∀ d ∈ l, ∀ e ∈ l, d.1 <+: e.1 → d = e) (hperm : l'.Perm l) :
    N.putAll v l' = N.putAll v l := by
  have habove : ∀ d ∈ l, ∀ e ∈ l, ¬ Above d.1 e.1 := fun d hd e he hde =>
    hde.2 (congrArg Prod.fst (hsame d hd e he hde.1))
  refine (putAll_perm_iff id hl).mpr ?_ l' hperm
  by_cases hblocks : ∃ e ∈ l, N.Blocks v e.1
  · exact .inl hblocks
  · obtain ⟨w, hw⟩ : ∃ w, N.putAll v l = some w :=
      exists_putAll (fun e he hblocked => hblocks ⟨e, he, hblocked⟩)
        (List.pairwise_of_forall_mem_list habove)
    obtain ⟨c, hchoice, hover⟩ := exists_choice hl hw
    refine .inr ⟨some w, fun c' w' hchoice' hover' => ?_, ?_⟩
    · have hmem : ∀ e, e ∈ c' ↔ e ∈ c := fun e =>
        (hchoice'.mem_iff hsame).trans (hchoice.mem_iff hsame).symm
      exact congrArg some ((hover'.congr hmem).unique hover)
    · rintro ⟨d, hd, e, he, hde⟩
      exact absurd hde (habove d hd e he)

end Several

end Nesting
