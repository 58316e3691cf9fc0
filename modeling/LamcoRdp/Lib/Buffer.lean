/-
LamcoRdp/Lib/Buffer.lean

Checked reads and writes of a buffer, and loops of them.

A buffer is a list.  `read?` and `write?` are slicing and slice assignment with
their bounds check: out of range they are `none`, where the program panics.
`foldlM_range_inv` is the loop rule: an invariant that holds before the loop and
that every pass establishes for the next index, succeeding, makes the whole loop
succeed and end with the invariant.  `foldlM_keeps` and `foldlM_eq_none` are for
loops that need not succeed, `foldlM_rel` is for two runs of one loop.
-/
import Mathlib.Data.List.Basic
import Mathlib.Data.List.GetD
import Mathlib.Algebra.Order.Group.Nat

namespace Buffer

variable {α β : Type*}

/-- `l[off..off + len]`. -/
def read? (l : List α) (off len : ℕ) : Option (List α) :=
  if off + len ≤ l.length then some ((l.drop off).take len) else none

/-- `l[off..off + src.len()].copy_from_slice(src)`. -/
def write? (l : List α) (off : ℕ) (src : List α) : Option (List α) :=
  if off + src.length ≤ l.length then
    some (l.take off ++ src ++ l.drop (off + src.length))
  else none

theorem read?_of_le (l : List α) (off len : ℕ) (h : off + len ≤ l.length) :
    ∃ s, read? l off len = some s ∧ s.length = len ∧ ∀ i < len, s[i]? = l[off + i]? := by
  refine ⟨_, if_pos h, ?_, ?_⟩
  · rw [List.length_take, List.length_drop]
    omega
  · intro i hi
    rw [List.getElem?_take_of_lt hi, List.getElem?_drop]

theorem write?_of_le (l : List α) (off : ℕ) (src : List α) (h : off + src.length ≤ l.length) :
    ∃ l', write? l off src = some l' ∧ l'.length = l.length ∧
      (∀ i < src.length, l'[off + i]? = src[i]?) ∧
      ∀ i, i < off ∨ off + src.length ≤ i → l'[i]? = l[i]? := by
  have htake : (l.take off).length = off := by
    rw [List.length_take]
    omega
  have hfront : (l.take off ++ src).length = off + src.length := by
    rw [List.length_append, htake]
  refine ⟨_, if_pos h, ?_, ?_, ?_⟩
  · rw [List.length_append, hfront, List.length_drop]
    omega
  · intro i hi
    rw [List.getElem?_append_left (by omega), List.getElem?_append_right (by omega), htake,
      Nat.add_sub_cancel_left]
  · rintro i (hi | hi)
    · rw [List.getElem?_append_left (by omega), List.getElem?_append_left (by omega),
        List.getElem?_take_of_lt hi]
    · rw [List.getElem?_append_right (by omega), hfront, List.getElem?_drop]
      congr 1
      omega

/-- The loop rule for `for i in 0..n` with a body that may panic. -/
theorem foldlM_range_inv (P : ℕ → β → Prop) {f : β → ℕ → Option β} {b : β} (n : ℕ)
    (h₀ : P 0 b) (hstep : ∀ i < n, ∀ b, P i b → ∃ b', f b i = some b' ∧ P (i + 1) b') :
    ∃ b', (List.range n).foldlM f b = some b' ∧ P n b' := by
  induction n with
  | zero => exact ⟨b, rfl, h₀⟩
  | succ n ih =>
      obtain ⟨b₁, hb₁, hP₁⟩ := ih fun i hi => hstep i (by omega)
      obtain ⟨b₂, hb₂, hP₂⟩ := hstep n (by omega) b₁ hP₁
      refine ⟨b₂, ?_, hP₂⟩
      rw [List.range_succ, List.foldlM_append, hb₁]
      simpa using hb₂

/-- The loop rule for passes that do not disturb one another: each succeeds,
establishes its own part and keeps (`R`) what the others establish.  The order of
the passes does not matter. -/
theorem foldlM_establish {γ : Type*} (Q : β → Prop) (E : γ → β → Prop) (R : β → β → Prop)
    (hrefl : ∀ b, R b b) (htrans : ∀ {b b' b''}, R b b' → R b' b'' → R b b'')
    (hmono : ∀ {c b b'}, R b b' → E c b → E c b') {f : β → γ → Option β} {l : List γ} {b : β}
    (hb : Q b) (hstep : ∀ c ∈ l, ∀ b, Q b → ∃ b', f b c = some b' ∧ Q b' ∧ E c b' ∧ R b b') :
    ∃ b', l.foldlM f b = some b' ∧ Q b' ∧ (∀ c ∈ l, E c b') ∧ R b b' := by
  induction l generalizing b with
  | nil => exact ⟨b, rfl, hb, fun c hc => absurd hc List.not_mem_nil, hrefl b⟩
  | cons c l ih =>
      obtain ⟨b₁, hb₁, hQ₁, hE₁, hR₁⟩ := hstep c List.mem_cons_self b hb
      obtain ⟨b₂, hb₂, hQ₂, hE₂, hR₂⟩ :=
        ih hQ₁ fun c hc => hstep c (List.mem_cons_of_mem _ hc)
      refine ⟨b₂, ?_, hQ₂, ?_, htrans hR₁ hR₂⟩
      · rw [List.foldlM_cons, hb₁]
        exact hb₂
      · intro c' hc'
        rcases List.mem_cons.mp hc' with rfl | hc'
        · exact hmono hR₂ hE₁
        · exact hE₂ c' hc'

section Passes

variable {γ : Type*} {f : β → γ → Option β} {P : β → Prop}

/-- What every pass that succeeds keeps, the loop keeps. -/
theorem foldlM_keeps {l : List γ} (hkeep : ∀ c b b', P b → f b c = some b' → P b') {b b' : β}
    (hb : P b) (h : l.foldlM f b = some b') : P b' := by
  induction l generalizing b with
  | nil =>
      obtain rfl := Option.some.inj h
      exact hb
  | cons c l ih =>
      rw [List.foldlM_cons] at h
      obtain ⟨b₁, hb₁, h⟩ := Option.bind_eq_some_iff.mp h
      exact ih (hkeep c b b₁ hb hb₁) h

/-- A pass that cannot succeed makes the loop panic. -/
theorem foldlM_eq_none {l : List γ} {c : γ} (hc : c ∈ l)
    (hkeep : ∀ c b b', P b → f b c = some b' → P b') (hnone : ∀ b, P b → f b c = none) {b : β}
    (hb : P b) : l.foldlM f b = none := by
  induction l generalizing b with
  | nil => exact absurd hc List.not_mem_nil
  | cons a l ih =>
      rw [List.foldlM_cons]
      rcases List.mem_cons.mp hc with rfl | hc
      · rw [hnone b hb]
        rfl
      · rcases hb₁ : f b a with - | b₁
        · rfl
        · exact ih hc (hkeep a b b₁ hb hb₁)

/-- A relation every pass keeps between two states, the loop keeps; one panics
where the other does. -/
theorem foldlM_rel {R : β → β → Prop} {l : List γ}
    (hstep : ∀ c ∈ l, ∀ b b', R b b' → Option.Rel R (f b c) (f b' c)) {b b' : β} (hb : R b b') :
    Option.Rel R (l.foldlM f b) (l.foldlM f b') := by
  induction l generalizing b b' with
  | nil => exact .some hb
  | cons c l ih =>
      have htail : ∀ c ∈ l, ∀ b b', R b b' → Option.Rel R (f b c) (f b' c) :=
        fun c hc => hstep c (List.mem_cons_of_mem _ hc)
      rw [List.foldlM_cons, List.foldlM_cons]
      have hhead := hstep c List.mem_cons_self b b' hb
      generalize f b c = r at hhead
      generalize f b' c = r' at hhead
      cases hhead with
      | some h => exact ih htail h
      | none => exact .none

end Passes

/-- A write keeps the length. -/
theorem length_of_write? {l l' src : List α} {off : ℕ} (h : write? l off src = some l') :
    l'.length = l.length := by
  by_cases hle : off + src.length ≤ l.length
  · obtain ⟨l₁, hl₁, hlen, -⟩ := write?_of_le l off src hle
    obtain rfl := Option.some.inj (hl₁.symm.trans h)
    exact hlen
  · rw [write?, if_neg hle] at h
    cases h

/-- A slice has the length asked for. -/
theorem length_of_read? {l s : List α} {off len : ℕ} (h : read? l off len = some s) :
    s.length = len := by
  by_cases hle : off + len ≤ l.length
  · obtain ⟨s₁, hs₁, hlen, -⟩ := read?_of_le l off len hle
    obtain rfl := Option.some.inj (hs₁.symm.trans h)
    exact hlen
  · rw [read?, if_neg hle] at h
    cases h

/-- `n` pieces of `len` elements each, taken at the given offsets and put one
after the other. -/
def rows (l : List α) (n : ℕ) (off : ℕ → ℕ) (len : ℕ) : List α :=
  (List.range n).flatMap fun k => (l.drop (off k)).take len

theorem rows_succ (l : List α) (n : ℕ) (off : ℕ → ℕ) (len : ℕ) :
    rows l (n + 1) off len = rows l n off len ++ (l.drop (off n)).take len := by
  rw [rows, List.range_succ, List.flatMap_append, List.flatMap_singleton]
  rfl

section Rows

variable {l : List α} {n len : ℕ} {off : ℕ → ℕ}

theorem length_rows (h : ∀ k < n, off k + len ≤ l.length) :
    (rows l n off len).length = n * len := by
  induction n with
  | zero => rw [Nat.zero_mul]; rfl
  | succ n ih =>
      have hn := h n (by omega)
      rw [rows_succ, List.length_append, ih fun k hk => h k (by omega), List.length_take,
        List.length_drop, Nat.succ_mul]
      omega

theorem getElem?_rows (h : ∀ k < n, off k + len ≤ l.length) {k i : ℕ} (hk : k < n)
    (hi : i < len) : (rows l n off len)[k * len + i]? = l[off k + i]? := by
  induction n with
  | zero => exact absurd hk (Nat.not_lt_zero k)
  | succ n ih =>
      have hlen := length_rows (n := n) fun k hk => h k (by omega)
      rw [rows_succ]
      rcases Nat.lt_succ_iff_lt_or_eq.mp hk with hk | rfl
      · have hmul : (k + 1) * len ≤ n * len := Nat.mul_le_mul_right len hk
        rw [Nat.succ_mul] at hmul
        rw [List.getElem?_append_left (by omega)]
        exact ih (fun k hk => h k (by omega)) hk
      · rw [List.getElem?_append_right (by omega), hlen, Nat.add_sub_cancel_left,
          List.getElem?_take_of_lt hi, List.getElem?_drop]

end Rows

end Buffer
