/-
LamcoRdp/Lib/Delimited.lean

Streams of units that each open with a delimiter.

A unit runs from its delimiter to the next one, or to the end of the stream;
what stands before the first delimiter belongs to no unit.  Delimiters are
recognised by a function `code`: `code s = some n` says that the stream `s`
opens with a delimiter of `n` symbols.  A reader that looks for the end of a
unit may leave out the first symbols of its body: `first` says how many.

`units` is the reader, a loop over the stream.  `Reads code first s us` says
what it is to read the units `us` off the stream `s`: the stream is cut at
delimiters, and no delimiter opens where the reader looks and does not cut.
The two agree (`units_eq_iff`), so that a stream is read back by cutting it in
the one way in which it may be cut.
-/
import Mathlib.Data.List.Basic

namespace Delimited

variable {α : Type*} (code : List α → Option ℕ) (first : ℕ)

/-- How far the next delimiter is, or the end. -/
def nextCode : List α → ℕ
  | [] => 0
  | a :: s => if (code (a :: s)).isSome then 0 else nextCode s + 1

/-- The loop of the reader, with a bound on its rounds. -/
def unitsFuel : ℕ → List α → List (List α × List α)
  | 0, _ => []
  | _ + 1, [] => []
  | fuel + 1, a :: s =>
      match code (a :: s) with
      -- not at a delimiter: one symbol on
      | none => unitsFuel fuel s
      | some n =>
          let body := (a :: s).drop n
          let len := first + nextCode code (body.drop first)
          ((a :: s).take n, body.take len) :: unitsFuel fuel (body.drop len)

/-- The units of a stream, each with its delimiter. -/
def units (s : List α) : List (List α × List α) := unitsFuel code first s.length s

/-- No delimiter opens inside `l` where `r` follows. -/
def Silent (l r : List α) : Prop := ∀ i < l.length, code (l.drop i ++ r) = none

/-- Reading units off a stream. -/
inductive Reads : List α → List (List α × List α) → Prop
  | done {junk} : Silent code junk [] → Reads junk []
  | unit {junk c body rest us} :
      Silent code junk (c ++ (body ++ rest)) →
      code (c ++ (body ++ rest)) = some c.length →
      Silent code (body.drop first) rest →
      rest = [] ∨ first ≤ body.length ∧ (code rest).isSome →
      Reads rest us → Reads (junk ++ (c ++ (body ++ rest))) ((c, body) :: us)

variable {code first}

/-! ### Silence -/

theorem silent_nil (r : List α) : Silent code [] r := fun i hi => absurd hi (Nat.not_lt_zero i)

theorem silent_cons {a : α} {l r : List α} :
    Silent code (a :: l) r ↔ code (a :: (l ++ r)) = none ∧ Silent code l r := by
  constructor
  · intro h
    exact ⟨h 0 (Nat.zero_lt_succ _), fun i hi => h (i + 1) (Nat.succ_lt_succ hi)⟩
  · rintro ⟨h₀, h⟩ i hi
    cases i with
    | zero => exact h₀
    | succ i => exact h i (Nat.lt_of_succ_lt_succ hi)

theorem nextCode_of_isSome {s : List α} (h : (code s).isSome) : nextCode code s = 0 := by
  cases s with
  | nil => rfl
  | cons a s => exact if_pos h

theorem nextCode_append {l r : List α} (h : Silent code l r) :
    nextCode code (l ++ r) = l.length + nextCode code r := by
  induction l with
  | nil => rw [List.nil_append, List.length_nil, Nat.zero_add]
  | cons a l ih =>
      obtain ⟨h₀, h⟩ := silent_cons.mp h
      have hno : ¬ (code (a :: (l ++ r))).isSome := by simp [h₀]
      rw [List.cons_append, nextCode, if_neg hno, ih h, List.length_cons]
      exact Nat.add_right_comm _ _ _

variable (code) in
/-- Up to the next delimiter there is none, and there it is. -/
theorem silent_nextCode (s : List α) :
    Silent code (s.take (nextCode code s)) (s.drop (nextCode code s)) ∧
      (s.drop (nextCode code s) = [] ∨ (code (s.drop (nextCode code s))).isSome) := by
  induction s with
  | nil => exact ⟨silent_nil _, Or.inl rfl⟩
  | cons a s ih =>
      by_cases h : (code (a :: s)).isSome
      · rw [nextCode_of_isSome h]
        exact ⟨silent_nil _, Or.inr h⟩
      · rw [nextCode, if_neg h]
        refine ⟨silent_cons.mpr ⟨?_, ih.1⟩, ih.2⟩
        rw [List.drop_succ_cons, List.take_append_drop]
        exact Option.not_isSome_iff_eq_none.mp h

/-! ### The loop -/

theorem units_skip {a : α} {s : List α} (h : code (a :: s) = none) :
    units code first (a :: s) = units code first s := by
  rw [units, List.length_cons, unitsFuel, h]
  rfl

theorem units_junk {junk s : List α} (h : Silent code junk s) :
    units code first (junk ++ s) = units code first s := by
  induction junk with
  | nil => rfl
  | cons a junk ih =>
      obtain ⟨h₀, h⟩ := silent_cons.mp h
      rw [List.cons_append, units_skip h₀, ih h]

section Loop

variable (hcode : ∀ s n, code s = some n → 0 < n)
include hcode

/-- More rounds than symbols make no difference. -/
theorem unitsFuel_eq (fuel : ℕ) (s : List α) (h : s.length ≤ fuel) :
    unitsFuel code first fuel s = units code first s := by
  have key : ∀ fuel s, s.length ≤ fuel → ∀ fuel', s.length ≤ fuel' →
      unitsFuel code first fuel s = unitsFuel code first fuel' s := by
    intro fuel
    induction fuel with
    | zero =>
        intro s hs fuel' _
        rw [List.length_eq_zero_iff.mp (Nat.le_zero.mp hs)]
        cases fuel' <;> rfl
    | succ fuel ih =>
        intro s hs fuel' hs'
        rcases s with - | ⟨a, s⟩
        · cases fuel' <;> rfl
        rcases fuel' with - | fuel'
        · exact absurd hs' (Nat.not_succ_le_zero _)
        have hl := Nat.le_of_succ_le_succ hs
        have hl' := Nat.le_of_succ_le_succ hs'
        rw [unitsFuel, unitsFuel]
        rcases hc : code (a :: s) with - | n
        · exact ih s hl fuel' hl'
        -- what is left after a unit is shorter by the delimiter at least
        have hn := hcode _ _ hc
        have hrest : ∀ len, (((a :: s).drop n).drop len).length ≤ s.length := by
          intro len
          rw [List.length_drop, List.length_drop, List.length_cons]
          omega
        show _ :: _ = _ :: _
        rw [ih _ (Nat.le_trans (hrest _) hl) fuel' (Nat.le_trans (hrest _) hl')]
  exact key fuel s h s.length (Nat.le_refl _)

/-- The unit at a delimiter. -/
theorem units_unit {s : List α} {n : ℕ} (hs : s ≠ []) (h : code s = some n) :
    units code first s =
      (s.take n, (s.drop n).take (first + nextCode code ((s.drop n).drop first))) ::
        units code first ((s.drop n).drop (first + nextCode code ((s.drop n).drop first))) := by
  obtain ⟨a, s, rfl⟩ := List.exists_cons_of_ne_nil hs
  have hn := hcode _ _ h
  rw [units, List.length_cons, unitsFuel, h]
  show _ :: _ = _ :: _
  rw [unitsFuel_eq hcode]
  rw [List.length_drop, List.length_drop, List.length_cons]
  omega

/-- The loop finds the units that can be read off the stream. -/
theorem units_eq_of_reads {s : List α} {us : List (List α × List α)}
    (h : Reads code first s us) : units code first s = us := by
  induction h with
  | @done junk hjunk =>
      have h : units code first (junk ++ []) = units code first [] := units_junk hjunk
      rwa [List.append_nil] at h
  | @unit junk c body rest us hjunk hc hbody hrest _ ih =>
      have hne : c ++ (body ++ rest) ≠ [] := by
        intro hnil
        rw [List.append_eq_nil_iff] at hnil
        rw [hnil.1, hnil.2] at hc
        exact Nat.lt_irrefl 0 (hcode _ _ hc)
      rw [units_junk hjunk, units_unit hcode hne hc, List.take_left, List.drop_left]
      -- the next delimiter stands where the body ends
      have hlen : first + nextCode code ((body ++ rest).drop first) = body.length ∨
          rest = [] ∧ body.length ≤ first + nextCode code ((body ++ rest).drop first) := by
        rcases hrest with rfl | ⟨hfirst, hopen⟩
        · right
          rw [List.append_nil]
          have hs := nextCode_append hbody
          rw [List.append_nil, List.length_drop] at hs
          exact ⟨rfl, by omega⟩
        · left
          rw [List.drop_append_of_le_length hfirst, nextCode_append hbody,
            nextCode_of_isSome hopen, List.length_drop, Nat.add_zero]
          exact Nat.add_sub_cancel' hfirst
      rcases hlen with hlen | ⟨rfl, hlen⟩
      · rw [hlen, List.take_left, List.drop_left, ih]
      · rw [List.append_nil] at hlen ⊢
        rw [List.take_of_length_le hlen, List.drop_of_length_le hlen, ih]

end Loop

/-- The units and what stands before the first of them make up the stream. -/
theorem Reads.exists_junk {s : List α} {us : List (List α × List α)} (h : Reads code first s us) :
    ∃ junk, Silent code junk (us.flatMap fun u => u.1 ++ u.2) ∧
      s = junk ++ us.flatMap fun u => u.1 ++ u.2 := by
  induction h with
  | @done junk hjunk => exact ⟨junk, hjunk, (List.append_nil junk).symm⟩
  | @unit junk c body rest us hjunk hc hbody hrest h ih =>
      -- a unit ends where the next delimiter opens, so nothing stands between them
      have hnext : rest = us.flatMap fun u => u.1 ++ u.2 := by
        obtain ⟨between, hsilent, heq⟩ := ih
        rcases between with - | ⟨a, between⟩
        · exact heq
        rcases hrest with rfl | ⟨-, hopen⟩
        · cases heq
        · rw [heq, List.cons_append, (silent_cons.mp hsilent).1] at hopen
          cases hopen
      have hunits : (((c, body) :: us).flatMap fun u => u.1 ++ u.2) = c ++ (body ++ rest) := by
        rw [List.flatMap_cons, ← hnext, List.append_assoc]
      rw [hunits]
      exact ⟨junk, hjunk, rfl⟩

/-- What the loop finds can be read off the stream. -/
theorem reads_units (hcode : ∀ s n, code s = some n → 0 < n ∧ n ≤ s.length) (s : List α) :
    Reads code first s (units code first s) := by
  have hpos : ∀ s n, code s = some n → 0 < n := fun s n h => (hcode s n h).1
  induction hl : s.length using Nat.strongRecOn generalizing s with
  | ind l ih =>
      -- what stands before the first delimiter
      obtain ⟨hsilent, hend⟩ := silent_nextCode code s
      have hs := List.take_append_drop (nextCode code s) s
      rcases hend with hnil | hopen
      · rw [hnil] at hsilent hs
        rw [List.append_nil] at hs
        rw [hs] at hsilent
        rw [← List.append_nil s, units_junk hsilent, List.append_nil]
        exact Reads.done hsilent
      generalize s.take (nextCode code s) = junk at hsilent hs
      generalize s.drop (nextCode code s) = t at hsilent hs hopen
      obtain ⟨n, hc⟩ := Option.isSome_iff_exists.mp hopen
      obtain ⟨hn, hnt⟩ := hcode t n hc
      have ht : t ≠ [] := fun h => by simp [h] at hnt; omega
      rw [← hs, units_junk hsilent, units_unit hpos ht hc]
      -- the body, and what follows it
      generalize hb : t.drop n = b
      obtain ⟨hbody, hnext⟩ := silent_nextCode code (b.drop first)
      generalize hlen : first + nextCode code (b.drop first) = len
      have hsplit : t = t.take n ++ (b.take len ++ b.drop len) := by
        rw [List.take_append_drop, ← hb, List.take_append_drop]
      have hbodyTake :
          (b.take len).drop first = (b.drop first).take (nextCode code (b.drop first)) := by
        rw [← hlen, List.drop_take]
        congr 1
        omega
      have hbodyDrop : (b.drop first).drop (nextCode code (b.drop first)) = b.drop len := by
        rw [List.drop_drop, hlen]
      rw [hbodyDrop] at hnext hbody
      have hshort : (b.drop len).length < l := by
        rw [← hl, ← hs, ← hb, List.length_drop, List.length_drop, List.length_append]
        omega
      have hrest := ih _ hshort (b.drop len) rfl
      have hcut : (t.take n).length = n := List.length_take_of_le hnt
      conv => enter [3]; rw [hsplit]
      refine Reads.unit ?_ ?_ ?_ ?_ hrest
      · rwa [← hsplit]
      · rw [← hsplit, hcut]
        exact hc
      · rw [hbodyTake]
        exact hbody
      · by_cases hnil : b.drop len = []
        · exact Or.inl hnil
        · have hlt : len < b.length := by
            by_contra hge
            exact hnil (List.drop_of_length_le (Nat.le_of_not_lt hge))
          refine Or.inr ⟨?_, hnext.resolve_left hnil⟩
          rw [List.length_take_of_le (Nat.le_of_lt hlt)]
          omega

/-- The loop finds units exactly if they can be read off the stream. -/
theorem units_eq_iff (hcode : ∀ s n, code s = some n → 0 < n ∧ n ≤ s.length) {s : List α}
    {us : List (List α × List α)} : units code first s = us ↔ Reads code first s us := by
  constructor
  · rintro rfl
    exact reads_units hcode s
  · exact units_eq_of_reads fun s n h => (hcode s n h).1

end Delimited
