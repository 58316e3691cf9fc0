/-
LamcoRdp/Lib/Chunks.lean

Lists taken in pieces, and passes over a list that carry a state.

`chunks n l` are the pieces of length `n` of a list, the last of which may be
shorter; `chunksExact n l` are those that are not.  `chunks_induction` is the
induction over a list piece by piece.

`pass f s l` puts the elements of a list through `f`, which keeps a state.  A pass over
the pieces of a list follows a pass over its elements if it does so over every piece
(`take_pass_chunks`).
-/
import Mathlib.Data.List.Basic
import Mathlib.Algebra.Order.Group.Nat

namespace Chunks

variable {α β σ : Type*}

/-! ### Pieces -/

/-- The pieces of length `n`, and a shorter one at the end if need be. -/
def chunks (n : ℕ) (l : List α) : List (List α) :=
  (List.range ((l.length + n - 1) / n)).map fun k => (l.drop (k * n)).take n

/-- The pieces of length `n`. -/
def chunksExact (n : ℕ) (l : List α) : List (List α) :=
  (List.range (l.length / n)).map fun k => (l.drop (k * n)).take n

section Pieces

variable {n : ℕ} {a l : List α}

@[simp] theorem chunks_nil (n : ℕ) : chunks n ([] : List α) = [] := by
  unfold chunks
  rcases Nat.eq_zero_or_pos n with rfl | hn
  · rw [Nat.div_zero]
    rfl
  · rw [List.length_nil, Nat.zero_add, Nat.div_eq_of_lt (by omega)]
    rfl

theorem chunks_of_short (hpos : 0 < l.length) (hle : l.length ≤ n) : chunks n l = [l] := by
  have hcount : (l.length + n - 1) / n = 1 := by
    apply Nat.div_eq_of_lt_le <;> omega
  unfold chunks
  rw [hcount]
  show [(l.drop (0 * n)).take n] = [l]
  rw [Nat.zero_mul, List.drop_zero, List.take_of_length_le hle]

/-- The pieces after the first one. -/
theorem range_map_succ (ha : a.length = n) (l : List α) (count : ℕ) :
    (List.range (count + 1)).map (fun k => ((a ++ l).drop (k * n)).take n)
      = a :: (List.range count).map fun k => (l.drop (k * n)).take n := by
  rw [List.range_succ_eq_map, List.map_cons, Nat.zero_mul, List.drop_zero,
    List.take_append_of_le_length (Nat.le_of_eq ha.symm), List.take_of_length_le (Nat.le_of_eq ha),
    List.map_map]
  congr 1
  refine List.map_congr_left fun k _ => ?_
  show ((a ++ l).drop ((k + 1) * n)).take n = (l.drop (k * n)).take n
  rw [Nat.succ_mul, Nat.add_comm, ← List.drop_drop, ← ha, List.drop_left]

theorem chunks_append (hn : 0 < n) (ha : a.length = n) (l : List α) :
    chunks n (a ++ l) = a :: chunks n l := by
  have hcount : ((a ++ l).length + n - 1) / n = (l.length + n - 1) / n + 1 := by
    have hsum : (a ++ l).length + n - 1 = l.length + n - 1 + n := by
      rw [List.length_append, ha]
      omega
    rw [hsum, Nat.add_div_right _ hn]
  unfold chunks
  rw [hcount, range_map_succ ha]

theorem chunksExact_of_short (hlt : l.length < n) : chunksExact n l = [] := by
  unfold chunksExact
  rw [Nat.div_eq_of_lt hlt]
  rfl

theorem chunksExact_append (hn : 0 < n) (ha : a.length = n) (l : List α) :
    chunksExact n (a ++ l) = a :: chunksExact n l := by
  unfold chunksExact
  rw [List.length_append, ha, Nat.add_comm n, Nat.add_div_right _ hn, range_map_succ ha]

@[simp] theorem length_chunks (n : ℕ) (l : List α) :
    (chunks n l).length = (l.length + n - 1) / n := by
  rw [chunks, List.length_map, List.length_range]

theorem exists_first_chunk (hn : 0 < n) (hpos : 0 < l.length) : ∃ a, (chunks n l)[0]? = some a := by
  refine ⟨_, List.getElem?_eq_getElem ?_⟩
  rw [length_chunks]
  exact Nat.div_pos (by omega) hn

/-- Induction over a list piece by piece. -/
theorem chunks_induction (hn : 0 < n) {P : List α → Prop} (nil : P [])
    (last : ∀ l, 0 < l.length → l.length < n → P l)
    (append : ∀ a l, a.length = n → P l → P (a ++ l)) (l : List α) : P l := by
  induction h : l.length using Nat.strong_induction_on generalizing l with
  | _ len ih =>
      subst h
      rcases Nat.eq_zero_or_pos l.length with hzero | hpos
      · rw [List.length_eq_zero_iff.mp hzero]
        exact nil
      rcases Nat.lt_or_ge l.length n with hlt | hge
      · exact last l hpos hlt
      · rw [← List.take_append_drop n l]
        refine append _ _ (List.length_take_of_le hge) (ih _ ?_ _ rfl)
        rw [List.length_drop]
        omega

/-- Rows of the same length, one after the other. -/
theorem flatMap_range_map (f : ℕ → α) (rows columns : ℕ) :
    ((List.range rows).flatMap fun y => (List.range columns).map fun x => f (y * columns + x))
      = (List.range (rows * columns)).map f := by
  induction rows with
  | zero =>
      rw [Nat.zero_mul]
      rfl
  | succ rows ih =>
      rw [List.range_succ, List.flatMap_append, List.flatMap_singleton, ih, Nat.succ_mul,
        List.range_add, List.map_append, List.map_map]
      rfl

/-- The pieces of a list made of pieces of the same length. -/
theorem chunksExact_flatten (hn : 0 < n) {L : List (List α)} (hL : ∀ a ∈ L, a.length = n) :
    chunksExact n L.flatten = L := by
  induction L with
  | nil => exact chunksExact_of_short hn
  | cons a L ih =>
      rw [List.flatten_cons, chunksExact_append hn (hL a List.mem_cons_self),
        ih fun b hb => hL b (List.mem_cons_of_mem a hb)]

theorem length_flatten {L : List (List α)} (hL : ∀ a ∈ L, a.length = n) :
    L.flatten.length = L.length * n := by
  rw [List.length_flatten, List.map_eq_replicate_iff.mpr hL, List.sum_replicate_nat]

/-- A list of whole pieces has no shorter one. -/
theorem length_of_mem_chunks (hn : 0 < n) (hdvd : n ∣ l.length) (ha : a ∈ chunks n l) :
    a.length = n := by
  induction l using chunks_induction hn with
  | nil =>
      rw [chunks_nil] at ha
      cases ha
  | last l hpos hlt => exact absurd (Nat.le_of_dvd hpos hdvd) (Nat.not_le_of_lt hlt)
  | append b l hb ih =>
      rw [chunks_append hn hb] at ha
      rcases List.mem_cons.mp ha with rfl | ha
      · exact hb
      · rw [List.length_append, hb, Nat.dvd_add_right (Nat.dvd_refl n)] at hdvd
        exact ih hdvd ha

/-- A piece of a list made of pieces of the same length. -/
theorem take_drop_flatten {L : List (List α)} (hL : ∀ a ∈ L, a.length = n) {k : ℕ}
    (ha : L[k]? = some a) : (L.flatten.drop (k * n)).take n = a := by
  induction L generalizing k with
  | nil => cases ha
  | cons c L ih =>
      have hc := hL c List.mem_cons_self
      cases k with
      | zero =>
          obtain rfl := Option.some.inj ha
          rw [Nat.zero_mul, List.drop_zero, List.flatten_cons, ← hc, List.take_left]
      | succ k =>
          rw [List.flatten_cons, Nat.succ_mul, Nat.add_comm, ← List.drop_drop, ← hc,
            List.drop_left, hc]
          exact ih (fun d hd => hL d (List.mem_cons_of_mem c hd)) ha

end Pieces

/-! ### Passes -/

/-- Put the elements through `f` one after the other. -/
def pass (f : σ → α → σ × β) (s : σ) : List α → σ × List β
  | [] => (s, [])
  | a :: l =>
      let (s, b) := f s a
      let (s, bs) := pass f s l
      (s, b :: bs)

section Passes

variable {f : σ → α → σ × β} {s : σ} {a : α} {l l' : List α}

@[simp] theorem pass_nil : pass f s [] = (s, []) := rfl

@[simp] theorem pass_cons : pass f s (a :: l)
    = ((pass f (f s a).1 l).1, (f s a).2 :: (pass f (f s a).1 l).2) := rfl

theorem pass_append : pass f s (l ++ l')
    = ((pass f (pass f s l).1 l').1, (pass f s l).2 ++ (pass f (pass f s l).1 l').2) := by
  induction l generalizing s with
  | nil => rfl
  | cons a l ih => simp only [List.cons_append, pass_cons, ih]

@[simp] theorem length_pass : (pass f s l).2.length = l.length := by
  induction l generalizing s with
  | nil => rfl
  | cons a l ih => rw [pass_cons, List.length_cons, List.length_cons, ih]

/-- What every step keeps, a pass keeps. -/
theorem pass_invariant {I : σ → Prop} (hstep : ∀ s a, I s → I (f s a).1) (hs : I s) :
    I (pass f s l).1 := by
  induction l generalizing s with
  | nil => exact hs
  | cons a l ih => exact ih (hstep s a hs)

/-- What holds of every output of `f` holds of every output of a pass. -/
theorem mem_pass {Q : β → Prop} (hf : ∀ s a, Q (f s a).2) (s : σ) (l : List α) :
    ∀ b ∈ (pass f s l).2, Q b := by
  induction l generalizing s with
  | nil => exact fun b hb => absurd hb List.not_mem_nil
  | cons a l ih =>
      intro b hb
      rcases List.mem_cons.mp hb with rfl | hb
      · exact hf s a
      · exact ih _ b hb

/-- The output for one element. -/
theorem getElem?_pass {k : ℕ} : (pass f s l).2[k]? =
    l[k]?.map fun a => (f (pass f s (l.take k)).1 a).2 := by
  induction l generalizing s k with
  | nil => rfl
  | cons a l ih =>
      cases k with
      | zero => rfl
      | succ k =>
          rw [pass_cons, List.getElem?_cons_succ, ih, List.getElem?_cons_succ, List.take_succ_cons,
            pass_cons]

end Passes

/-- Loops over the pieces of a list against a loop over its elements: `enc` makes something
of every piece, `dec` follows it, and gives what `turn` gives for the elements.  At the end
it may give more. -/
theorem take_pass_chunks {τ ρ : Type*} {n : ℕ} (hn : 0 < n) {enc : σ → List α → σ × τ}
    {dec : σ → τ → σ × List β} {turn : ρ → α → ρ × β} (queue : σ → ρ)
    (hpiece : ∀ s a, 0 < a.length → a.length ≤ n →
      (dec s (enc s a).2).2.take a.length = (pass turn (queue s) a).2)
    (hfull : ∀ s a, a.length = n → (dec s (enc s a).2).1 = (enc s a).1 ∧
      (dec s (enc s a).2).2.length = n ∧ (pass turn (queue s) a).1 = queue (enc s a).1)
    (s : σ) (l : List α) :
    (pass dec s (pass enc s (chunks n l)).2).2.flatten.take l.length
      = (pass turn (queue s) l).2 := by
  induction l using chunks_induction hn generalizing s with
  | nil =>
      rw [chunks_nil]
      rfl
  | last l hpos hlt =>
      rw [chunks_of_short hpos hlt.le, ← hpiece s l hpos hlt.le]
      simp only [pass_cons, pass_nil, List.flatten_cons, List.flatten_nil, List.append_nil]
  | append a l ha ih =>
      obtain ⟨hstate, hlength, hqueue⟩ := hfull s a ha
      have hout := hpiece s a (ha ▸ hn) ha.le
      rw [List.take_of_length_le (hlength.trans ha.symm).le] at hout
      rw [chunks_append hn ha, pass_cons, pass_cons, List.flatten_cons, List.length_append,
        pass_append, hstate, hqueue, ← ih, hout, List.take_append, length_pass,
        List.take_of_length_le (length_pass.trans_le (Nat.le_add_right _ _)),
        Nat.add_sub_cancel_left]

end Chunks
