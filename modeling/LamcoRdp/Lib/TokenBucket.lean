/-
LamcoRdp/Lib/TokenBucket.lean

Token buckets.

A bucket earns tokens at a rate, up to its capacity, and a call is accepted if there is a token
to be spent on it.  What is spent in a window is at most what there was plus what was earned,
so that a window of length `T` has at most `T * rate + capacity` accepted calls
(`count_accepted_le`).  Calls that leave no more time between them than a token takes let no
token be lost, so that a window that begins with an accepted call has almost as many
(`le_count_accepted`).

Both are an induction on the calls that carries a potential: what may, or must, still be
accepted in the window.
-/
import Mathlib.Algebra.Order.Field.Basic
import Mathlib.Algebra.Order.Ring.Cast
import Mathlib.Data.List.Chain
import Mathlib.Tactic.Linarith
import Mathlib.Tactic.Ring

/-- The tokens, and when they were last counted. -/
structure TokenBucket (F : Type*) where
  time : F
  tokens : F

namespace TokenBucket

variable {F : Type*} [Field F] [LinearOrder F]

/-- The tokens are counted, and one is spent if there is one. -/
def call (rate capacity : F) (b : TokenBucket F) (now : F) : TokenBucket F × Bool :=
  let tokens := min (b.tokens + (now - b.time) * rate) capacity
  if 1 ≤ tokens then (⟨now, tokens - 1⟩, true) else (⟨now, tokens⟩, false)

/-- The bucket after some calls. -/
def run (rate capacity : F) (b : TokenBucket F) (times : List F) : TokenBucket F :=
  times.foldl (fun b now => (b.call rate capacity now).1) b

/-- The times of the calls that are accepted. -/
def accepted (rate capacity : F) (b : TokenBucket F) : List F → List F
  | [] => []
  | now :: times =>
      if (b.call rate capacity now).2 then
        now :: accepted rate capacity (b.call rate capacity now).1 times
      else accepted rate capacity (b.call rate capacity now).1 times

variable {rate capacity now a T : F} {b : TokenBucket F} {times : List F}

/-! ### One call -/

/-- A call is accepted with a token, and refused without one. -/
theorem call_cases (rate capacity : F) (b : TokenBucket F) (now : F) :
    (1 ≤ min (b.tokens + (now - b.time) * rate) capacity ∧
      b.call rate capacity now =
        (⟨now, min (b.tokens + (now - b.time) * rate) capacity - 1⟩, true)) ∨
    (min (b.tokens + (now - b.time) * rate) capacity < 1 ∧
      b.call rate capacity now =
        (⟨now, min (b.tokens + (now - b.time) * rate) capacity⟩, false)) := by
  unfold call
  by_cases h : 1 ≤ min (b.tokens + (now - b.time) * rate) capacity
  · exact .inl ⟨h, if_pos h⟩
  · exact .inr ⟨not_le.mp h, if_neg h⟩

/-- What a call costs. -/
def cost (accepted : Bool) : F := if accepted then 1 else 0

@[simp] theorem call_time (rate capacity : F) (b : TokenBucket F) (now : F) :
    (b.call rate capacity now).1.time = now := by
  rcases call_cases rate capacity b now with ⟨-, h⟩ | ⟨-, h⟩ <;> rw [h]

/-- What is there after a call and what it cost were there before it or have been earned, up
to the capacity. -/
theorem tokens_add_cost (rate capacity : F) (b : TokenBucket F) (now : F) :
    (b.call rate capacity now).1.tokens + cost (b.call rate capacity now).2 =
      min (b.tokens + (now - b.time) * rate) capacity := by
  rcases call_cases rate capacity b now with ⟨-, h⟩ | ⟨-, h⟩
  · rw [h]
    exact sub_add_cancel _ _
  · rw [h]
    exact add_zero _

/-- How many of the times are in the window of length `T` that begins at `a`. -/
def countIn (a T : F) (times : List F) : ℕ := times.countP fun t => decide (a ≤ t ∧ t ≤ a + T)

theorem countIn_accepted_cons (rate capacity : F) (b : TokenBucket F) (now : F) (times : List F) :
    (countIn a T (b.accepted rate capacity (now :: times)) : F) =
      cost ((b.call rate capacity now).2 && decide (a ≤ now ∧ now ≤ a + T)) +
        countIn a T ((b.call rate capacity now).1.accepted rate capacity times) := by
  rw [accepted]
  cases (b.call rate capacity now).2 with
  | false => exact (zero_add _).symm
  | true =>
      rw [if_pos rfl, countIn, List.countP_cons, Bool.true_and, Nat.cast_add, add_comm, countIn]
      congr 1
      cases decide (a ≤ now ∧ now ≤ a + T) with
      | true => exact Nat.cast_one
      | false => exact Nat.cast_zero

/-- An accepted call, and what comes after it. -/
theorem accepted_split (h : a ∈ b.accepted rate capacity times) : ∃ pre post,
    ∃ b' b'' : TokenBucket F, times = pre ++ a :: post ∧
      b'.call rate capacity a = (b'', true) ∧ ∃ before, b.accepted rate capacity times =
        before ++ a :: b''.accepted rate capacity post := by
  induction times generalizing b with
  | nil => cases h
  | cons now times ih =>
      rw [accepted] at h ⊢
      cases hcall : (b.call rate capacity now).2 with
      | true =>
          rw [hcall, if_pos rfl] at h
          rcases List.mem_cons.mp h with rfl | h
          · exact ⟨[], times, b, _, rfl, Prod.ext rfl hcall, [], rfl⟩
          · obtain ⟨pre, post, b', b'', rfl, hb', before, hbefore⟩ := ih h
            exact ⟨now :: pre, post, b', b'', rfl, hb', now :: before, by
              rw [hbefore]
              rfl⟩
      | false =>
          rw [hcall] at h
          obtain ⟨pre, post, b', b'', rfl, hb', before, hbefore⟩ := ih h
          exact ⟨now :: pre, post, b', b'', rfl, hb', before, hbefore⟩

variable [IsStrictOrderedRing F]

theorem cost_nonneg (accepted : Bool) : (0 : F) ≤ cost accepted := by
  cases accepted with
  | true => exact zero_le_one
  | false => exact le_refl 0

theorem tokens_nonneg (hrate : 0 ≤ rate) (hcapacity : 0 ≤ capacity) (htokens : 0 ≤ b.tokens)
    (hclock : b.time ≤ now) : 0 ≤ (b.call rate capacity now).1.tokens := by
  have hearned : 0 ≤ (now - b.time) * rate := mul_nonneg (sub_nonneg.mpr hclock) hrate
  rcases call_cases rate capacity b now with ⟨hone, h⟩ | ⟨-, h⟩
  · rw [h]
    exact sub_nonneg.mpr hone
  · rw [h]
    exact le_min (add_nonneg htokens hearned) hcapacity

theorem tokens_le (rate capacity : F) (b : TokenBucket F) (now : F) :
    (b.call rate capacity now).1.tokens ≤ capacity := by
  have hsum := tokens_add_cost rate capacity b now
  have hcost := cost_nonneg (F := F) (b.call rate capacity now).2
  have hmin := min_le_right (b.tokens + (now - b.time) * rate) capacity
  linarith

/-- The tokens stay between nothing and the capacity. -/
theorem run_tokens_mem (hrate : 0 ≤ rate) (hcapacity : 0 ≤ capacity) (hlo : 0 ≤ b.tokens)
    (hhi : b.tokens ≤ capacity) (hclock : (b.time :: times).Pairwise (· ≤ ·)) :
    0 ≤ (b.run rate capacity times).tokens ∧ (b.run rate capacity times).tokens ≤ capacity := by
  induction times generalizing b with
  | nil => exact ⟨hlo, hhi⟩
  | cons now times ih =>
      obtain ⟨hnow, hrest⟩ := List.pairwise_cons.mp hclock
      refine ih (tokens_nonneg hrate hcapacity hlo (hnow now List.mem_cons_self))
        (tokens_le rate capacity b now) ?_
      rw [call_time]
      exact hrest

/-! ### Windows -/

/-- What may still be accepted in the window. -/
def mayAccept (rate capacity a T : F) (b : TokenBucket F) : F :=
  if b.time < a then T * rate + capacity
  else if b.time ≤ a + T then b.tokens + (a + T - b.time) * rate
  else 0

theorem mayAccept_nonneg (hrate : 0 ≤ rate) (hcapacity : 0 ≤ capacity) (hT : 0 ≤ T)
    (htokens : 0 ≤ b.tokens) : 0 ≤ mayAccept rate capacity a T b := by
  unfold mayAccept
  split_ifs with hbefore hin
  · exact add_nonneg (mul_nonneg hT hrate) hcapacity
  · exact add_nonneg htokens (mul_nonneg (sub_nonneg.mpr hin) hrate)
  · exact le_refl 0

theorem mayAccept_le (hrate : 0 ≤ rate) (hcapacity : 0 ≤ capacity) (hT : 0 ≤ T)
    (htokens : b.tokens ≤ capacity) : mayAccept rate capacity a T b ≤ T * rate + capacity := by
  unfold mayAccept
  split_ifs with hbefore hin
  · exact le_refl _
  · have hrest : (a + T - b.time) * rate ≤ T * rate :=
      mul_le_mul_of_nonneg_right (by linarith) hrate
    linarith
  · exact add_nonneg (mul_nonneg hT hrate) hcapacity

/-- A call takes what it costs from what may be accepted. -/
theorem mayAccept_call (hrate : 0 ≤ rate) (hcapacity : 0 ≤ capacity) (hT : 0 ≤ T)
    (htokens : 0 ≤ b.tokens) (hclock : b.time ≤ now) :
    cost ((b.call rate capacity now).2 && decide (a ≤ now ∧ now ≤ a + T)) +
      mayAccept rate capacity a T (b.call rate capacity now).1 ≤ mayAccept rate capacity a T b := by
  have hsum := tokens_add_cost rate capacity b now
  have hleft := min_le_left (b.tokens + (now - b.time) * rate) capacity
  have hright := min_le_right (b.tokens + (now - b.time) * rate) capacity
  rcases lt_or_ge now a with hbefore | hafter
  · -- before the window
    have hout : decide (a ≤ now ∧ now ≤ a + T) = false :=
      decide_eq_false fun h => not_le.mpr hbefore h.1
    rw [hout, Bool.and_false, mayAccept, mayAccept, call_time, if_pos hbefore,
      if_pos (hclock.trans_lt hbefore)]
    exact (zero_add _).le
  · rcases le_or_gt now (a + T) with hin | hlate
    · -- in the window: one token less, and what is earned from now on
      rw [decide_eq_true ⟨hafter, hin⟩, Bool.and_true, mayAccept, call_time,
        if_neg (not_lt.mpr hafter), if_pos hin, mayAccept]
      rcases lt_or_ge b.time a with hfirst | hinside
      · have hrest : (a + T - now) * rate ≤ T * rate :=
          mul_le_mul_of_nonneg_right (by linarith) hrate
        rw [if_pos hfirst]
        linarith
      · rw [if_neg (not_lt.mpr hinside), if_pos (hclock.trans hin)]
        have hsplit : (a + T - b.time) * rate =
            (now - b.time) * rate + (a + T - now) * rate := by ring
        linarith
    · -- after the window
      have hout : decide (a ≤ now ∧ now ≤ a + T) = false :=
        decide_eq_false fun h => not_le.mpr hlate h.2
      rw [hout, Bool.and_false, mayAccept, call_time, if_neg (not_lt.mpr hafter),
        if_neg (not_le.mpr hlate)]
      exact (add_zero _).le.trans (mayAccept_nonneg hrate hcapacity hT htokens)

/-- No more is accepted in the window than may be. -/
theorem countIn_accepted_le (hrate : 0 ≤ rate) (hcapacity : 0 ≤ capacity) (hT : 0 ≤ T)
    (htokens : 0 ≤ b.tokens) (hclock : (b.time :: times).Pairwise (· ≤ ·)) :
    (countIn a T (b.accepted rate capacity times) : F) ≤ mayAccept rate capacity a T b := by
  induction times generalizing b with
  | nil => exact Nat.cast_zero.le.trans (mayAccept_nonneg hrate hcapacity hT htokens)
  | cons now times ih =>
      obtain ⟨hnow, hrest⟩ := List.pairwise_cons.mp hclock
      have hle := hnow now List.mem_cons_self
      have htail := ih (tokens_nonneg hrate hcapacity htokens hle) (by rwa [call_time])
      have hstep := mayAccept_call (a := a) hrate hcapacity hT htokens hle
      rw [countIn_accepted_cons]
      linarith

/-- **No window has too many**: what may be stored, and what is earned in its time. -/
theorem count_accepted_le (hrate : 0 ≤ rate) (hcapacity : 0 ≤ capacity) (hT : 0 ≤ T)
    (hlo : 0 ≤ b.tokens) (hhi : b.tokens ≤ capacity)
    (hclock : (b.time :: times).Pairwise (· ≤ ·)) :
    (countIn a T (b.accepted rate capacity times) : F) ≤ T * rate + capacity :=
  (countIn_accepted_le hrate hcapacity hT hlo hclock).trans
    (mayAccept_le hrate hcapacity hT hhi)

/-! ### Dense calls -/

/-- Calls between which no more than one token is earned. -/
def Dense (rate : F) (times : List F) : Prop :=
  times.IsChain fun s t => (t - s) * rate ≤ 1

/-- Where no more than a token is earned, none is lost, and there is room for one more. -/
theorem call_dense (hcapacity : 2 ≤ capacity) (htokens : b.tokens ≤ capacity - 1)
    (hearned : (now - b.time) * rate ≤ 1) :
    (b.call rate capacity now).1.tokens + cost (b.call rate capacity now).2 =
        b.tokens + (now - b.time) * rate ∧
      (b.call rate capacity now).1.tokens ≤ capacity - 1 := by
  have hmin : min (b.tokens + (now - b.time) * rate) capacity =
      b.tokens + (now - b.time) * rate := min_eq_left (by linarith)
  constructor
  · rw [tokens_add_cost, hmin]
  · rcases call_cases rate capacity b now with ⟨-, h⟩ | ⟨hlt, h⟩
    · rw [h, hmin]
      show b.tokens + (now - b.time) * rate - 1 ≤ capacity - 1
      linarith
    · rw [h]
      show min (b.tokens + (now - b.time) * rate) capacity ≤ capacity - 1
      linarith

/-- What must still be accepted, after a call in the window. -/
theorem le_countIn_accepted (hcapacity : 2 ≤ capacity) (hrate : 0 ≤ rate)
    (htokens : b.tokens ≤ capacity - 1) (hafter : a ≤ b.time)
    (hclock : (b.time :: times).Pairwise (· ≤ ·)) (hdense : Dense rate (b.time :: times))
    (hend : ∀ last ∈ (b.time :: times).getLast?, (a + T - last) * rate ≤ 1) :
    b.tokens + (a + T - b.time) * rate - capacity ≤
      countIn a T (b.accepted rate capacity times) := by
  induction times generalizing b with
  | nil =>
      have hlast := hend b.time rfl
      have hzero : (countIn a T (b.accepted rate capacity []) : F) = 0 := Nat.cast_zero
      linarith
  | cons now times ih =>
      obtain ⟨hnow, hrest⟩ := List.pairwise_cons.mp hclock
      obtain ⟨hearned, hdense⟩ := List.isChain_cons_cons.mp hdense
      obtain ⟨htotal, hroom⟩ := call_dense hcapacity htokens hearned
      have hle := hnow now List.mem_cons_self
      rcases le_or_gt now (a + T) with hin | hlate
      · have htail := ih (b := (b.call rate capacity now).1) hroom
          (by rw [call_time]; exact hafter.trans hle) (by rwa [call_time])
          (by rwa [call_time]) (by rwa [call_time])
        rw [call_time] at htail
        have hsplit : (a + T - b.time) * rate =
            (now - b.time) * rate + (a + T - now) * rate := by ring
        rw [countIn_accepted_cons, decide_eq_true ⟨hafter.trans hle, hin⟩, Bool.and_true]
        linarith
      · -- the window ends before the next call
        have hrest : (a + T - b.time) * rate ≤ (now - b.time) * rate :=
          mul_le_mul_of_nonneg_right (by linarith) hrate
        have hcount : (0 : F) ≤ countIn a T (b.accepted rate capacity (now :: times)) :=
          Nat.cast_nonneg _
        linarith

/-- **Dense calls are not starved**: a window that begins with an accepted call has as many as
are earned in its time, less what may be left at its end. -/
theorem le_count_accepted (hrate : 0 ≤ rate) (hcapacity : 2 ≤ capacity) (hT : 0 ≤ T)
    (hclock : times.Pairwise (· ≤ ·)) (hdense : Dense rate times)
    (hend : ∀ last ∈ times.getLast?, (a + T - last) * rate ≤ 1)
    (ha : a ∈ b.accepted rate capacity times) :
    T * rate + 1 - capacity ≤ countIn a T (b.accepted rate capacity times) := by
  -- the run splits at the accepted call at `a`
  obtain ⟨pre, post, b', b'', rfl, hb', before, hbefore⟩ := accepted_split ha
  have htime : b''.time = a := by
    have htime := call_time rate capacity b' a
    rwa [hb'] at htime
  -- the call took one token, so at most `capacity - 1` are left
  have htokens : 0 ≤ b''.tokens ∧ b''.tokens ≤ capacity - 1 := by
    rcases call_cases rate capacity b' a with ⟨hone, h⟩ | ⟨-, h⟩
    · rw [hb'] at h
      obtain rfl := congrArg Prod.fst h
      exact ⟨sub_nonneg.mpr hone, sub_le_sub_right (min_le_right _ _) 1⟩
    · rw [hb'] at h
      cases congrArg Prod.snd h
  have hclock' : (b''.time :: post).Pairwise (· ≤ ·) := by
    rw [htime]
    exact (List.pairwise_append.mp hclock).2.1
  have hdense' : Dense rate (b''.time :: post) := by
    rw [htime]
    exact (List.isChain_append.mp hdense).2.1
  have hend' : ∀ last ∈ (b''.time :: post).getLast?, (a + T - last) * rate ≤ 1 := by
    intro last hlast
    refine hend last ?_
    rw [List.getLast?_append, ← htime]
    rw [Option.mem_def] at hlast
    rw [hlast]
    rfl
  -- the bound for the calls after it
  have hrest :=
    le_countIn_accepted (T := T) hcapacity hrate htokens.2 htime.ge hclock' hdense' hend'
  -- the call at `a` itself is one more
  have hfirst : (countIn a T (b.accepted rate capacity (pre ++ a :: post)) : F) =
      countIn a T before + (1 + countIn a T (b''.accepted rate capacity post)) := by
    have hin : countIn a T (a :: b''.accepted rate capacity post) =
        countIn a T (b''.accepted rate capacity post) + 1 :=
      List.countP_cons_of_pos (decide_eq_true ⟨le_refl a, le_add_of_nonneg_right hT⟩)
    rw [hbefore, countIn, List.countP_append, ← countIn, ← countIn, hin, Nat.cast_add,
      Nat.cast_succ, add_comm _ 1]
  have hbefore0 : (0 : F) ≤ countIn a T before := Nat.cast_nonneg _
  have hspan : (a + T - b''.time) * rate = T * rate := by
    rw [htime]
    ring
  rw [hfirst]
  linarith [htokens.1]

end TokenBucket
