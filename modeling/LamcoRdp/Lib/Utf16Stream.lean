/-
LamcoRdp/Lib/Utf16Stream.lean

UTF-16, one unit at a time.

`decodeDropping` reads units and leaves out a surrogate that has no partner.  A decoder that
is fed with the units keeps a high surrogate until the next one comes (`feed`), and makes
the same characters of them (`feedAll_eq`).
-/
import LamcoRdp.Lib.Utf16

namespace Utf16

/-- The text of units, without the surrogates that have no partner. -/
def decodeDropping : List UInt16 → List Char
  | [] => []
  | [u] => if isHigh u || isLow u then [] else [.ofNat u.toNat]
  | u :: v :: units =>
      if isHigh u then
        if isLow v then ofPair u v :: decodeDropping units
        else decodeDropping (v :: units)
      else if isLow u then decodeDropping (v :: units)
      else .ofNat u.toNat :: decodeDropping (v :: units)

/-- One more unit, when `high` waits for its partner: what waits then, and what is
complete. -/
def feed (high : Option UInt16) (u : UInt16) : Option UInt16 × List Char :=
  if isHigh u then (some u, [])
  else if isLow u then (none, (high.map (ofPair · u)).toList)
  else (none, [.ofNat u.toNat])

/-- The decoder after some units. -/
def feedAll (units : List UInt16) : Option UInt16 × List Char :=
  units.foldl (fun s u => ((feed s.1 u).1, s.2 ++ (feed s.1 u).2)) (none, [])

variable {u v : UInt16} {high : Option UInt16}

theorem isLow_eq_false_of_isHigh (h : isHigh u = true) : isLow u = false := by
  rw [isHigh_iff] at h
  rw [Bool.eq_false_iff, ne_eq, isLow_iff]
  omega

/-! ### The reader -/

theorem decodeDropping_pair (hhigh : isHigh u = true) (hlow : isLow v = true)
    (units : List UInt16) :
    decodeDropping (u :: v :: units) = ofPair u v :: decodeDropping units := by
  rw [decodeDropping, if_pos hhigh, if_pos hlow]

theorem decodeDropping_lone_high (hhigh : isHigh u = true) (hlow : isLow v = false)
    (units : List UInt16) :
    decodeDropping (u :: v :: units) = decodeDropping (v :: units) := by
  rw [decodeDropping, if_pos hhigh, if_neg (by simp [hlow])]

theorem decodeDropping_lone_low (hhigh : isHigh u = false) (hlow : isLow u = true)
    (units : List UInt16) : decodeDropping (u :: units) = decodeDropping units := by
  cases units with
  | nil => simp [decodeDropping, hlow]
  | cons v units => simp [decodeDropping, hhigh, hlow]

theorem decodeDropping_cons (hhigh : isHigh u = false) (hlow : isLow u = false)
    (units : List UInt16) :
    decodeDropping (u :: units) = .ofNat u.toNat :: decodeDropping units := by
  cases units with
  | nil => simp [decodeDropping, hhigh, hlow]
  | cons v units => simp [decodeDropping, hhigh, hlow]

/-! ### The decoder -/

theorem feed_high (h : isHigh u = true) (high : Option UInt16) : feed high u = (some u, []) :=
  if_pos h

theorem feed_low (h : isLow u = true) (high : Option UInt16) :
    feed high u = (none, (high.map (ofPair · u)).toList) := by
  have hhigh : isHigh u = false := by
    rw [Bool.eq_false_iff]
    exact fun hhigh => absurd h (by simp [isLow_eq_false_of_isHigh hhigh])
  rw [feed, if_neg (by simp [hhigh]), if_pos h]

theorem feed_other (hhigh : isHigh u = false) (hlow : isLow u = false) (high : Option UInt16) :
    feed high u = (none, [.ofNat u.toNat]) := by
  rw [feed, if_neg (by simp [hhigh]), if_neg (by simp [hlow])]

/-- Only high surrogates wait. -/
theorem isHigh_of_mem_feed {h : UInt16} (hh : h ∈ (feed high u).1) : isHigh h = true := by
  unfold feed at hh
  split_ifs at hh with hu
  · rw [← Option.mem_some_iff.mp hh]
    exact hu
  · cases hh
  · cases hh

/-- Nothing waits behind a character. -/
theorem feed_eq_none (h : (feed high u).2 ≠ []) : (feed high u).1 = none := by
  unfold feed at h ⊢
  split_ifs at h ⊢
  · exact absurd rfl h
  · rfl
  · rfl

/-- What waits is read before the rest. -/
theorem foldl_feed (hhigh : ∀ h ∈ high, isHigh h = true) (out : List Char) (units : List UInt16) :
    (units.foldl (fun s u => ((feed s.1 u).1, s.2 ++ (feed s.1 u).2)) (high, out)).2 =
      out ++ decodeDropping (high.toList ++ units) := by
  induction units generalizing high out with
  | nil =>
      cases high with
      | none => exact (List.append_nil out).symm
      | some h =>
          have hh : isHigh h = true := hhigh h rfl
          simp [decodeDropping, hh]
  | cons u units ih =>
      rw [List.foldl_cons, ih (fun h => isHigh_of_mem_feed)]
      by_cases hu : isHigh u = true
      · -- a high surrogate: the one that waits, if any, is dropped
        rw [feed_high hu, List.append_nil]
        cases high with
        | none => rfl
        | some h =>
            exact congrArg (out ++ ·)
              (decodeDropping_lone_high (hhigh h rfl) (isLow_eq_false_of_isHigh hu) units).symm
      · rw [Bool.not_eq_true] at hu
        -- a low surrogate: with a high one it is a pair, alone it is dropped
        by_cases hl : isLow u = true
        · rw [feed_low hl, List.append_assoc]
          cases high with
          | none => exact congrArg (out ++ ·) (decodeDropping_lone_low hu hl units).symm
          | some h => exact congrArg (out ++ ·) (decodeDropping_pair (hhigh h rfl) hl units).symm
        · -- any other unit is decoded by itself, and drops what waits
          rw [Bool.not_eq_true] at hl
          rw [feed_other hu hl, List.append_assoc]
          cases high with
          | none => exact congrArg (out ++ ·) (decodeDropping_cons hu hl units).symm
          | some h =>
              refine congrArg (out ++ ·) ?_
              exact (decodeDropping_cons hu hl units).symm.trans
                (decodeDropping_lone_high (hhigh h rfl) hl units).symm

theorem feedAll_eq (units : List UInt16) : (feedAll units).2 = decodeDropping units :=
  foldl_feed (fun h hh => by cases hh) [] units

theorem feedAll_snoc (units : List UInt16) (u : UInt16) : feedAll (units ++ [u]) =
    ((feed (feedAll units).1 u).1, (feedAll units).2 ++ (feed (feedAll units).1 u).2) :=
  List.foldl_concat ..

end Utf16
