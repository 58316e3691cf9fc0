/-
LamcoRdp/Lib/Pairing.lean

Logs in which every opening is closed before the next one.

A log is a list of marks.  `pairs ids` is the log in which the identifiers `ids` are
opened and closed one after the other.  `scan` reads a log from the left and keeps what
is open, or fails: where it succeeds, the log is some pairs and the opening that is open
(`log_of_scan`), so it ends with nothing open exactly on the logs that are some pairs
(`scan_eq_closed`).  Whatever is appended to a log on which it failed, it fails again.
-/
import Mathlib.Data.List.Induction

namespace Pairing

/-- An entry of the log: something has opened, or closed. -/
inductive Mark (ι : Type*)
  | opened (id : ι)
  | closed (id : ι)
  deriving DecidableEq, Repr

variable {ι : Type*}

/-- Each identifier is opened and closed again, in this order. -/
def pairs (ids : List ι) : List (Mark ι) := ids.flatMap fun id => [.opened id, .closed id]

theorem pairs_snoc (ids : List ι) (id : ι) :
    pairs (ids ++ [id]) = pairs ids ++ [.opened id] ++ [.closed id] := by
  rw [pairs, List.flatMap_append, List.flatMap_singleton, List.append_assoc]
  rfl

variable [DecidableEq ι]

/-- What is open after one more mark; `none` once the log has gone wrong. -/
def advance : Option (Option ι) → Mark ι → Option (Option ι)
  | some none, .opened id => some (some id)
  | some (some current), .closed id => if current = id then some none else none
  | _, _ => none

/-- What is open behind a log; `none` if it does not pair up. -/
def scan (log : List (Mark ι)) : Option (Option ι) := log.foldl advance (some none)

@[simp] theorem advance_none (m : Mark ι) : advance none m = none := by
  cases m <;> rfl

@[simp] theorem advance_opened (current : Option ι) (id : ι) :
    advance (some current) (.opened id) = if current = none then some (some id) else none := by
  cases current <;> rfl

@[simp] theorem advance_closed (current : Option ι) (id : ι) :
    advance (some current) (.closed id) = if current = some id then some none else none := by
  rcases current with - | i
  · rfl
  · by_cases h : i = id
    · simp [advance, h]
    · simp [advance, h]

theorem scan_snoc (log : List (Mark ι)) (m : Mark ι) :
    scan (log ++ [m]) = advance (scan log) m := by
  rw [scan, List.foldl_append]
  rfl

theorem scan_pairs (ids : List ι) : scan (pairs ids) = some none := by
  induction ids using List.reverseRecOn with
  | nil => rfl
  | append_singleton ids id ih =>
      rw [pairs_snoc, scan_snoc, scan_snoc, ih]
      simp

/-- A log on which the scan succeeds is some pairs, and the opening that is open. -/
theorem log_of_scan {log : List (Mark ι)} {current : Option ι} (h : scan log = some current) :
    ∃ ids, log = pairs ids ++ (current.map Mark.opened).toList := by
  induction log using List.reverseRecOn generalizing current with
  | nil =>
      obtain rfl := Option.some.inj h
      exact ⟨[], rfl⟩
  | append_singleton log m ih =>
      rw [scan_snoc] at h
      rcases hlog : scan log with - | before
      · rw [hlog, advance_none] at h
        cases h
      obtain ⟨ids, rfl⟩ := ih hlog
      rw [hlog] at h
      rcases m with id | id
      · rw [advance_opened] at h
        obtain ⟨rfl, hnext⟩ := Option.ite_none_right_eq_some.mp h
        obtain rfl := Option.some.inj hnext
        exact ⟨ids, by simp⟩
      · rw [advance_closed] at h
        obtain ⟨rfl, hnext⟩ := Option.ite_none_right_eq_some.mp h
        obtain rfl := Option.some.inj hnext
        exact ⟨ids ++ [id], by simp [pairs_snoc]⟩

theorem scan_eq_closed {log : List (Mark ι)} :
    scan log = some none ↔ ∃ ids, log = pairs ids := by
  constructor
  · intro h
    obtain ⟨ids, hlog⟩ := log_of_scan h
    exact ⟨ids, hlog.trans (List.append_nil _)⟩
  · rintro ⟨ids, rfl⟩
    exact scan_pairs ids

end Pairing
