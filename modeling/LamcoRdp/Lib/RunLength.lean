/-
LamcoRdp/Lib/RunLength.lean

Run-length coded rows.

A row is coded as a list of segments.  A segment is a control symbol, some
symbols to copy, and a number of repetitions of the last symbol of the row so
far; what a control symbol means (how many symbols are copied, how often the
last one is repeated) is the parameter `ctrl`.  `fill` is the reader: it takes
segments until the row has its width and refuses one that does not fit.

`Codes ctrl done code done'` says that `code` is a sequence of segments that
takes the row from `done` to `done'`.  Codes compose (`Codes.append`), a writer
is described by them piece by piece, and `fill_of_codes` is the one place where
they meet the reader.
-/
import Mathlib.Data.List.Basic

namespace RunLength

variable {α : Type*}

/-- The row after a segment that copies `raw` and repeats the last symbol `run`
times; there must be one. -/
def extend (done raw : List α) (run : ℕ) : Option (List α) :=
  if run = 0 then some (done ++ raw)
  else (done ++ raw).getLast?.map fun last => done ++ raw ++ List.replicate run last

/-- Reads segments until the row has `width` symbols: the row, and what is left
of the stream. -/
def fill (ctrl : α → ℕ × ℕ) (width : ℕ) (done stream : List α) :
    Option (List α × List α) :=
  if done.length = width then some (done, stream)
  else
    match stream with
    | [] => none
    | c :: rest =>
        if rest.length < (ctrl c).1 then none
        else
          match extend done (rest.take (ctrl c).1) (ctrl c).2 with
          | none => none
          | some done' =>
              if width < done'.length then none
              else fill ctrl width done' (rest.drop (ctrl c).1)
termination_by stream.length
decreasing_by
  rw [List.length_drop, List.length_cons]
  omega

/-- `code` is a sequence of segments that takes the row from `done` to the last
argument, each of them adding something. -/
inductive Codes (ctrl : α → ℕ × ℕ) : List α → List α → List α → Prop
  | nil (done : List α) : Codes ctrl done [] done
  | cons {done done' done'' raw code : List α} {run : ℕ} (c : α) :
      ctrl c = (raw.length, run) → 0 < raw.length + run → extend done raw run = some done' →
      Codes ctrl done' code done'' → Codes ctrl done (c :: raw ++ code) done''

/-- The repetitions are of the last symbol. -/
theorem extend_of_getLast? {done raw : List α} {last : α} (run : ℕ)
    (h : (done ++ raw).getLast? = some last) :
    extend done raw run = some (done ++ raw ++ List.replicate run last) := by
  rw [extend, h]
  split
  · next hrun =>
      rw [hrun, List.replicate_zero, List.append_nil]
  · rfl

/-- A segment adds its copies and its repetitions. -/
theorem length_of_extend {done raw done' : List α} {run : ℕ}
    (h : extend done raw run = some done') : done'.length = done.length + (raw.length + run) := by
  unfold extend at h
  split at h
  · next hrun =>
      obtain rfl := Option.some.inj h
      rw [hrun, List.length_append, Nat.add_zero]
  · obtain ⟨last, -, rfl⟩ := Option.map_eq_some_iff.mp h
    rw [List.length_append, List.length_append, List.length_replicate, Nat.add_assoc]

section Codes

variable {ctrl : α → ℕ × ℕ} {done done' done'' code code' : List α}

/-- One segment. -/
theorem Codes.single {raw : List α} {run : ℕ} (c : α) (hc : ctrl c = (raw.length, run))
    (hpos : 0 < raw.length + run) (h : extend done raw run = some done') :
    Codes ctrl done (c :: raw) done' := by
  have hone := Codes.cons c hc hpos h (Codes.nil done')
  rwa [List.append_nil] at hone

/-- Codes compose. -/
theorem Codes.append (h : Codes ctrl done code done') (h' : Codes ctrl done' code' done'') :
    Codes ctrl done (code ++ code') done'' := by
  induction h with
  | nil => exact h'
  | cons c hc hpos hext _ ih =>
      rw [List.append_assoc]
      exact .cons c hc hpos hext (ih h')

/-- Codes only add to the row. -/
theorem Codes.length_le (h : Codes ctrl done code done') : done.length ≤ done'.length := by
  induction h with
  | nil => exact Nat.le_refl _
  | cons c _ _ hext _ ih =>
      rw [length_of_extend hext] at ih
      omega

/-- The reader takes codes that fit the width for what they say. -/
theorem fill_append {width : ℕ} (h : Codes ctrl done code done') (hfit : done'.length ≤ width)
    (rest : List α) : fill ctrl width done (code ++ rest) = fill ctrl width done' rest := by
  induction h with
  | nil => rfl
  | @cons done done₁ done₂ raw code run c hc hpos hext htail ih =>
      have hlen := length_of_extend hext
      have hle := htail.length_le
      have hraw : (raw ++ code ++ rest).length = raw.length + (code ++ rest).length := by
        rw [List.append_assoc, List.length_append]
      have htake : (raw ++ code ++ rest).take raw.length = raw := by
        rw [List.append_assoc, List.take_left]
      have hdrop : (raw ++ code ++ rest).drop raw.length = code ++ rest := by
        rw [List.append_assoc, List.drop_left]
      rw [List.cons_append, List.cons_append, fill, if_neg (by omega)]
      simp only [hc]
      rw [if_neg (by omega), htake, hext]
      simp only
      rw [if_neg (by omega), hdrop]
      exact ih hfit

/-- **What is coded is read back**, and nothing behind it is touched. -/
theorem fill_of_codes {width : ℕ} {row : List α} (h : Codes ctrl [] code row)
    (hrow : row.length = width) (rest : List α) :
    fill ctrl width [] (code ++ rest) = some (row, rest) := by
  rw [fill_append h (Nat.le_of_eq hrow), fill.eq_def, if_pos hrow]

end Codes

end RunLength
