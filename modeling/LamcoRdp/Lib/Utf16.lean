/-
LamcoRdp/Lib/Utf16.lean

UTF-16, written and read.

A character is one unit, or two surrogates.  `decodeLossy` reads units and replaces a
surrogate that has no partner; what is written is read back (`decodeLossy_encode`).

`unitsLe` and `unitsBe` take bytes in pairs, and leave out the last one of an odd number.
-/
import LamcoRdp.Lib.Utf8

namespace Utf16

open Utf8 (replacement)

/-! ### Units -/

/-- A high surrogate. -/
def isHigh (u : UInt16) : Bool := decide (0xD800 ≤ u.toNat) && decide (u.toNat < 0xDC00)

/-- A low surrogate. -/
def isLow (u : UInt16) : Bool := decide (0xDC00 ≤ u.toNat) && decide (u.toNat < 0xE000)

/-- The units of a character. -/
def encodeChar (c : Char) : List UInt16 :=
  if c.toNat < 0x10000 then [.ofNat c.toNat]
  else
    [.ofNat (0xD800 + (c.toNat - 0x10000) / 0x400), .ofNat (0xDC00 + (c.toNat - 0x10000) % 0x400)]

/-- The units of a text. -/
def encode (text : List Char) : List UInt16 := text.flatMap encodeChar

/-- The character of two surrogates. -/
def ofPair (high low : UInt16) : Char :=
  .ofNat (0x10000 + (high.toNat - 0xD800) * 0x400 + (low.toNat - 0xDC00))

/-- The text of units. -/
def decodeLossy : List UInt16 → List Char
  | [] => []
  | [u] => if isHigh u || isLow u then [replacement] else [.ofNat u.toNat]
  | u :: v :: units =>
      if isHigh u then
        if isLow v then ofPair u v :: decodeLossy units
        else replacement :: decodeLossy (v :: units)
      else if isLow u then replacement :: decodeLossy (v :: units)
      else .ofNat u.toNat :: decodeLossy (v :: units)

/-- The units of bytes, the less significant byte first. -/
def unitsLe : List UInt8 → List UInt16
  | lo :: hi :: bytes => .ofNat (hi.toNat * 256 + lo.toNat) :: unitsLe bytes
  | _ => []

/-- The units of bytes, the more significant byte first. -/
def unitsBe : List UInt8 → List UInt16
  | hi :: lo :: bytes => .ofNat (hi.toNat * 256 + lo.toNat) :: unitsBe bytes
  | _ => []

/-- `to_le_bytes` of units. -/
def bytesLe (units : List UInt16) : List UInt8 :=
  units.flatMap fun u => [.ofNat (u.toNat % 256), .ofNat (u.toNat / 256)]

/-! ### What is written is read back -/

section

variable {c : Char} {u : UInt16}

theorem isHigh_iff : isHigh u = true ↔ 0xD800 ≤ u.toNat ∧ u.toNat < 0xDC00 := by
  rw [isHigh, Bool.and_eq_true, decide_eq_true_eq, decide_eq_true_eq]

theorem isLow_iff : isLow u = true ↔ 0xDC00 ≤ u.toNat ∧ u.toNat < 0xE000 := by
  rw [isLow, Bool.and_eq_true, decide_eq_true_eq, decide_eq_true_eq]

/-- A unit that is no surrogate. -/
theorem decodeLossy_cons (hhigh : isHigh u = false) (hlow : isLow u = false)
    (units : List UInt16) : decodeLossy (u :: units) = .ofNat u.toNat :: decodeLossy units := by
  cases units with
  | nil => simp [decodeLossy, hhigh, hlow]
  | cons v units => simp [decodeLossy, hhigh, hlow]

theorem decodeLossy_pair {v : UInt16} (hhigh : isHigh u = true) (hlow : isLow v = true)
    (units : List UInt16) : decodeLossy (u :: v :: units) = ofPair u v :: decodeLossy units := by
  rw [decodeLossy, if_pos hhigh, if_pos hlow]

theorem toNat_ofNat16 {n : ℕ} (h : n < 0x10000) : (UInt16.ofNat n).toNat = n :=
  UInt16.toNat_ofNat_of_lt' h

theorem decodeLossy_encodeChar_append (c : Char) (units : List UInt16) :
    decodeLossy (encodeChar c ++ units) = c :: decodeLossy units := by
  have hscalar := Utf8.toNat_scalar c
  unfold encodeChar
  split_ifs with hsmall
  · have hu := toNat_ofNat16 hsmall
    have hhigh : isHigh (.ofNat c.toNat) = false := by
      rw [Bool.eq_false_iff, ne_eq, isHigh_iff]
      omega
    have hlow : isLow (.ofNat c.toNat) = false := by
      rw [Bool.eq_false_iff, ne_eq, isLow_iff]
      omega
    rw [List.singleton_append, decodeLossy_cons hhigh hlow, hu, Char.ofNat_toNat]
  · have hu := toNat_ofNat16 (show 0xD800 + (c.toNat - 0x10000) / 0x400 < 0x10000 by omega)
    have hv := toNat_ofNat16 (show 0xDC00 + (c.toNat - 0x10000) % 0x400 < 0x10000 by omega)
    rw [List.cons_append, List.singleton_append,
      decodeLossy_pair (isHigh_iff.mpr (by omega)) (isLow_iff.mpr (by omega)), ofPair, hu, hv,
      show 0x10000 + (0xD800 + (c.toNat - 0x10000) / 0x400 - 0xD800) * 0x400 +
        (0xDC00 + (c.toNat - 0x10000) % 0x400 - 0xDC00) = c.toNat by omega, Char.ofNat_toNat]

theorem encode_append (s t : List Char) : encode (s ++ t) = encode s ++ encode t :=
  List.flatMap_append

theorem decodeLossy_encode (text : List Char) : decodeLossy (encode text) = text := by
  induction text with
  | nil => rfl
  | cons c text ih =>
      rw [encode, List.flatMap_cons, decodeLossy_encodeChar_append]
      exact congrArg (c :: ·) ih

theorem bytesLe_append (units units' : List UInt16) :
    bytesLe (units ++ units') = bytesLe units ++ bytesLe units' := List.flatMap_append

/-- Only NUL has a unit of zero. -/
theorem zero_not_mem_encode {text : List Char} (h : '\x00' ∉ text) : 0 ∉ encode text := by
  intro hmem
  obtain ⟨c, hc, hunit⟩ := List.mem_flatMap.mp hmem
  have hscalar := Utf8.toNat_scalar c
  unfold encodeChar at hunit
  split_ifs at hunit with hsmall
  · have hu := toNat_ofNat16 hsmall
    rw [← List.mem_singleton.mp hunit, UInt16.toNat_zero] at hu
    exact h (Char.toNat_inj.mp (show c.toNat = ('\x00').toNat from hu.symm) ▸ hc)
  · have hu := toNat_ofNat16 (show 0xD800 + (c.toNat - 0x10000) / 0x400 < 0x10000 by omega)
    have hv := toNat_ofNat16 (show 0xDC00 + (c.toNat - 0x10000) % 0x400 < 0x10000 by omega)
    simp only [List.mem_cons, List.not_mem_nil, or_false] at hunit
    rcases hunit with hunit | hunit
    · rw [← hunit, UInt16.toNat_zero] at hu
      omega
    · rw [← hunit, UInt16.toNat_zero] at hv
      omega

theorem unitsLe_bytesLe_append (units : List UInt16) (bytes : List UInt8) :
    unitsLe (bytesLe units ++ bytes) = units ++ unitsLe bytes := by
  induction units with
  | nil => rfl
  | cons u units ih =>
      have hu := u.toNat_lt
      have hlo : (UInt8.ofNat (u.toNat % 256)).toNat = u.toNat % 256 :=
        UInt8.toNat_ofNat_of_lt' (show u.toNat % 256 < 256 by omega)
      have hhi : (UInt8.ofNat (u.toNat / 256)).toNat = u.toNat / 256 :=
        UInt8.toNat_ofNat_of_lt' (show u.toNat / 256 < 256 by omega)
      show .ofNat ((UInt8.ofNat (u.toNat / 256)).toNat * 256 + (UInt8.ofNat (u.toNat % 256)).toNat)
        :: unitsLe (bytesLe units ++ bytes) = u :: (units ++ unitsLe bytes)
      rw [ih, hlo, hhi, show u.toNat / 256 * 256 + u.toNat % 256 = u.toNat by omega,
        UInt16.ofNat_toNat]

end

end Utf16
