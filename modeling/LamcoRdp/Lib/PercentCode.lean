/-
LamcoRdp/Lib/PercentCode.lean

Percent-encoding of text.

A text is written byte by byte, in UTF-8.  A byte that is not ASCII, or that is in the set
of bytes to escape, becomes a `%` and two hexadecimal digits, any other byte the character
that it is.  Reading replaces each `%` with two digits behind it by their byte.

`decodeBytes_encode_append` says that reading undoes writing, whatever the set, if it has the
`%` itself.  `mem_encode` says which characters are left.
-/
import LamcoRdp.Lib.Utf8
import Mathlib.Tactic.IntervalCases

namespace PercentCode

open Utf8

/-! ### Writing -/

/-- The digit of a number below 16. -/
def hexDigit (n : ℕ) : Char := if n < 10 then Char.ofNat (48 + n) else Char.ofNat (55 + n)

/-- A byte as a percent sign and two digits. -/
def escape (b : UInt8) : List Char := ['%', hexDigit (b.toNat / 16), hexDigit (b.toNat % 16)]

/-- A byte stands for itself, unless it is in the set or no ASCII. -/
def encodeByte (set : UInt8 → Bool) (b : UInt8) : List Char :=
  if set b || decide (0x80 ≤ b.toNat) then escape b else [Char.ofNat b.toNat]

/-- The text with the bytes of `set`, and those that are not ASCII, escaped. -/
def encode (set : UInt8 → Bool) (text : List Char) : List Char :=
  (Utf8.encode text).flatMap (encodeByte set)

/-! ### Reading -/

/-- The number of a digit, of either case. -/
def hexValue (c : Char) : Option ℕ :=
  if '0' ≤ c ∧ c ≤ '9' then some (c.toNat - 48)
  else if 'A' ≤ c ∧ c ≤ 'F' then some (c.toNat - 55)
  else if 'a' ≤ c ∧ c ≤ 'f' then some (c.toNat - 87)
  else none

/-- The byte that three characters stand for. -/
def unescape (c a b : Char) : Option UInt8 :=
  if c = '%' then do
    let high ← hexValue a
    let low ← hexValue b
    return .ofNat (16 * high + low)
  else none

/-- The bytes of a text whose escapes are undone; a `%` without digits stands for itself. -/
def decodeBytes : List Char → List UInt8
  | c :: a :: b :: rest =>
      match unescape c a b with
      | some byte => byte :: decodeBytes rest
      | none => String.utf8EncodeChar c ++ decodeBytes (a :: b :: rest)
  | c :: rest => String.utf8EncodeChar c ++ decodeBytes rest
  | [] => []

/-- The text that a percent-encoded one stands for, if it is one. -/
def decode (text : List Char) : Option (List Char) := decode? (decodeBytes text)

/-! ### There and back -/

variable {set : UInt8 → Bool} {b : UInt8} {c : Char} {text : List Char}

theorem hexValue_hexDigit {n : ℕ} (h : n < 16) : hexValue (hexDigit n) = some n := by
  interval_cases n <;> decide

theorem decodeBytes_escape (b : UInt8) (rest : List Char) :
    decodeBytes (escape b ++ rest) = b :: decodeBytes rest := by
  have hlt := b.toNat_lt
  have hhigh := hexValue_hexDigit (n := b.toNat / 16) (by omega)
  have hlow := hexValue_hexDigit (n := b.toNat % 16) (by omega)
  have hbyte : unescape '%' (hexDigit (b.toNat / 16)) (hexDigit (b.toNat % 16)) = some b := by
    rw [unescape, if_pos rfl, hhigh, hlow]
    show some (UInt8.ofNat (16 * (b.toNat / 16) + b.toNat % 16)) = some b
    rw [Nat.div_add_mod, UInt8.ofNat_toNat]
  show decodeBytes ('%' :: _ :: _ :: rest) = _
  rw [decodeBytes, hbyte]

theorem decodeBytes_cons (h : c ≠ '%') (rest : List Char) :
    decodeBytes (c :: rest) = String.utf8EncodeChar c ++ decodeBytes rest := by
  rcases rest with - | ⟨a, - | ⟨b, rest⟩⟩
  · rfl
  · rfl
  · rw [decodeBytes, unescape, if_neg h]

/-- A byte of ASCII is the encoding of its character. -/
theorem utf8EncodeChar_ofNat (h : b.toNat < 0x80) :
    String.utf8EncodeChar (Char.ofNat b.toNat) = [b] := by
  have hchar : (Char.ofNat b.toNat).toNat = b.toNat := toNat_ofNat (Or.inl (by omega))
  rw [encodeChar_one (by omega), hchar, UInt8.ofNat_toNat]

theorem ofNat_toNat_inj (h : b.toNat < 0x80) (hc : Char.ofNat b.toNat = c) : b.toNat = c.toNat := by
  rw [← hc, toNat_ofNat (Or.inl (by omega))]

theorem decodeBytes_flatMap (hpercent : set 0x25 = true) (bytes : List UInt8) (rest : List Char) :
    decodeBytes (bytes.flatMap (encodeByte set) ++ rest) = bytes ++ decodeBytes rest := by
  induction bytes with
  | nil => rfl
  | cons b bytes ih =>
      rw [List.flatMap_cons, List.append_assoc, encodeByte]
      split
      · rw [decodeBytes_escape, ih]
        rfl
      · next hplain =>
          rw [Bool.or_eq_true, decide_eq_true_eq, not_or, Nat.not_le] at hplain
          obtain ⟨hset, hlt⟩ := hplain
          have hne : Char.ofNat b.toNat ≠ '%' := by
            intro heq
            have hb : b = 0x25 := UInt8.toNat_inj.mp (ofNat_toNat_inj hlt heq)
            rw [hb] at hset
            exact hset hpercent
          rw [List.singleton_append, decodeBytes_cons hne, utf8EncodeChar_ofNat hlt, ih]
          rfl

/-- Reading on behind a text that was written. -/
theorem decodeBytes_encode_append (hpercent : set 0x25 = true) (text rest : List Char) :
    decodeBytes (encode set text ++ rest) = Utf8.encode text ++ decodeBytes rest :=
  decodeBytes_flatMap hpercent _ rest

/-- What is left are escapes, and the ASCII bytes that are not in the set. -/
theorem mem_encode (h : c ∈ encode set text) :
    c = '%' ∨ (∃ n < 16, c = hexDigit n) ∨ ∃ b, set b = false ∧ b.toNat = c.toNat := by
  obtain ⟨b, -, hc⟩ := List.mem_flatMap.mp h
  rw [encodeByte] at hc
  split at hc
  · have hlt := b.toNat_lt
    simp only [escape, List.mem_cons, List.not_mem_nil, or_false] at hc
    rcases hc with hc | hc | hc
    · exact .inl hc
    · exact .inr (.inl ⟨_, by omega, hc⟩)
    · exact .inr (.inl ⟨_, by omega, hc⟩)
  · next hplain =>
      rw [Bool.or_eq_true, decide_eq_true_eq, not_or, Nat.not_le, Bool.not_eq_true] at hplain
      exact .inr (.inr ⟨b, hplain.1, ofNat_toNat_inj hplain.2 (List.mem_singleton.mp hc).symm⟩)

/-- A control character that is in the set does not come up. -/
theorem not_mem_encode_of_lt (hc : c.toNat < 0x20) (hset : ∀ b, b.toNat = c.toNat → set b = true) :
    c ∉ encode set text := by
  intro h
  rcases mem_encode h with rfl | ⟨n, hn, rfl⟩ | ⟨b, hb, hbyte⟩
  · exact absurd hc (by decide)
  · have hdigit : ∀ n < 16, ¬ (hexDigit n).toNat < 0x20 := by decide
    exact hdigit n hn hc
  · rw [hset b hbyte] at hb
    cases hb

end PercentCode
