/-
LamcoRdp/Clipboard/TextReadings.lean

When the two ways of reading a text answer give the same text.

`eagerText` takes an answer for UTF-16; `decodeText` looks for marks and for raw UTF-8
first.  They read the same text exactly if there is nothing to be found
(`decodeText_eq_iff`), but for two kinds of short answers.

That a payload cannot be read alike as UTF-8 and as UTF-16 is decided by its length.  The
bytes of a character between U+0800 and U+FFFF are such that any two of them are again the
unit of such a character.  If the two readings began alike, the bytes of the first
characters, three for each, would give more characters of two bytes each, which would have
to be there as UTF-8 again, and so on for ever (`ne_of_reads`).
-/
import LamcoRdp.Clipboard.TextPayload

namespace LamcoRdp

open Checked Utf8

/-! ### Units of a payload -/

/-- A unit that is no surrogate is a character. -/
theorem eagerText_cons {lo hi : UInt8} (hne : hi ≠ 0 ∨ lo ≠ 0)
    (hscalar : hi.toNat < 0xD8 ∨ 0xE0 ≤ hi.toNat) (data : Bytes) :
    eagerText (lo :: hi :: data) = .ofNat (hi.toNat * 256 + lo.toNat) :: eagerText data := by
  have hhi := hi.toNat_lt
  have hlo := lo.toNat_lt
  have hunit := Utf16.toNat_ofNat16 (show hi.toNat * 256 + lo.toNat < 0x10000 by omega)
  have hzero : (UInt16.ofNat (hi.toNat * 256 + lo.toNat) != 0) = true := by
    rw [bne_iff_ne]
    intro h
    have h := congrArg UInt16.toNat h
    rw [hunit, UInt16.toNat_zero] at h
    rcases hne with hne | hne
    · exact hne (UInt8.toNat_inj.mp (show hi.toNat = (0 : UInt8).toNat by
        rw [UInt8.toNat_zero]; omega))
    · exact hne (UInt8.toNat_inj.mp (show lo.toNat = (0 : UInt8).toNat by
        rw [UInt8.toNat_zero]; omega))
  unfold eagerText
  rw [Utf16.unitsLe, List.takeWhile_cons_of_pos (p := fun u => u != 0) hzero,
    Utf16.decodeLossy_cons, hunit]
  · rw [Bool.eq_false_iff, ne_eq, Utf16.isHigh_iff]
    omega
  · rw [Bool.eq_false_iff, ne_eq, Utf16.isLow_iff]
    omega

/-- The first character of units is the first unit, unless this is a surrogate. -/
theorem head_decodeLossy (u : UInt16) (units : List UInt16) :
    ∃ c text, Utf16.decodeLossy (u :: units) = c :: text ∧
      (c = .ofNat u.toNat ∧ ¬ (0xD800 ≤ u.toNat ∧ u.toNat < 0xE000) ∨
        c = replacement ∨ 0x10000 ≤ c.toNat) := by
  have hu := u.toNat_lt
  rcases hhigh : Utf16.isHigh u with - | -
  · rcases hlow : Utf16.isLow u with - | -
    · -- no surrogate at all
      refine ⟨_, _, Utf16.decodeLossy_cons hhigh hlow units, Or.inl ⟨rfl, ?_⟩⟩
      rw [Bool.eq_false_iff, ne_eq, Utf16.isHigh_iff] at hhigh
      rw [Bool.eq_false_iff, ne_eq, Utf16.isLow_iff] at hlow
      omega
    · -- a low surrogate alone
      refine ⟨replacement, ?_, ?_, Or.inr (Or.inl rfl)⟩
      · exact Utf16.decodeLossy units
      · cases units with
        | nil => simp [Utf16.decodeLossy, hlow]
        | cons v units => simp [Utf16.decodeLossy, hhigh, hlow]
  · -- a high surrogate: it is alone, or it has its low one behind it
    cases units with
    | nil => exact ⟨replacement, [], by simp [Utf16.decodeLossy, hhigh], Or.inr (Or.inl rfl)⟩
    | cons v units =>
        rcases hpair : Utf16.isLow v with - | -
        · exact ⟨replacement, _, by simp [Utf16.decodeLossy, hhigh, hpair]; rfl,
            Or.inr (Or.inl rfl)⟩
        · refine ⟨_, _, Utf16.decodeLossy_pair hhigh hpair units, Or.inr (Or.inr ?_)⟩
          rw [Utf16.isHigh_iff] at hhigh
          rw [Utf16.isLow_iff] at hpair
          rw [Utf16.ofPair, toNat_ofNat (by omega)]
          omega

/-- Behind a mark, there is no other. -/
theorem head_decodeUtf16 {data : Bytes} {bigEndian : Bool} {c : Char} {text : List Char}
    (h : decodeUtf16 data bigEndian = c :: text) : c ≠ '\uFEFF' ∧ c ≠ '\uFFFE' := by
  unfold decodeUtf16 at h
  dsimp only at h
  generalize hunits : (if bigEndian = true then Utf16.unitsBe data else Utf16.unitsLe data)
    = units at h
  -- the text opens with the first unit that is no mark
  rcases hrest : units.dropWhile isMark with - | ⟨u, rest⟩
  · rw [hrest] at h
    cases h
  have hmark : isMark u = false := by
    have hhead := List.head?_dropWhile_not isMark units
    rw [hrest] at hhead
    exact hhead
  rw [hrest, List.takeWhile_cons] at h
  split_ifs at h
  · obtain ⟨d, text', hd, hcases⟩ := head_decodeLossy u (rest.takeWhile fun u => u != 0)
    obtain ⟨rfl, -⟩ := List.cons.inj (hd.symm.trans h)
    simp only [isMark, Bool.or_eq_false_iff, beq_eq_false_iff_ne, ne_eq] at hmark
    -- a character of one unit would have been a mark, and the other two kinds are none
    rcases hcases with ⟨rfl, hscalar⟩ | rfl | hlarge
    · have hu := u.toNat_lt
      have hvalue := toNat_ofNat (n := u.toNat) (by omega)
      constructor
      · rintro heq
        rw [heq] at hvalue
        exact hmark.1 (UInt16.toNat_inj.mp hvalue.symm)
      · rintro heq
        rw [heq] at hvalue
        exact hmark.2 (UInt16.toNat_inj.mp hvalue.symm)
    · decide
    · constructor
      · rintro rfl
        exact absurd hlarge (by decide)
      · rintro rfl
        exact absurd hlarge (by decide)
  · cases h

/-! ### Bytes that are read as characters in both ways -/

/-- A byte of a character between U+0800 and U+FFFF. -/
def IsMid (b : UInt8) : Prop :=
  0x80 ≤ b.toNat ∧ b.toNat < 0xC0 ∨ 0xE0 ≤ b.toNat ∧ b.toNat < 0xF0

/-- A character that is a unit of such bytes. -/
def IsWide (c : Char) : Prop :=
  0x8000 ≤ c.toNat ∧ c.toNat < 0xC000 ∨ 0xE000 ≤ c.toNat ∧ c.toNat < 0xF000

theorem IsWide.bounds {c : Char} (h : IsWide c) : 0x800 ≤ c.toNat ∧ c.toNat < 0x10000 := by
  unfold IsWide at h
  omega

theorem IsWide.ne_replacement {c : Char} (h : IsWide c) : c ≠ replacement := by
  rintro rfl
  revert h
  unfold IsWide
  decide

theorem encode_mid {text : List Char} (h : ∀ c ∈ text, 0x800 ≤ c.toNat ∧ c.toNat < 0x10000) :
    (encode text).length = 3 * text.length ∧ ∀ b ∈ encode text, IsMid b := by
  induction text with
  | nil => exact ⟨rfl, fun b hb => absurd hb List.not_mem_nil⟩
  | cons c text ih =>
      obtain ⟨hlen, hmid⟩ := ih fun d hd => h d (List.mem_cons_of_mem c hd)
      obtain ⟨hlo, hhi⟩ := h c List.mem_cons_self
      -- three bytes a character, each of them in the middle range
      rw [encode_cons, encodeChar_three hlo hhi]
      constructor
      · rw [List.length_append, hlen, List.length_cons, List.length_cons, List.length_cons,
          List.length_nil, List.length_cons]
        omega
      · intro b hb
        rcases List.mem_append.mp hb with hb | hb
        · have hvalue : ∀ n : ℕ, n < 0x100 → b = .ofNat n → b.toNat = n := by
            rintro n hn rfl
            exact toNat_ofNat8 hn
          unfold IsMid
          simp only [List.mem_cons, List.not_mem_nil, or_false] at hb
          rcases hb with hb | hb | hb
          · rw [hvalue _ (by omega) hb]
            omega
          · rw [hvalue _ (by omega) hb]
            omega
          · rw [hvalue _ (by omega) hb]
            omega
        · exact hmid b hb

/-- Such bytes are units of wide characters. -/
theorem eagerText_mid {bytes : Bytes} (h : ∀ b ∈ bytes, IsMid b) (rest : Bytes) :
    ∃ wide text, eagerText (bytes ++ rest) = wide ++ text ∧ wide.length = bytes.length / 2 ∧
      ∀ c ∈ wide, IsWide c := by
  induction bytes using List.twoStepInduction with
  | nil => exact ⟨[], _, rfl, rfl, fun c hc => absurd hc List.not_mem_nil⟩
  | singleton b =>
      have hhalf : ([] : List Char).length = [b].length / 2 := by
        rw [List.length_singleton]
        rfl
      exact ⟨[], _, rfl, hhalf, fun c hc => absurd hc List.not_mem_nil⟩
  -- two such bytes make a unit far beyond ASCII
  | cons_cons lo hi bytes ih _ =>
      obtain ⟨wide, text, htext, hlen, hwide⟩ :=
        ih fun b hb => h b (List.mem_cons_of_mem lo (List.mem_cons_of_mem hi hb))
      have hmid := h hi (List.mem_cons_of_mem lo List.mem_cons_self)
      have hlo := lo.toNat_lt
      unfold IsMid at hmid
      have hne : hi ≠ 0 := by
        rintro rfl
        rw [UInt8.toNat_zero] at hmid
        omega
      refine ⟨.ofNat (hi.toNat * 256 + lo.toNat) :: wide, text, ?_, ?_, ?_⟩
      · rw [List.cons_append, List.cons_append, eagerText_cons (Or.inl hne) (by omega), htext]
        rfl
      · rw [List.length_cons, List.length_cons, List.length_cons, hlen]
        omega
      · intro c hc
        rcases List.mem_cons.mp hc with rfl | hc
        · rw [IsWide, toNat_ofNat (by omega)]
          omega
        · exact hwide c hc

/-- **No text is read alike from its own bytes**: not if they begin with the mark, nor if they
begin with two wide characters. -/
theorem ne_of_reads {data : Bytes} {mark text : List Char} {n : ℕ}
    (hmark : ∀ c ∈ mark, 0x800 ≤ c.toNat ∧ c.toNat < 0x10000)
    (hreads : ∀ i, replacement ∉ text.take i →
      ∃ rest, data = encode (mark ++ text.take i) ++ rest)
    (hn : n ≤ text.length) (hwide : ∀ c ∈ text.take n, IsWide c)
    (hlong : 2 * (n + 1) ≤ 3 * (mark.length + n)) : eagerText data ≠ text := by
  intro heq
  -- what is read gets longer and longer
  have hmore : ∀ k, n + k ≤ text.length ∧ ∀ c ∈ text.take (n + k), IsWide c := by
    intro k
    induction k with
    | zero => exact ⟨hn, hwide⟩
    | succ k ih =>
        obtain ⟨hlen, hwide⟩ := ih
        obtain ⟨rest, rfl⟩ := hreads (n + k) fun hmem => (hwide _ hmem).ne_replacement rfl
        have hchars : ∀ c ∈ mark ++ text.take (n + k), 0x800 ≤ c.toNat ∧ c.toNat < 0x10000 :=
          fun c hc => (List.mem_append.mp hc).elim (hmark c) fun hc => (hwide c hc).bounds
        obtain ⟨hbytes, hmid⟩ := encode_mid hchars
        rw [List.length_append, List.length_take, Nat.min_eq_left hlen] at hbytes
        obtain ⟨wide, tail, htext, hwidelen, hall⟩ := eagerText_mid hmid rest
        rw [heq] at htext
        subst htext
        rw [hbytes] at hwidelen
        constructor
        · rw [List.length_append]
          omega
        · rw [List.take_append_of_le_length (by omega)]
          exact fun c hc => hall c (List.mem_of_mem_take hc)
  have hlen := (hmore (text.length + 1)).1
  omega

/-! ### Marks -/

/-- What is trimmed: marks at the beginning, and NULs at the end. -/
theorem exists_of_trimTextTerminator (read : List Char) :
    ∃ marks text nuls, (∀ c ∈ marks, c = '\uFEFF') ∧ read = marks ++ (text ++ nuls) ∧
      trimTextTerminator read = text := by
  obtain ⟨nuls, hnuls⟩ := List.rdropWhile_prefix (fun c => c == '\x00')
    (read.dropWhile fun c => c == '\uFEFF')
  refine ⟨read.takeWhile fun c => c == '\uFEFF', _, nuls, ?_, ?_, rfl⟩
  · intro c hc
    exact eq_of_beq (List.mem_takeWhile_imp (p := fun c => c == '\uFEFF') hc)
  · rw [trimTextTerminator, hnuls, List.takeWhile_append_dropWhile]

/-- What follows the mark of UTF-16 is not read with the mark. -/
theorem decodeUtf16_ne_of_mark {lo hi : UInt8} {mark : Char}
    (hmark : mark = '\uFEFF' ∨ mark = '\uFFFE') (hunit : hi.toNat * 256 + lo.toNat = mark.toNat)
    (rest : Bytes) (bigEndian : Bool) :
    decodeUtf16 rest bigEndian ≠ eagerText (lo :: hi :: rest) := by
  intro heq
  have hlo := lo.toNat_lt
  have hlarge : 0xFE00 ≤ mark.toNat := by
    rcases hmark with rfl | rfl
    · decide
    · decide
  have hne : hi ≠ 0 := by
    rintro rfl
    rw [UInt8.toNat_zero] at hunit
    omega
  rw [eagerText_cons (Or.inl hne) (by omega), hunit, Char.ofNat_toNat] at heq
  obtain ⟨hle, hbe⟩ := head_decodeUtf16 heq
  exact hmark.elim hle hbe

/-- What follows the mark of UTF-8 is not what is read with it. -/
theorem ne_of_utf8Mark (rest : Bytes) :
    eagerText (utf8Mark ++ rest) ≠ trimTextTerminator (decodeLossy rest) := by
  obtain ⟨marks, text, nuls, hbom, hread, htext⟩ := exists_of_trimTextTerminator (decodeLossy rest)
  rw [htext]
  -- as much of the text as is read without loss is there in UTF-8
  have hreads : ∀ i, replacement ∉ text.take i →
      ∃ rest', utf8Mark ++ rest = encode (('\uFEFF' :: marks) ++ text.take i) ++ rest' := by
    intro i hi
    have hkept : replacement ∉ marks ++ text.take i := by
      intro hmem
      rcases List.mem_append.mp hmem with hmem | hmem
      · exact absurd (hbom _ hmem) (by decide)
      · exact hi hmem
    have hsplit : decodeLossy rest = (marks ++ text.take i) ++ (text.drop i ++ nuls) := by
      rw [hread, List.append_assoc, ← List.append_assoc (text.take i), List.take_append_drop]
    obtain ⟨rest', hrest', -⟩ := exists_of_decodeLossy hkept hsplit
    refine ⟨rest', ?_⟩
    rw [hrest', List.cons_append, encode_cons, List.append_assoc]
    rfl
  have hmarks : ∀ c ∈ '\uFEFF' :: marks, 0x800 ≤ c.toNat ∧ c.toNat < 0x10000 := by
    intro c hc
    obtain rfl : c = '\uFEFF' := (List.mem_cons.mp hc).elim id (hbom c)
    decide
  -- the mark itself is read as a character of two units
  refine ne_of_reads (n := 0) hmarks hreads (Nat.zero_le _)
    (fun c hc => absurd hc List.not_mem_nil) ?_
  rw [List.length_cons]
  omega

/-! ### UTF-8 without a mark -/

/-- The first character and the first unit. -/
theorem head_eagerText {lo hi : UInt8} {data : Bytes} {c : Char} {text : List Char}
    (h : eagerText (lo :: hi :: data) = c :: text) :
    (hi.toNat < 0xD8 ∨ 0xE0 ≤ hi.toNat) ∧ c.toNat = hi.toNat * 256 + lo.toNat ∧
        text = eagerText data ∨
      (0xD8 ≤ hi.toNat ∧ hi.toNat < 0xE0) ∧ 0xFFFD ≤ c.toNat := by
  have hhi := hi.toNat_lt
  have hlo := lo.toNat_lt
  -- two zeros end the text
  have hne : hi ≠ 0 ∨ lo ≠ 0 := by
    by_contra hzero
    obtain ⟨rfl, rfl⟩ : hi = 0 ∧ lo = 0 := by
      simpa only [not_or, ne_eq, not_not] using hzero
    cases h
  -- a unit that is no surrogate is the character; any other gives one that is larger
  by_cases hscalar : hi.toNat < 0xD8 ∨ 0xE0 ≤ hi.toNat
  · rw [eagerText_cons hne hscalar] at h
    obtain ⟨rfl, rfl⟩ := List.cons.inj h
    exact Or.inl ⟨hscalar, toNat_ofNat (by omega), rfl⟩
  · have hunit := Utf16.toNat_ofNat16 (show hi.toNat * 256 + lo.toNat < 0x10000 by omega)
    refine Or.inr ⟨by omega, ?_⟩
    rw [eagerText, Utf16.unitsLe, List.takeWhile_cons] at h
    split_ifs at h
    · obtain ⟨d, text', hd, hcases⟩ := head_decodeLossy
        (.ofNat (hi.toNat * 256 + lo.toNat)) ((Utf16.unitsLe data).takeWhile fun u => u != 0)
      obtain ⟨rfl, -⟩ := List.cons.inj (hd.symm.trans h)
      rw [hunit] at hcases
      rcases hcases with ⟨-, hvalue⟩ | rfl | hlarge
      · omega
      · decide
      · omega
    · cases h

/-- The only characters that are read alike from their own bytes are the ones of one byte, if
a NUL follows, and U+BFEB. -/
theorem first_of_reads {c : Char} {rest : Bytes} {text : List Char}
    (h : eagerText (String.utf8EncodeChar c ++ rest) = c :: text) :
    (∃ rest', c.toNat < 0x80 ∧ rest = 0 :: rest') ∨
      c = '\uBFEB' ∧ text = eagerText (0xAB :: rest) := by
  have hscalar := toNat_scalar c
  -- by the number of bytes in which the character is written
  rcases Nat.lt_or_ge c.toNat 0x80 with h₁ | h₁
  · rw [encodeChar_one h₁, List.singleton_append] at h
    have hlo := toNat_ofNat8 (show c.toNat < 0x100 by omega)
    cases rest with
    | nil => cases h
    | cons hi rest =>
        left
        rcases head_eagerText h with ⟨-, hunit, -⟩ | ⟨-, hlarge⟩
        · have hzero : hi = 0 := UInt8.toNat_inj.mp (show hi.toNat = 0 by omega)
          exact ⟨rest, h₁, by rw [hzero]⟩
        · omega
  rcases Nat.lt_or_ge c.toNat 0x800 with h₂ | h₂
  · rw [encodeChar_two h₁ h₂] at h
    have hlo := toNat_ofNat8 (show c.toNat / 64 % 0x20 + 0xc0 < 0x100 by omega)
    have hhi := toNat_ofNat8 (show c.toNat % 0x40 + 0x80 < 0x100 by omega)
    rcases head_eagerText h with ⟨-, hunit, -⟩ | ⟨-, hlarge⟩
    · omega
    · omega
  rcases Nat.lt_or_ge c.toNat 0x10000 with h₃ | h₃
  · -- of three bytes the first two can be the character itself
    rw [encodeChar_three h₂ h₃] at h
    have hlo := toNat_ofNat8 (show c.toNat / 4096 % 0x10 + 0xe0 < 0x100 by omega)
    have hhi := toNat_ofNat8 (show c.toNat / 64 % 0x40 + 0x80 < 0x100 by omega)
    rcases head_eagerText h with ⟨-, hunit, htext⟩ | ⟨hsurrogate, -⟩
    · have hvalue : c.toNat = 0xBFEB := by omega
      right
      rw [hvalue] at htext
      exact ⟨Char.toNat_inj.mp hvalue, htext⟩
    · omega
  · -- four bytes: the unit is smaller than the character
    rw [encodeChar_four h₃] at h
    have hlo := toNat_ofNat8 (show c.toNat / 262144 % 0x08 + 0xf0 < 0x100 by omega)
    have hhi := toNat_ofNat8 (show c.toNat / 4096 % 0x40 + 0x80 < 0x100 by omega)
    rcases head_eagerText h with ⟨-, hunit, -⟩ | ⟨hsurrogate, -⟩
    · omega
    · omega

/-- Behind the last byte of U+BFEB, the only such character is U+EEAB. -/
theorem second_of_reads {c : Char} {rest : Bytes} {text : List Char}
    (h : eagerText (0xAB :: (String.utf8EncodeChar c ++ rest)) = c :: text) : c = '\uEEAB' := by
  have hscalar := toNat_scalar c
  have hlo : (0xAB : UInt8).toNat = 0xAB := rfl
  -- by the number of bytes in which the character is written, the second of which is now the high
  -- one
  rcases Nat.lt_or_ge c.toNat 0x80 with h₁ | h₁
  · rw [encodeChar_one h₁] at h
    have hhi := toNat_ofNat8 (show c.toNat < 0x100 by omega)
    rcases head_eagerText h with ⟨-, hunit, -⟩ | ⟨-, hlarge⟩
    · omega
    · omega
  rcases Nat.lt_or_ge c.toNat 0x800 with h₂ | h₂
  · rw [encodeChar_two h₁ h₂] at h
    have hhi := toNat_ofNat8 (show c.toNat / 64 % 0x20 + 0xc0 < 0x100 by omega)
    rcases head_eagerText h with ⟨-, hunit, -⟩ | ⟨-, hlarge⟩
    · omega
    · omega
  rcases Nat.lt_or_ge c.toNat 0x10000 with h₃ | h₃
  · rw [encodeChar_three h₂ h₃] at h
    have hhi := toNat_ofNat8 (show c.toNat / 4096 % 0x10 + 0xe0 < 0x100 by omega)
    rcases head_eagerText h with ⟨-, hunit, -⟩ | ⟨hsurrogate, -⟩
    · exact Char.toNat_inj.mp (show c.toNat = 0xEEAB by omega)
    · omega
  · rw [encodeChar_four h₃] at h
    have hhi := toNat_ofNat8 (show c.toNat / 262144 % 0x08 + 0xf0 < 0x100 by omega)
    rcases head_eagerText h with ⟨-, hunit, -⟩ | ⟨hsurrogate, -⟩
    · omega
    · omega

/-- Bytes that are raw UTF-8. -/
theorem exists_of_rawUtf8? {data : Bytes} {text : List Char} (h : rawUtf8? data = some text) :
    0 ∉ encode text ∧ ∃ nul, (nul = [] ∨ nul = [0]) ∧ data = encode text ++ nul := by
  unfold rawUtf8? at h
  split_ifs at h with hzero
  rw [decode?_eq_some] at h
  rw [h] at hzero
  refine ⟨hzero, ?_⟩
  unfold stripNul at h
  split_ifs at h with hlast
  · exact ⟨[0], Or.inr rfl, by rw [← h, List.dropLast_append_getLast? 0 hlast]⟩
  · exact ⟨[], Or.inl rfl, by rw [h, List.append_nil]⟩

theorem trimTextTerminator_eq_self {text : List Char} (hbegin : text.head? ≠ some '\uFEFF')
    (hend : text.getLast? ≠ some '\x00') : trimTextTerminator text = text := by
  have hdrop : text.dropWhile (fun c => c == '\uFEFF') = text := by
    cases text with
    | nil => rfl
    | cons c text =>
        exact List.dropWhile_cons_of_neg fun hc => hbegin (congrArg some (eq_of_beq hc))
  rw [trimTextTerminator, hdrop, List.rdropWhile_eq_self_iff]
  exact fun hne hlast => hend ((List.getLast?_eq_some_getLast hne).trans
    (congrArg some (eq_of_beq hlast)))

theorem zero_mem_encode {text : List Char} (h : '\x00' ∈ text) : 0 ∈ encode text :=
  List.mem_flatMap.mpr ⟨'\x00', h, List.mem_singleton.mpr rfl⟩

/-- There is nothing to trim in raw UTF-8 without a mark. -/
theorem trimTextTerminator_raw {data : Bytes} {text : List Char}
    (hmark : ¬ utf8Mark.isPrefixOf data = true) (h : rawUtf8? data = some text) :
    trimTextTerminator text = text := by
  obtain ⟨hzero, nul, -, rfl⟩ := exists_of_rawUtf8? h
  refine trimTextTerminator_eq_self (fun hhead => hmark ?_) fun hlast => ?_
  · obtain ⟨rest, rfl⟩ := List.head?_eq_some_iff.mp hhead
    rfl
  · exact hzero (zero_mem_encode (List.mem_of_getLast? hlast))

/-- **Raw UTF-8 is not read alike**, but for a byte with a NUL and for U+BFEB. -/
theorem raw_eq_eagerText {data : Bytes} {text : List Char} (hlen : 2 ≤ data.length)
    (hraw : rawUtf8? data = some text) (h : eagerText data = text) :
    (∃ a, data = [a, 0]) ∨ data = [0xEB, 0xBF, 0xAB] := by
  obtain ⟨hzero, nul, hnul, rfl⟩ := exists_of_rawUtf8? hraw
  have hnulLen : nul.length ≤ 1 := by
    rcases hnul with rfl | rfl
    · exact Nat.zero_le 1
    · exact le_rfl
  cases text with
  | nil =>
      rw [encode_nil, List.nil_append] at hlen
      omega
  | cons c text =>
      have hfirst := h
      rw [encode_cons, List.append_assoc] at hfirst
      rcases first_of_reads hfirst with ⟨rest, hsmall, hrest⟩ | ⟨rfl, htext⟩
      · left
        cases text with
        | nil =>
            obtain rfl : nul = [0] := hnul.resolve_left fun hnil => by
              rw [hnil] at hrest
              cases hrest
            exact ⟨.ofNat c.toNat, by rw [encode_cons, encodeChar_one hsmall]; rfl⟩
        | cons d text =>
            -- no byte of the next character is the NUL
            obtain ⟨b, bs, hbytes, -⟩ := head_encodeChar d []
            rw [encode_cons, hbytes, List.cons_append, List.cons_append] at hrest
            obtain ⟨rfl, -⟩ := List.cons.inj hrest
            refine absurd (List.mem_append_right _ ?_) hzero
            exact List.mem_flatMap.mpr ⟨d, List.mem_cons_self, by
              rw [hbytes]
              exact List.mem_cons_self⟩
      · right
        cases text with
        | nil =>
            rcases hnul with rfl | rfl
            · rfl
            · exact absurd htext (by decide)
        | cons d text =>
            rw [encode_cons, List.append_assoc] at htext
            obtain rfl := second_of_reads htext.symm
            -- two wide characters
            refine absurd h (ne_of_reads (n := 2) (fun _ h => absurd h List.not_mem_nil) ?_
              (Nat.le_add_left 2 _) ?_ ?_)
            · intro i _
              refine ⟨encode (('\uBFEB' :: '\uEEAB' :: text).drop i) ++ nul, ?_⟩
              rw [List.nil_append, ← List.append_assoc, ← encode_append, List.take_append_drop]
            · intro c hc
              simp only [List.take_succ_cons, List.take_zero, List.mem_cons, List.not_mem_nil,
                or_false] at hc
              unfold IsWide
              rcases hc with rfl | rfl
              · decide
              · decide
            · exact le_rfl

theorem eagerText_of_raw {data : Bytes} {text : List Char} (hraw : rawUtf8? data = some text)
    (h : (∃ a, data = [a, 0]) ∨ data = [0xEB, 0xBF, 0xAB]) : eagerText data = text := by
  rcases h with ⟨a, rfl⟩ | rfl
  · unfold rawUtf8? at hraw
    split_ifs at hraw with hzero
    rw [decode?_eq_some] at hraw
    have hbyte : [a] = encode text := hraw
    have hne : a ≠ 0 := by
      rintro rfl
      exact hzero (List.mem_singleton.mpr rfl)
    have hlen := congrArg List.length hbyte
    -- one byte is one character of ASCII
    cases text with
    | nil => cases hlen
    | cons c text =>
        rw [length_encode_cons, List.length_singleton] at hlen
        have hpos := c.utf8Size_pos
        have hsmall : c.toNat < 0x80 := by
          have hone := Char.utf8Size_eq_one_iff.mp (show c.utf8Size = 1 by omega)
          exact Nat.lt_succ_of_le (UInt32.le_iff_toNat_le.mp hone)
        rw [encode_cons, encodeChar_one hsmall, List.singleton_append] at hbyte
        obtain ⟨rfl, hrest⟩ := List.cons.inj hbyte
        obtain rfl : text = [] := encode_injective hrest.symm
        have hvalue := toNat_ofNat8 (show c.toNat < 0x100 by omega)
        rw [eagerText_cons (Or.inr hne) (Or.inl (by decide)), hvalue, UInt8.toNat_zero,
          Nat.zero_mul, Nat.zero_add, Char.ofNat_toNat]
        rfl
  · -- the fixed point of the two readings
    exact Option.some.inj ((show rawUtf8? [0xEB, 0xBF, 0xAB] = some ['\uBFEB'] by decide).symm.trans
      hraw)

/-! ### The two readings -/

/-- Answers in which there is nothing for the one reading to find that the other one does not
look for: there is no mark, and no UTF-8. -/
structure ReadAlike (data : Bytes) : Prop where
  utf8 : ¬ utf8Mark.isPrefixOf data = true
  littleEndian : ¬ leMark.isPrefixOf data = true
  bigEndian : ¬ beMark.isPrefixOf data = true
  /-- a byte with a NUL is also a unit, and the bytes of U+BFEB also begin with that unit -/
  raw : (rawUtf8? data).isSome = true → (∃ a, data = [a, 0]) ∨ data = [0xEB, 0xBF, 0xAB]

/-- Without a mark, there is none to skip. -/
theorem decodeUtf16_unmarked {data : Bytes} (hle : ¬ leMark.isPrefixOf data = true)
    (hbe : ¬ beMark.isPrefixOf data = true) : decodeUtf16 data false = eagerText data := by
  -- a first unit that is a mark would make the first two bytes one
  have hdrop : (Utf16.unitsLe data).dropWhile isMark = Utf16.unitsLe data := by
    rcases data with - | ⟨lo, - | ⟨hi, data⟩⟩
    · rfl
    · rfl
    · refine List.dropWhile_cons_of_neg fun hmark => ?_
      have hhi := hi.toNat_lt
      have hlo := lo.toNat_lt
      have hunit := Utf16.toNat_ofNat16 (show hi.toNat * 256 + lo.toNat < 0x10000 by omega)
      have hbytes : ∀ b b' : UInt8, lo.toNat = b.toNat → hi.toNat = b'.toNat →
          [b, b'].isPrefixOf (lo :: hi :: data) = true := by
        intro b b' hb hb'
        rw [UInt8.toNat_inj.mp hb, UInt8.toNat_inj.mp hb', List.isPrefixOf_iff_prefix]
        exact ⟨data, rfl⟩
      rw [isMark, Bool.or_eq_true, beq_iff_eq, beq_iff_eq] at hmark
      rcases hmark with hmark | hmark
      · have hvalue : hi.toNat * 256 + lo.toNat = 0xFEFF := by
          rw [← hunit, hmark]
          rfl
        exact hle (hbytes 0xFF 0xFE (show lo.toNat = 0xFF by omega) (show hi.toNat = 0xFE by omega))
      · have hvalue : hi.toNat * 256 + lo.toNat = 0xFFFE := by
          rw [← hunit, hmark]
          rfl
        exact hbe (hbytes 0xFE 0xFF (show lo.toNat = 0xFE by omega) (show hi.toNat = 0xFF by omega))
  rw [decodeUtf16, if_neg Bool.false_ne_true, hdrop]
  rfl

/-- **The two readings** give the same text in no other case. -/
theorem decodeText_eq_iff {data : Bytes} (hlen : 2 ≤ data.length) :
    decodeText data = .ok (eagerText data) ↔ ReadAlike data := by
  unfold decodeText
  split_ifs with hutf8 hle hbe
  · -- each mark is read as text by one side and dropped by the other
    rw [show 3 = utf8Mark.length from rfl, bytesFrom_of_prefix hutf8, ok_bind]
    refine iff_of_false (fun h => ?_) fun h => h.utf8 hutf8
    obtain ⟨rest, rfl⟩ := List.isPrefixOf_iff_prefix.mp hutf8
    rw [List.drop_left] at h
    exact ne_of_utf8Mark rest (Except.ok.inj h).symm
  · rw [show 2 = leMark.length from rfl, bytesFrom_of_prefix hle, ok_bind]
    refine iff_of_false (fun h => ?_) fun h => h.littleEndian hle
    obtain ⟨rest, rfl⟩ := List.isPrefixOf_iff_prefix.mp hle
    rw [List.drop_left] at h
    exact decodeUtf16_ne_of_mark (Or.inl rfl) rfl rest false (Except.ok.inj h)
  · rw [show 2 = beMark.length from rfl, bytesFrom_of_prefix hbe, ok_bind]
    refine iff_of_false (fun h => ?_) fun h => h.bigEndian hbe
    obtain ⟨rest, rfl⟩ := List.isPrefixOf_iff_prefix.mp hbe
    rw [List.drop_left] at h
    exact decodeUtf16_ne_of_mark (Or.inr rfl) rfl rest true (Except.ok.inj h)
  · -- no mark: both read UTF-16, unless the bytes are taken for UTF-8
    rcases hraw : rawUtf8? data with - | text
    · refine iff_of_true (congrArg Except.ok (decodeUtf16_unmarked hle hbe)) ?_
      exact ⟨hutf8, hle, hbe, fun h => by rw [hraw] at h; cases h⟩
    · dsimp only
      rw [trimTextTerminator_raw hutf8 hraw, Except.ok.injEq]
      constructor
      · intro h
        exact ⟨hutf8, hle, hbe, fun _ => raw_eq_eagerText hlen hraw h.symm⟩
      · intro h
        exact (eagerText_of_raw hraw (h.raw (by rw [hraw]; rfl))).symm

section Paste

variable (sanitizeTextForLinux : List Char → List Char)

/-- What is handed over on demand, with no log to fault, is what the provider is given of an
answer that was fetched up front. -/
def PastesAlike (data : Bytes) : Prop :=
  ∃ bytes, textBranch sanitizeTextForLinux false data "text/plain" = .ok bytes ∧
    eagerProvided sanitizeTextForLinux data =
      [("text/plain", bytes), ("text/plain;charset=utf-8", bytes)]

theorem pastesAlike_iff {data : Bytes} (hlen : 2 ≤ data.length) :
    PastesAlike sanitizeTextForLinux data ↔ ∃ text, decodeText data = .ok text ∧
      sanitizeTextForLinux text = sanitizeTextForLinux (eagerText data) := by
  obtain ⟨text, htext⟩ := decodeText_ok data
  have hmime : startsWith "text/plain" "text/html" = false := by decide
  have hbranch : textBranch sanitizeTextForLinux false data "text/plain" =
      .ok (encode (sanitizeTextForLinux text)) := by
    rw [textBranch, decodeRdpTextPayload, hmime, if_neg Bool.false_ne_true, htext]
    rfl
  rw [PastesAlike, hbranch, htext, eagerProvided, if_pos hlen]
  simp only [Except.ok.injEq, exists_eq_left', List.cons.injEq, Prod.mk.injEq, true_and, and_true,
    and_self]
  exact ⟨fun h => (encode_injective h).symm, fun h => congrArg encode h.symm⟩

end Paste

/-- **The two ways to paste agree**, however a text is sanitized, on the answers that are read
alike. -/
theorem pastesAlike_iff_readAlike {data : Bytes} (hlen : 2 ≤ data.length) :
    (∀ sanitizeTextForLinux, PastesAlike sanitizeTextForLinux data) ↔ ReadAlike data := by
  rw [← decodeText_eq_iff hlen]
  constructor
  · intro h
    obtain ⟨text, htext, heq⟩ := (pastesAlike_iff id hlen).mp (h id)
    rw [htext]
    exact congrArg Except.ok heq
  · exact fun h sanitizeTextForLinux => (pastesAlike_iff _ hlen).mpr ⟨_, h, rfl⟩

/-- The letter a, in UTF-16 with a NUL. -/
theorem pastesAlike_letter : 2 ≤ [(0x61 : UInt8), 0, 0, 0].length ∧
    ∀ sanitizeTextForLinux, PastesAlike sanitizeTextForLinux [0x61, 0, 0, 0] :=
  ⟨by decide, (pastesAlike_iff_readAlike (by decide)).mpr
    ⟨by decide, by decide, by decide, fun h => absurd h (by decide)⟩⟩

/-- With a mark in front, the letter is pasted without it in the one way and with it in the
other. -/
theorem marked_letter_pasted_apart :
    ¬ ∃ sanitizeTextForLinux, DropsOnly sanitizeTextForLinux ∧
      ∀ data : Bytes, 2 ≤ data.length → PastesAlike sanitizeTextForLinux data := by
  rintro ⟨sanitizeTextForLinux, hdrops, h⟩
  obtain ⟨text, htext, heq⟩ := (pastesAlike_iff sanitizeTextForLinux (by decide)).mp
    (h [0xFF, 0xFE, 0x61, 0, 0, 0] (by decide))
  have hread : decodeText [0xFF, 0xFE, 0x61, 0, 0, 0] = .ok ['a'] := by decide +kernel
  have heager : eagerText [0xFF, 0xFE, 0x61, 0, 0, 0] = ['\uFEFF', 'a'] := by decide +kernel
  obtain rfl := Except.ok.inj (htext.symm.trans hread)
  rw [heager] at heq
  have hkept := (hdrops ['a']).2.symm.trans ((congrArg _ heq).trans (hdrops ['\uFEFF', 'a']).2)
  exact absurd hkept (by decide)

end LamcoRdp
