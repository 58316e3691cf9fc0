/-
LamcoRdp/Lib/Utf8.lean

UTF-8, written and read.

A text is a list of characters, which are the Unicode scalar values; `encode` gives its
bytes.  `head` is what bytes begin with: a character, or a number of bytes that no
character begins with, the longest that could have become one.  `heads` reads on from
there, and the two decoders look at its result: `decode?` gives up at bytes that are no
character, `decodeLossy` replaces them.

What is written is read back (`heads_encode_append`), and what is read as characters was
written so (`exists_of_heads`).

A position in a text is counted in bytes, and it is a position only between two characters:
`splitAtByte` splits a text there, `find` gives the position of a part of it.
-/
import Mathlib.Data.List.Basic
import Mathlib.Data.List.TakeWhile

namespace Utf8

/-! ### Encoding -/

/-- The bytes of a text. -/
def encode (text : List Char) : List UInt8 := text.flatMap String.utf8EncodeChar

theorem encode_nil : encode [] = [] := rfl

theorem encode_cons (c : Char) (text : List Char) :
    encode (c :: text) = String.utf8EncodeChar c ++ encode text := rfl

theorem encode_append (s t : List Char) : encode (s ++ t) = encode s ++ encode t :=
  List.flatMap_append

section Char

variable {c : Char}

theorem encodeChar_one (h : c.toNat < 0x80) :
    String.utf8EncodeChar c = [.ofNat c.toNat] := if_pos (show c.toNat ≤ 0x7f by omega)

theorem encodeChar_two (hlo : 0x80 ≤ c.toNat) (hhi : c.toNat < 0x800) :
    String.utf8EncodeChar c =
      [.ofNat (c.toNat / 64 % 0x20 + 0xc0), .ofNat (c.toNat % 0x40 + 0x80)] :=
  (if_neg (show ¬ c.toNat ≤ 0x7f by omega)).trans (if_pos (show c.toNat ≤ 0x7ff by omega))

theorem encodeChar_three (hlo : 0x800 ≤ c.toNat) (hhi : c.toNat < 0x10000) :
    String.utf8EncodeChar c =
      [.ofNat (c.toNat / 4096 % 0x10 + 0xe0), .ofNat (c.toNat / 64 % 0x40 + 0x80),
        .ofNat (c.toNat % 0x40 + 0x80)] :=
  (if_neg (show ¬ c.toNat ≤ 0x7f by omega)).trans <|
    (if_neg (show ¬ c.toNat ≤ 0x7ff by omega)).trans (if_pos (show c.toNat ≤ 0xffff by omega))

theorem encodeChar_four (hlo : 0x10000 ≤ c.toNat) :
    String.utf8EncodeChar c =
      [.ofNat (c.toNat / 262144 % 0x08 + 0xf0), .ofNat (c.toNat / 4096 % 0x40 + 0x80),
        .ofNat (c.toNat / 64 % 0x40 + 0x80), .ofNat (c.toNat % 0x40 + 0x80)] :=
  (if_neg (show ¬ c.toNat ≤ 0x7f by omega)).trans <|
    (if_neg (show ¬ c.toNat ≤ 0x7ff by omega)).trans (if_neg (show ¬ c.toNat ≤ 0xffff by omega))

/-- A scalar value is no surrogate, and at most U+10FFFF. -/
theorem toNat_scalar (c : Char) : c.toNat < 0xD800 ∨ 0xE000 ≤ c.toNat ∧ c.toNat < 0x110000 := by
  rcases c.valid with h | ⟨h, h'⟩
  · exact Or.inl h
  · exact Or.inr ⟨h, h'⟩

theorem toNat_ofNat {n : ℕ} (h : n < 0xD800 ∨ 0xE000 ≤ n ∧ n < 0x110000) :
    (Char.ofNat n).toNat = n := by
  have hvalid : n.isValidChar := h.imp_right fun h => ⟨h.1, h.2⟩
  rw [Char.ofNat, dif_pos hvalid]
  rfl

end Char

/-! ### Reading a character -/

/-- What bytes begin with. -/
inductive Head
  | char (c : Char)
  /-- so many bytes that are not the beginning of a character -/
  | invalid (bytes : ℕ)
  deriving DecidableEq

/-- How many bytes are read. -/
def Head.size : Head → ℕ
  | .char c => c.utf8Size
  | .invalid bytes => bytes

/-- A byte that may continue a character. -/
def isTail (b : UInt8) : Bool := decide (0x80 ≤ b.toNat) && decide (b.toNat < 0xC0)

/-- A byte that may follow the first one: no character is written with more bytes than it
needs, none is a surrogate, and none is above U+10FFFF. -/
def isSecond (b b₁ : UInt8) : Bool :=
  isTail b₁ && (b.toNat != 0xE0 || decide (0xA0 ≤ b₁.toNat)) &&
    (b.toNat != 0xED || decide (b₁.toNat < 0xA0)) &&
    (b.toNat != 0xF0 || decide (0x90 ≤ b₁.toNat)) && (b.toNat != 0xF4 || decide (b₁.toNat < 0x90))

/-- A character of two bytes, the first of which is `b`. -/
def head₂ (b : UInt8) : List UInt8 → Head
  | b₁ :: _ =>
      if isTail b₁ then .char (.ofNat ((b.toNat - 0xC0) * 64 + (b₁.toNat - 0x80)))
      else .invalid 1
  | [] => .invalid 1

/-- A character of three bytes. -/
def head₃ (b : UInt8) : List UInt8 → Head
  | b₁ :: b₂ :: _ =>
      if isSecond b b₁ then
        if isTail b₂ then
          .char (.ofNat ((b.toNat - 0xE0) * 4096 + (b₁.toNat - 0x80) * 64 + (b₂.toNat - 0x80)))
        else .invalid 2
      else .invalid 1
  | [b₁] => if isSecond b b₁ then .invalid 2 else .invalid 1
  | [] => .invalid 1

/-- A character of four bytes. -/
def head₄ (b : UInt8) : List UInt8 → Head
  | b₁ :: b₂ :: b₃ :: _ =>
      if isSecond b b₁ then
        if isTail b₂ then
          if isTail b₃ then
            .char (.ofNat ((b.toNat - 0xF0) * 262144 + (b₁.toNat - 0x80) * 4096 +
              (b₂.toNat - 0x80) * 64 + (b₃.toNat - 0x80)))
          else .invalid 3
        else .invalid 2
      else .invalid 1
  | [b₁, b₂] => if isSecond b b₁ then if isTail b₂ then .invalid 3 else .invalid 2 else .invalid 1
  | [b₁] => if isSecond b b₁ then .invalid 2 else .invalid 1
  | [] => .invalid 1

/-- What bytes begin with, of which the first is `b`. -/
def head (b : UInt8) (rest : List UInt8) : Head :=
  if b.toNat < 0x80 then .char (.ofNat b.toNat)
  else if b.toNat < 0xC2 then .invalid 1
  else if b.toNat < 0xE0 then head₂ b rest
  else if b.toNat < 0xF0 then head₃ b rest
  else if b.toNat < 0xF5 then head₄ b rest
  else .invalid 1

section Spec

variable {b b₁ b₂ b₃ : UInt8} {rest : List UInt8}

theorem isTail_iff : isTail b = true ↔ 0x80 ≤ b.toNat ∧ b.toNat < 0xC0 := by
  rw [isTail, Bool.and_eq_true, decide_eq_true_eq, decide_eq_true_eq]

theorem isSecond_iff : isSecond b b₁ = true ↔ (0x80 ≤ b₁.toNat ∧ b₁.toNat < 0xC0) ∧
    (b.toNat = 0xE0 → 0xA0 ≤ b₁.toNat) ∧ (b.toNat = 0xED → b₁.toNat < 0xA0) ∧
    (b.toNat = 0xF0 → 0x90 ≤ b₁.toNat) ∧ (b.toNat = 0xF4 → b₁.toNat < 0x90) := by
  simp only [isSecond, Bool.and_eq_true, Bool.or_eq_true, bne_iff_ne, decide_eq_true_eq, isTail_iff]
  omega

theorem toNat_ofNat8 {n : ℕ} (h : n < 0x100) : (UInt8.ofNat n).toNat = n :=
  UInt8.toNat_ofNat_of_lt' h

theorem ofNat8_eq {n : ℕ} (h : n = b.toNat) : UInt8.ofNat n = b := by
  subst h
  exact UInt8.ofNat_toNat

/-- A character that is written is read back. -/
theorem head_encodeChar (c : Char) (rest : List UInt8) :
    ∃ b bs, String.utf8EncodeChar c = b :: bs ∧ head b (bs ++ rest) = .char c := by
  have hscalar := toNat_scalar c
  have hchar : ∀ n, n = c.toNat → Head.char (.ofNat n) = .char c := by
    rintro _ rfl
    rw [Char.ofNat_toNat]
  -- one case for each length of the code
  rcases Nat.lt_or_ge c.toNat 0x80 with h₁ | h₁
  · refine ⟨_, _, encodeChar_one h₁, ?_⟩
    have hb := toNat_ofNat8 (show c.toNat < 0x100 by omega)
    rw [head, if_pos (by omega)]
    exact hchar _ hb
  rcases Nat.lt_or_ge c.toNat 0x800 with h₂ | h₂
  · refine ⟨_, _, encodeChar_two h₁ h₂, ?_⟩
    have hb := toNat_ofNat8 (show c.toNat / 64 % 0x20 + 0xc0 < 0x100 by omega)
    have hb₁ := toNat_ofNat8 (show c.toNat % 0x40 + 0x80 < 0x100 by omega)
    rw [head, if_neg (by omega), if_neg (by omega), if_pos (by omega)]
    refine (if_pos (isTail_iff.mpr (by omega))).trans ?_
    exact hchar _ (by omega)
  rcases Nat.lt_or_ge c.toNat 0x10000 with h₃ | h₃
  · refine ⟨_, _, encodeChar_three h₂ h₃, ?_⟩
    have hb := toNat_ofNat8 (show c.toNat / 4096 % 0x10 + 0xe0 < 0x100 by omega)
    have hb₁ := toNat_ofNat8 (show c.toNat / 64 % 0x40 + 0x80 < 0x100 by omega)
    have hb₂ := toNat_ofNat8 (show c.toNat % 0x40 + 0x80 < 0x100 by omega)
    rw [head, if_neg (by omega), if_neg (by omega), if_neg (by omega), if_pos (by omega)]
    refine (if_pos (isSecond_iff.mpr (by omega))).trans ?_
    refine (if_pos (isTail_iff.mpr (by omega))).trans ?_
    exact hchar _ (by omega)
  · refine ⟨_, _, encodeChar_four h₃, ?_⟩
    have hb := toNat_ofNat8 (show c.toNat / 262144 % 0x08 + 0xf0 < 0x100 by omega)
    have hb₁ := toNat_ofNat8 (show c.toNat / 4096 % 0x40 + 0x80 < 0x100 by omega)
    have hb₂ := toNat_ofNat8 (show c.toNat / 64 % 0x40 + 0x80 < 0x100 by omega)
    have hb₃ := toNat_ofNat8 (show c.toNat % 0x40 + 0x80 < 0x100 by omega)
    rw [head, if_neg (by omega), if_neg (by omega), if_neg (by omega), if_neg (by omega),
      if_pos (by omega)]
    refine (if_pos (isSecond_iff.mpr (by omega))).trans ?_
    refine (if_pos (isTail_iff.mpr (by omega))).trans ?_
    refine (if_pos (isTail_iff.mpr (by omega))).trans ?_
    exact hchar _ (by omega)

theorem exists_of_head₂ {c : Char} (hlo : 0xC2 ≤ b.toNat) (hhi : b.toNat < 0xE0)
    (h : head₂ b rest = .char c) : ∃ rest', b :: rest = String.utf8EncodeChar c ++ rest' := by
  unfold head₂ at h
  split at h
  · next b₁ rest =>
      split_ifs at h with htail
      rw [isTail_iff] at htail
      obtain rfl := Head.char.inj h
      have hc := toNat_ofNat (n := (b.toNat - 0xC0) * 64 + (b₁.toNat - 0x80)) (by omega)
      refine ⟨rest, ?_⟩
      rw [encodeChar_two (by omega) (by omega), hc, ofNat8_eq (b := b) (by omega),
        ofNat8_eq (b := b₁) (by omega)]
      rfl
  · cases h

theorem exists_of_head₃ {c : Char} (hlo : 0xE0 ≤ b.toNat) (hhi : b.toNat < 0xF0)
    (h : head₃ b rest = .char c) : ∃ rest', b :: rest = String.utf8EncodeChar c ++ rest' := by
  unfold head₃ at h
  split at h
  · next b₁ b₂ rest =>
      split_ifs at h with hsecond htail
      rw [isTail_iff] at htail
      obtain ⟨htail₁, hshort, hsurrogate, -, -⟩ := isSecond_iff.mp hsecond
      obtain rfl := Head.char.inj h
      have hc := toNat_ofNat
        (n := (b.toNat - 0xE0) * 4096 + (b₁.toNat - 0x80) * 64 + (b₂.toNat - 0x80)) (by omega)
      refine ⟨rest, ?_⟩
      rw [encodeChar_three (by omega) (by omega), hc, ofNat8_eq (b := b) (by omega),
        ofNat8_eq (b := b₁) (by omega), ofNat8_eq (b := b₂) (by omega)]
      rfl
  · split_ifs at h
  · cases h

theorem exists_of_head₄ {c : Char} (hlo : 0xF0 ≤ b.toNat) (hhi : b.toNat < 0xF5)
    (h : head₄ b rest = .char c) : ∃ rest', b :: rest = String.utf8EncodeChar c ++ rest' := by
  unfold head₄ at h
  split at h
  · next b₁ b₂ b₃ rest =>
      split_ifs at h with hsecond htail₂ htail₃
      rw [isTail_iff] at htail₂ htail₃
      obtain ⟨htail₁, -, -, hshort, hlast⟩ := isSecond_iff.mp hsecond
      obtain rfl := Head.char.inj h
      have hc := toNat_ofNat (n := (b.toNat - 0xF0) * 262144 + (b₁.toNat - 0x80) * 4096 +
        (b₂.toNat - 0x80) * 64 + (b₃.toNat - 0x80)) (by omega)
      refine ⟨rest, ?_⟩
      rw [encodeChar_four (by omega), hc, ofNat8_eq (b := b) (by omega),
        ofNat8_eq (b := b₁) (by omega), ofNat8_eq (b := b₂) (by omega),
        ofNat8_eq (b := b₃) (by omega)]
      rfl
  · split_ifs at h
  · split_ifs at h
  · cases h

/-- A character that is read was written so. -/
theorem exists_of_head {c : Char} (h : head b rest = .char c) :
    ∃ rest', b :: rest = String.utf8EncodeChar c ++ rest' := by
  unfold head at h
  split_ifs at h with h₁ h₂ h₃ h₄ h₅
  · obtain rfl := Head.char.inj h
    have hc := toNat_ofNat (n := b.toNat) (by omega)
    refine ⟨rest, ?_⟩
    rw [encodeChar_one (by omega), hc, ofNat8_eq rfl]
    rfl
  · exact exists_of_head₂ (by omega) h₃ h
  · exact exists_of_head₃ (by omega) h₄ h
  · exact exists_of_head₄ (by omega) h₅ h

end Spec

/-! ### Reading on -/

/-- The heads of bytes, the first `skip` of which are read already. -/
def headsFrom : ℕ → List UInt8 → List Head
  | _, [] => []
  | skip + 1, _ :: bytes => headsFrom skip bytes
  | 0, b :: bytes => head b bytes :: headsFrom ((head b bytes).size - 1) bytes

/-- What bytes begin with, what the bytes after that begin with, and so on. -/
def heads (bytes : List UInt8) : List Head := headsFrom 0 bytes

theorem headsFrom_append (read bytes : List UInt8) :
    headsFrom read.length (read ++ bytes) = heads bytes := by
  induction read with
  | nil => rfl
  | cons b read ih => exact ih

theorem heads_encodeChar_append (c : Char) (bytes : List UInt8) :
    heads (String.utf8EncodeChar c ++ bytes) = .char c :: heads bytes := by
  obtain ⟨b, bs, hbytes, hhead⟩ := head_encodeChar c bytes
  have hlen : c.utf8Size - 1 = bs.length := by
    rw [← String.length_utf8EncodeChar, hbytes, List.length_cons, Nat.add_sub_cancel]
  rw [hbytes, List.cons_append, heads, headsFrom, hhead, Head.size, hlen, headsFrom_append]

/-- What is written is read back. -/
theorem heads_encode_append (text : List Char) (bytes : List UInt8) :
    heads (encode text ++ bytes) = text.map .char ++ heads bytes := by
  induction text with
  | nil => rfl
  | cons c text ih =>
      rw [encode_cons, List.append_assoc, heads_encodeChar_append, ih]
      rfl

/-- What is read as characters was written so. -/
theorem exists_of_heads {text : List Char} {hs : List Head} {bytes : List UInt8}
    (h : heads bytes = text.map .char ++ hs) :
    ∃ rest, bytes = encode text ++ rest ∧ heads rest = hs := by
  induction text generalizing bytes with
  | nil => exact ⟨bytes, rfl, h⟩
  | cons c text ih =>
      cases bytes with
      | nil => cases h
      | cons b bytes =>
          obtain ⟨hhead, -⟩ := List.cons.inj h
          obtain ⟨rest, hrest⟩ := exists_of_head hhead
          rw [hrest, heads_encodeChar_append] at h
          obtain ⟨rest', hrest', hhs⟩ := ih (List.cons.inj h).2
          exact ⟨rest', by rw [hrest, hrest', encode_cons, List.append_assoc], hhs⟩

/-! ### Decoding -/

/-- The character, if the bytes open with one. -/
def Head.char? : Head → Option Char
  | .char c => some c
  | .invalid _ => none

/-- U+FFFD in the place of bytes that are no character. -/
def replacement : Char := '\uFFFD'

/-- The text, if the bytes are one. -/
def decode? (bytes : List UInt8) : Option (List Char) := (heads bytes).mapM Head.char?

/-- The text, with replacement characters for what is none. -/
def decodeLossy (bytes : List UInt8) : List Char :=
  (heads bytes).map fun h => h.char?.getD replacement

theorem mapM_char? {hs : List Head} {text : List Char} :
    hs.mapM Head.char? = some text ↔ hs = text.map .char := by
  induction hs generalizing text with
  | nil =>
      cases text with
      | nil => exact iff_of_true rfl rfl
      | cons c text => exact iff_of_false nofun nofun
  | cons h hs ih =>
      rw [List.mapM_cons]
      cases h with
      | invalid n =>
          refine iff_of_false nofun fun heq => ?_
          cases text with
          | nil => cases heq
          | cons c text => cases (List.cons.inj heq).1
      -- a character is taken, and the rest by induction
      | char c =>
          simp only [Head.char?, Option.pure_def, Option.bind_eq_bind, Option.bind_some,
            Option.bind_eq_some_iff, ih]
          constructor
          · rintro ⟨text, rfl, h⟩
            obtain rfl := Option.some.inj h
            rfl
          · intro heq
            cases text with
            | nil => cases heq
            | cons d text =>
                obtain ⟨hc, htext⟩ := List.cons.inj heq
                exact ⟨text, htext, by rw [Head.char.inj hc]⟩

/-- The bytes that are a text are the ones that are written for it. -/
theorem decode?_eq_some {bytes : List UInt8} {text : List Char} :
    decode? bytes = some text ↔ bytes = encode text := by
  rw [decode?, mapM_char?]
  constructor
  · intro h
    obtain ⟨rest, rfl, hrest⟩ := exists_of_heads (h.trans (List.append_nil _).symm)
    cases rest with
    | nil => exact List.append_nil _
    | cons b rest => cases hrest
  · rintro rfl
    have h := heads_encode_append text []
    rwa [List.append_nil, show heads [] = [] from rfl, List.append_nil] at h

theorem decode?_encode (text : List Char) : decode? (encode text) = some text :=
  decode?_eq_some.mpr rfl

theorem encode_injective : Function.Injective encode := by
  intro s t h
  exact Option.some.inj ((decode?_encode s).symm.trans (h ▸ decode?_encode t))

/-- Without replacement, what is read was written so. -/
theorem exists_of_decodeLossy {text text' : List Char} {bytes : List UInt8}
    (hkept : replacement ∉ text) (h : decodeLossy bytes = text ++ text') :
    ∃ rest, bytes = encode text ++ rest ∧ decodeLossy rest = text' := by
  obtain ⟨hs, hs', hheads, htext, htext'⟩ := List.map_eq_append_iff.mp h
  have hchars : hs = text.map .char := by
    rw [← htext, List.map_map]
    refine (List.map_id hs).symm.trans (List.map_congr_left fun x hx => ?_)
    have hmem : x.char?.getD replacement ∈ text := htext ▸ List.mem_map_of_mem hx
    cases x with
    | char c => rfl
    | invalid n => exact absurd hmem hkept
  obtain ⟨rest, hrest, hhs⟩ := exists_of_heads (hheads.trans (by rw [hchars]))
  exact ⟨rest, hrest, by rw [decodeLossy, hhs, htext']⟩

/-! ### Positions -/

/-- A text before and after a position, which is between two of its characters. -/
def splitAtByte : ℕ → List Char → Option (List Char × List Char)
  | 0, text => some ([], text)
  | _ + 1, [] => none
  | n + 1, c :: text =>
      if c.utf8Size ≤ n + 1 then
        (splitAtByte (n + 1 - c.utf8Size) text).map fun (before, rest) => (c :: before, rest)
      else none

/-- The position of the first occurrence of a part. -/
def find (part : List Char) : List Char → Option ℕ
  | [] => if part = [] then some 0 else none
  | c :: text =>
      if part.isPrefixOf (c :: text) then some 0
      else (find part text).map fun n => c.utf8Size + n

theorem length_encode_cons (c : Char) (text : List Char) :
    (encode (c :: text)).length = c.utf8Size + (encode text).length := by
  rw [encode_cons, List.length_append, String.length_utf8EncodeChar]

/-- A position of a text is the length of what is before it. -/
theorem splitAtByte_eq_some {n : ℕ} {text before rest : List Char} :
    splitAtByte n text = some (before, rest) ↔
      text = before ++ rest ∧ (encode before).length = n := by
  induction text generalizing n before with
  | nil =>
      cases n with
      | zero =>
          rw [splitAtByte, Option.some.injEq, Prod.mk.injEq]
          constructor
          · rintro ⟨rfl, rfl⟩
            exact ⟨rfl, rfl⟩
          · rintro ⟨h, -⟩
            obtain ⟨rfl, rfl⟩ := List.append_eq_nil_iff.mp h.symm
            exact ⟨rfl, rfl⟩
      | succ n =>
          refine iff_of_false nofun ?_
          rintro ⟨h, hlen⟩
          obtain ⟨rfl, rfl⟩ := List.append_eq_nil_iff.mp h.symm
          cases hlen
  | cons c text ih =>
      have hpos := c.utf8Size_pos
      -- the split is before the first character, at byte 0, or behind it
      cases before with
      | nil =>
          cases n with
          | zero =>
              rw [splitAtByte, Option.some.injEq, Prod.mk.injEq]
              exact ⟨fun h => ⟨h.2, rfl⟩, fun h => ⟨rfl, h.1⟩⟩
          | succ n =>
              rw [splitAtByte]
              refine iff_of_false (fun h => ?_) fun h => nomatch h.2
              obtain ⟨-, h⟩ := Option.ite_none_right_eq_some.mp h
              obtain ⟨p, -, hp⟩ := Option.map_eq_some_iff.mp h
              cases hp
      | cons d before =>
          rw [length_encode_cons, List.cons_append, List.cons.injEq]
          cases n with
          | zero =>
              refine iff_of_false nofun fun h => ?_
              have hpos' := d.utf8Size_pos
              omega
          | succ n =>
              rw [splitAtByte, Option.ite_none_right_eq_some, Option.map_eq_some_iff]
              constructor
              · rintro ⟨hle, ⟨before', rest'⟩, hsplit, heq⟩
                obtain ⟨hcons, rfl⟩ := Prod.mk.inj heq
                obtain ⟨rfl, rfl⟩ := List.cons.inj hcons
                obtain ⟨htext, hlen⟩ := ih.mp hsplit
                exact ⟨⟨rfl, htext⟩, by omega⟩
              · rintro ⟨⟨rfl, htext⟩, hlen⟩
                exact ⟨by omega, (before, rest), ih.mpr ⟨htext, by omega⟩, rfl⟩

theorem splitAtByte_append (before rest : List Char) :
    splitAtByte (encode before).length (before ++ rest) = some (before, rest) :=
  splitAtByte_eq_some.mpr ⟨rfl, rfl⟩

/-- A part that is found is there. -/
theorem exists_of_find {part text : List Char} {n : ℕ} (h : find part text = some n) :
    ∃ before rest, text = before ++ (part ++ rest) ∧ (encode before).length = n := by
  induction text generalizing n with
  | nil =>
      obtain ⟨rfl, h⟩ := Option.ite_none_right_eq_some.mp h
      exact ⟨[], [], rfl, Option.some.inj h⟩
  | cons c text ih =>
      rw [find] at h
      split_ifs at h with hprefix
      · obtain ⟨rest, hrest⟩ := List.isPrefixOf_iff_prefix.mp hprefix
        exact ⟨[], rest, hrest.symm, Option.some.inj h⟩
      · obtain ⟨m, hm, hn⟩ := Option.map_eq_some_iff.mp h
        obtain ⟨before, rest, htext, hlen⟩ := ih hm
        exact ⟨c :: before, rest, by rw [htext, List.cons_append], by
          rw [length_encode_cons, hlen, hn]⟩

/-- Some character of the one is another one in the other. -/
def differ (s t : List Char) : Bool := (s.zip t).any fun p => p.1 != p.2

/-- A part does not begin in a text, whatever follows the text. -/
def misses (part : List Char) : List Char → Bool
  | [] => true
  | c :: text => differ part (c :: text) && misses part text

theorem differ_append {s t : List Char} (h : differ s t = true) (rest : List Char) :
    differ s (t ++ rest) = true := by
  obtain ⟨p, hp, hne⟩ := List.any_eq_true.mp h
  refine List.any_eq_true.mpr ⟨p, ?_, hne⟩
  induction s generalizing t with
  | nil => cases hp
  | cons c s ih =>
      cases t with
      | nil => cases hp
      | cons d t =>
          rcases List.mem_cons.mp hp with rfl | hp
          · exact List.mem_cons_self
          · exact List.mem_cons_of_mem _ (ih (List.any_eq_true.mpr ⟨p, hp, hne⟩) hp)

theorem not_isPrefixOf_of_differ {s t : List Char} (h : differ s t = true) :
    ¬ s.isPrefixOf t = true := by
  rw [List.isPrefixOf_iff_prefix]
  rintro ⟨rest, rfl⟩
  obtain ⟨⟨c, d⟩, hp, hne⟩ := List.any_eq_true.mp h
  induction s with
  | nil => cases hp
  | cons e s ih =>
      rcases List.mem_cons.mp hp with heq | hp
      · obtain ⟨rfl, rfl⟩ := Prod.mk.inj heq
        exact bne_iff_ne.mp hne rfl
      · exact ih (List.any_eq_true.mpr ⟨_, hp, hne⟩) hp

theorem misses_append {part s t : List Char} (hs : misses part s = true)
    (ht : misses part t = true) : misses part (s ++ t) = true := by
  induction s with
  | nil => exact ht
  | cons c s ih =>
      obtain ⟨hdiffer, hs⟩ := Bool.and_eq_true_iff.mp hs
      exact Bool.and_eq_true_iff.mpr ⟨differ_append hdiffer t, ih hs⟩

/-- A part misses a text in which its first character is not. -/
theorem misses_of_not_mem {c : Char} {part text : List Char} (h : c ∉ text) :
    misses (c :: part) text = true := by
  induction text with
  | nil => rfl
  | cons d text ih =>
      obtain ⟨hd, htext⟩ := not_or.mp (mt List.mem_cons.mpr h)
      have hdiffer : differ (c :: part) (d :: text) = true :=
        List.any_eq_true.mpr ⟨(c, d), List.mem_cons_self, bne_iff_ne.mpr hd⟩
      exact Bool.and_eq_true_iff.mpr ⟨hdiffer, ih htext⟩

/-- A part is found behind a text that it misses. -/
theorem find_append {part before : List Char} (hbefore : misses part before = true)
    (text : List Char) :
    find part (before ++ text) = (find part text).map fun n => (encode before).length + n := by
  induction before with
  | nil =>
      rw [List.nil_append, encode_nil, List.length_nil]
      simp only [Nat.zero_add, Option.map_id']
  | cons c before ih =>
      obtain ⟨hdiffer, hbefore⟩ := Bool.and_eq_true_iff.mp hbefore
      have hprefix : ¬ part.isPrefixOf (c :: (before ++ text)) = true :=
        not_isPrefixOf_of_differ (differ_append hdiffer text)
      rw [List.cons_append, find, if_neg hprefix, ih hbefore, Option.map_map]
      congr 1
      funext n
      rw [length_encode_cons, Nat.add_assoc]
      rfl

theorem find_self (part text : List Char) : find part (part ++ text) = some 0 := by
  have hprefix : part.isPrefixOf (part ++ text) = true :=
    List.isPrefixOf_iff_prefix.mpr (List.prefix_append part text)
  rcases heq : part ++ text with - | ⟨c, rest⟩
  · obtain ⟨rfl, -⟩ := List.append_eq_nil_iff.mp heq
    rfl
  · rw [heq] at hprefix
    exact if_pos hprefix

end Utf8
