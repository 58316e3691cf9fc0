/-
LamcoRdp/Clipboard/TextRoundTrip.lean

What a client encodes is decoded again.

Plain text is sent in UTF-16 with a NUL, and is decoded again if its bytes do not begin with
the mark of UTF-8: the character U+BBEF is the first two bytes of it.

HTML is sent as UTF-8, with the offsets of the fragment in a header.  An offset fills a
placeholder of ten digits, and one that has more of them moves all that follows.  The
fragment is then looked for too early, by as many bytes as there are digits too many
(`shiftedFragment`).
-/
import LamcoRdp.Clipboard.TextReadings

namespace LamcoRdp

open Checked Utf8

/-! ### Numbers of ten digits -/

/-- `{value:010}`. -/
def padded (value : ℕ) : List Char := (Nat.toDigits 10 value).leftpad 10 '0'

theorem toNat_of_isDigit {c : Char} (h : c.isDigit = true) : 48 ≤ c.toNat ∧ c.toNat ≤ 57 := by
  rw [Char.isDigit, Bool.and_eq_true, decide_eq_true_eq, decide_eq_true_eq] at h
  exact ⟨UInt32.le_iff_toNat_le.mp h.1, UInt32.le_iff_toNat_le.mp h.2⟩

theorem isDigit_of_mem_padded {value : ℕ} {c : Char} (h : c ∈ padded value) :
    c.isDigit = true := by
  rcases List.mem_append.mp h with h | h
  · rw [List.eq_of_mem_replicate h]
    rfl
  · exact Nat.isDigit_of_mem_toDigits (by decide) (by decide) h

theorem not_mem_padded {c : Char} (h : c.isDigit = false) (value : ℕ) : c ∉ padded value := by
  intro hmem
  rw [isDigit_of_mem_padded hmem] at h
  cases h

theorem length_padded (value : ℕ) :
    (padded value).length = max 10 (Nat.toDigits 10 value).length := List.length_leftpad

theorem length_padded_of_lt {value : ℕ} (h : value < 10 ^ 10) : (padded value).length = 10 := by
  rw [length_padded, max_eq_left ((Nat.length_toDigits_le_iff (by decide) (by decide)).mpr h)]

theorem length_padded_le (value : ℕ) (h : value < 10 ^ 20) : (padded value).length ≤ 20 := by
  rw [length_padded]
  exact max_le (by decide) ((Nat.length_toDigits_le_iff (by decide) (by decide)).mpr h)

theorem le_length_padded (value : ℕ) : 10 ≤ (padded value).length := by
  rw [length_padded]
  exact le_max_left _ _

theorem length_encode_padded (value : ℕ) :
    (encode (padded value)).length = (padded value).length := by
  have hdigits : ∀ digits : List Char, (∀ c ∈ digits, c.isDigit = true) →
      (encode digits).length = digits.length := by
    intro digits h
    induction digits with
    | nil => rfl
    | cons c digits ih =>
        obtain ⟨-, hc⟩ := toNat_of_isDigit (h c List.mem_cons_self)
        have hsize : c.utf8Size = 1 :=
          Char.utf8Size_eq_one_iff.mpr (UInt32.le_iff_toNat_le.mpr (hc.trans (by decide)))
        rw [length_encode_cons, hsize, ih fun d hd => h d (List.mem_cons_of_mem c hd),
          List.length_cons, Nat.add_comm]
  exact hdigits _ fun c => isDigit_of_mem_padded

/-- A number is read back. -/
theorem parseUsize_padded {value : ℕ} (h : value < 2 ^ 64) :
    parseUsize (padded value) = some value := by
  have hne : padded value ≠ [] := by
    intro hnil
    have hlen := le_length_padded value
    rw [hnil, List.length_nil] at hlen
    omega
  have hsign : ¬ (padded value).head? = some '+' := fun hhead =>
    not_mem_padded (by decide) value (List.mem_of_mem_head? hhead)
  have hdigits : ofDigits (padded value) = value := by
    -- the fold is that of the base ten digits
    have hfold : ∀ (digits : List Char) (n : ℕ),
        digits.foldl (fun n c => n * 10 + (c.toNat - 48)) n = Nat.ofDigitChars 10 digits n := by
      intro digits
      induction digits with
      | nil => exact fun n => rfl
      | cons c digits ih =>
          intro n
          rw [List.foldl_cons, ih, Nat.ofDigitChars_cons, Nat.mul_comm]
          rfl
    rw [ofDigits, hfold, padded, List.leftpad, Nat.ofDigitChars_append,
      Nat.ofDigitChars_replicate_zero, Nat.mul_zero, Nat.ofDigitChars_ten_toDigits]
  -- nine digits at least and no sign, so the parse succeeds
  have hall : (padded value).all Char.isDigit = true :=
    List.all_eq_true.mpr fun c => isDigit_of_mem_padded
  unfold parseUsize
  rw [if_neg hsign]
  dsimp only
  rw [hdigits]
  exact if_pos ⟨hne, hall, h⟩

theorem trim_padded (value : ℕ) : trim (padded value) = padded value := by
  have hspace : ∀ c ∈ padded value, ¬ isWhitespace c = true := by
    intro c hc
    obtain ⟨hlo, hhi⟩ := toNat_of_isDigit (isDigit_of_mem_padded hc)
    simp only [isWhitespace, Bool.or_eq_true, Bool.and_eq_true, decide_eq_true_eq, beq_iff_eq]
    omega
  have hleft : (padded value).dropWhile isWhitespace = padded value := by
    rcases hp : padded value with - | ⟨c, digits⟩
    · rfl
    · exact List.dropWhile_cons_of_neg (hspace c (by rw [hp]; exact List.mem_cons_self))
  rw [trim, hleft, List.rdropWhile_eq_self_iff]
  exact fun hne => hspace _ (List.getLast_mem hne)

/-! ### The payload in HTML -/

/-- A line of the header. -/
def headerLine (key : String) (value : List Char) : List Char :=
  key.toList ++ (value ++ "\r\n".toList)

/-- The header, with its lines. -/
def htmlHeader (entries : List (String × List Char)) : List Char :=
  "Version:1.0\r\n".toList ++ entries.flatMap fun (key, value) => headerLine key value

/-- `PLACEHOLDER`. -/
def placeholder : List Char := "0000000000".toList

/-- `replace_range`. -/
def replaceRange (text : List Char) (start stop : ℕ) (part : List Char) : Checked (List Char) :=
  inRange do
    let (before, rest) ← splitAtByte start text
    let (_, rest) ← splitAtByte (stop - start) rest
    return before ++ (part ++ rest)

/-- One offset is filled in, where its key is found first. -/
def fillIn (payload : List Char) (entry : String × ℕ) : Checked (List Char) := do
  let (key, value) := entry
  let position ← inRange (find key.toList payload)
  let start := position + (encode key.toList).length
  replaceRange payload start (start + (encode placeholder).length) (padded value)

/-- `cf_html`. -/
def cfHtml (fragment : List Char) : Checked Bytes := do
  let payload := htmlHeader [("StartHTML:", placeholder), ("EndHTML:", placeholder),
    ("StartFragment:", placeholder), ("EndFragment:", placeholder)]
  let startHtml := (encode payload).length
  let payload := payload ++ "<html><body><!--StartFragment-->".toList
  let startFragment := (encode payload).length
  let payload := payload ++ fragment
  let endFragment := (encode payload).length
  let payload := payload ++ "<!--EndFragment--></body></html>".toList
  let endHtml := (encode payload).length
  let payload ← [("StartHTML:", startHtml), ("EndHTML:", endHtml),
    ("StartFragment:", startFragment), ("EndFragment:", endFragment)].foldlM fillIn payload
  .ok (encode payload)

theorem replaceRange_append (before part rest new : List Char) :
    replaceRange (before ++ (part ++ rest)) (encode before).length
      ((encode before).length + (encode part).length) new = .ok (before ++ (new ++ rest)) := by
  rw [replaceRange, splitAtByte_append, Option.bind_eq_bind, Option.bind_some]
  dsimp only
  rw [Nat.add_sub_cancel_left, splitAtByte_append]
  rfl

/-- The placeholder behind a key is filled. -/
theorem fillIn_append {before : List Char} {key : String}
    (hbefore : misses key.toList before = true) (value : ℕ) (rest : List Char) :
    fillIn (before ++ (headerLine key placeholder ++ rest)) (key, value) =
      .ok (before ++ (headerLine key (padded value) ++ rest)) := by
  have hfind : find key.toList (before ++ (headerLine key placeholder ++ rest)) =
      some (encode before).length := by
    rw [find_append hbefore, headerLine, List.append_assoc, find_self]
    rfl
  have hreplace := replaceRange_append (before ++ key.toList) placeholder
    ("\r\n".toList ++ rest) (padded value)
  rw [encode_append, List.length_append] at hreplace
  unfold fillIn
  dsimp only
  rw [hfind, show inRange (some (encode before).length) = .ok (encode before).length from rfl,
    ok_bind]
  simp only [headerLine, List.append_assoc] at hreplace ⊢
  exact hreplace

/-- The part after the header. -/
def htmlBody (fragment : List Char) : List Char :=
  "<html><body>".toList ++ (startMarker ++ (fragment ++ (endMarker ++ "</body></html>".toList)))

/-- A key that is neither in the key of a line nor begins with a digit is not in the line. -/
def apart (key line : String) : Bool :=
  key.toList.head?.any (fun c => !c.isDigit) && misses key.toList line.toList &&
    misses key.toList "\r\n".toList

theorem misses_headerLine {key line : String} (h : apart key line = true) (value : ℕ) :
    misses key.toList (headerLine line (padded value)) = true := by
  obtain ⟨h, hend⟩ := Bool.and_eq_true_iff.mp h
  obtain ⟨hdigit, hline⟩ := Bool.and_eq_true_iff.mp h
  refine misses_append hline (misses_append ?_ hend)
  generalize key.toList = part at hdigit ⊢
  cases part with
  | nil => cases hdigit
  | cons c part =>
      refine misses_of_not_mem (not_mem_padded ?_ value)
      rwa [List.head?_cons, Option.any_some, Bool.not_eq_true'] at hdigit

/-- All placeholders are filled, if no key is in a line before its own. -/
theorem foldlM_fillIn {entries : List (String × ℕ)} {before : List Char}
    (hbefore : ∀ entry ∈ entries, misses entry.1.toList before = true)
    (hlines : entries.Pairwise fun entry later =>
      misses later.1.toList (headerLine entry.1 (padded entry.2)) = true) (rest : List Char) :
    entries.foldlM fillIn
        (before ++ (entries.flatMap (fun entry => headerLine entry.1 placeholder) ++ rest)) =
      .ok (before ++
        (entries.flatMap (fun entry => headerLine entry.1 (padded entry.2)) ++ rest)) := by
  induction entries generalizing before with
  | nil => rfl
  | cons entry entries ih =>
      obtain ⟨hlater, hlines⟩ := List.pairwise_cons.mp hlines
      have hnext : ∀ later ∈ entries,
          misses later.1.toList (before ++ headerLine entry.1 (padded entry.2)) = true :=
        fun later h => misses_append (hbefore later (List.mem_cons_of_mem entry h)) (hlater later h)
      rw [List.flatMap_cons, List.flatMap_cons, List.append_assoc, List.append_assoc,
        List.foldlM_cons, fillIn_append (hbefore entry List.mem_cons_self),
        ← List.append_assoc before, ← List.append_assoc before]
      exact ih hnext hlines

/-- The lines of the header of a fragment with so many bytes. -/
def htmlEntries (n : ℕ) : List (String × ℕ) :=
  [("StartHTML:", 105), ("EndHTML:", 169 + n), ("StartFragment:", 137), ("EndFragment:", 137 + n)]

/-- The payload of a fragment. -/
def htmlPayload (fragment : List Char) : List Char :=
  "Version:1.0\r\n".toList ++ ((htmlEntries (encode fragment).length).flatMap
    (fun entry => headerLine entry.1 (padded entry.2)) ++ htmlBody fragment)

/-! ### The strings of the payload -/

/-- How long they are. -/
theorem html_lengths :
    (encode (htmlHeader [("StartHTML:", placeholder), ("EndHTML:", placeholder),
      ("StartFragment:", placeholder), ("EndFragment:", placeholder)])).length = 105 ∧
    (encode "<html><body><!--StartFragment-->".toList).length = 32 ∧
    (encode "<!--EndFragment--></body></html>".toList).length = 32 ∧
    (encode (endMarker ++ "</body></html>".toList)).length = 32 ∧
    (encode "Version:1.0\r\n".toList).length = 13 ∧
    (encode "StartHTML:".toList).length = 10 ∧ (encode "EndHTML:".toList).length = 8 ∧
    (encode "StartFragment:".toList).length = 14 ∧ (encode "EndFragment:".toList).length = 12 ∧
    (encode "<html><body>".toList).length = 12 ∧ (encode startMarker).length = 20 ∧
    (encode "\r\n".toList).length = 2 := by decide +kernel

theorem length_encode_startMarker : (encode startMarker).length = 20 := by
  obtain ⟨-, -, -, -, -, -, -, -, -, -, hmarker, -⟩ := html_lengths
  exact hmarker

/-- What they are put together from. -/
theorem html_parts :
    "<html><body><!--StartFragment-->".toList = "<html><body>".toList ++ startMarker ∧
    "<!--EndFragment--></body></html>".toList = endMarker ++ "</body></html>".toList ∧
    "</body></html>".toList = "</body></html".toList ++ ['>'] ∧
    "Version:1.0\r\n".toList = "Version:1.0".toList ++ ['\r', '\n'] ∧
    "Version:1.0\r\n".toList = 'V' :: "ersion:1.0\r\n".toList := by decide +kernel

/-- The number on a line with the name. -/
def lineOffset (name : String) (line : List Char) : Option ℕ := do
  let (key, value) ← splitOnce ':' (line.rdropWhile fun c => c == '\r')
  if key = name.toList then parseUsize (trim value) else none

/-- A key is a name with a colon. -/
def isKey (key : String) : Bool :=
  key.toList.getLast? == some ':' &&
    key.toList.dropLast.all fun c => c != ':' && c != '\r' && c != '\n'

/-- The keys of the header, and the names that are looked for. -/
theorem header_keys :
    '\n' ∉ "Version:1.0".toList ∧
    (∀ name ∈ ["StartFragment", "EndFragment"], lineOffset name "Version:1.0".toList = none) ∧
    (∀ key ∈ ["StartHTML:", "EndHTML:", "StartFragment:", "EndFragment:"],
      misses key.toList "Version:1.0\r\n".toList = true) ∧
    (["StartHTML:", "EndHTML:", "StartFragment:", "EndFragment:"].Pairwise
      fun line key => apart key line = true) ∧
    (∀ key ∈ ["StartHTML:", "EndHTML:", "StartFragment:", "EndFragment:"], isKey key = true) ∧
    ("StartHTML:".toList.dropLast ≠ "StartFragment".toList ∧
      "EndHTML:".toList.dropLast ≠ "StartFragment".toList ∧
      "StartFragment:".toList.dropLast = "StartFragment".toList) ∧
    "StartHTML:".toList.dropLast ≠ "EndFragment".toList ∧
    "EndHTML:".toList.dropLast ≠ "EndFragment".toList ∧
    "StartFragment:".toList.dropLast ≠ "EndFragment".toList ∧
    "EndFragment:".toList.dropLast = "EndFragment".toList := by decide +kernel

/-! ### The payload that is built -/

/-- The header before the offsets are filled in. -/
theorem htmlHeader_eq (n : ℕ) :
    htmlHeader [("StartHTML:", placeholder), ("EndHTML:", placeholder),
      ("StartFragment:", placeholder), ("EndFragment:", placeholder)] =
    "Version:1.0\r\n".toList ++
      (htmlEntries n).flatMap fun entry => headerLine entry.1 placeholder := by
  have hentries : [("StartHTML:", placeholder), ("EndHTML:", placeholder),
      ("StartFragment:", placeholder), ("EndFragment:", placeholder)] =
      (htmlEntries n).map fun entry => (entry.1, placeholder) := rfl
  exact (congrArg htmlHeader hentries).trans (congrArg _ (List.flatMap_map _ _ _))

theorem cfHtml_eq (fragment : List Char) :
    cfHtml fragment = .ok (encode (htmlPayload fragment)) := by
  -- the lengths that the header gives are those of its parts
  obtain ⟨hhead, hstart, hend, -⟩ := html_lengths
  obtain ⟨hopen, hclose, -⟩ := html_parts
  obtain ⟨-, -, hversion, hapart, -⟩ := header_keys
  have hbody : "<html><body><!--StartFragment-->".toList ++ (fragment ++
      "<!--EndFragment--></body></html>".toList) = htmlBody fragment :=
    (congrArg₂ (fun s t => s ++ (fragment ++ t)) hopen hclose).trans (List.append_assoc _ _ _)
  have hend' : 105 + 32 + (encode fragment).length + 32 = 169 + (encode fragment).length := by
    omega
  have hlines : (htmlEntries (encode fragment).length).Pairwise fun line key =>
      apart key.1 line.1 = true :=
    (List.pairwise_map (f := Prod.fst) (R := fun line key => apart key line = true)).mp hapart
  -- each line is filled in, and no later one falls on an earlier
  have hfill := @foldlM_fillIn (htmlEntries (encode fragment).length) _
    (fun entry h => hversion entry.1 (List.mem_map_of_mem h))
    (hlines.imp fun h => misses_headerLine h _)
    (htmlBody fragment)
  unfold cfHtml
  dsimp only
  simp only [encode_append, List.length_append, hhead, hstart, hend, hend']
  -- the payload before it is filled in is the header with placeholders
  have hpayload : htmlHeader [("StartHTML:", placeholder), ("EndHTML:", placeholder),
      ("StartFragment:", placeholder), ("EndFragment:", placeholder)] ++
      "<html><body><!--StartFragment-->".toList ++ fragment ++
      "<!--EndFragment--></body></html>".toList =
      "Version:1.0\r\n".toList ++ ((htmlEntries (encode fragment).length).flatMap
        (fun entry => headerLine entry.1 placeholder) ++ htmlBody fragment) :=
    calc
      _ = _ := List.append_assoc _ _ _
      _ = _ := List.append_assoc _ _ _
      _ = _ := congrArg₂ (· ++ ·) (htmlHeader_eq (encode fragment).length) hbody
      _ = _ := List.append_assoc _ _ _
  have hloop := (congrArg (List.foldlM fillIn · (htmlEntries (encode fragment).length))
    hpayload).trans hfill
  exact congrArg (fun x : Checked (List Char) => x >>= fun payload => .ok (encode payload)) hloop

/-! ### The offsets of the payload -/

theorem linesFrom_append {line : List Char} (h : '\n' ∉ line) (start text : List Char) :
    linesFrom start (line ++ '\r' :: '\n' :: text) = (start ++ line) :: lines text := by
  induction line generalizing start with
  | nil =>
      have hend : endLine (start ++ ['\r']) = start := by
        rw [endLine, List.getLast?_concat, if_pos rfl, List.dropLast_concat]
      rw [List.nil_append, linesFrom, if_neg (by decide), linesFrom, if_pos rfl, hend,
        List.append_nil]
      rfl
  | cons c line ih =>
      obtain ⟨hc, hline⟩ := not_or.mp (mt List.mem_cons.mpr h)
      rw [List.cons_append, linesFrom, if_neg (Ne.symm hc), ih hline, List.append_assoc]
      rfl

/-- The first line is looked at first. -/
theorem htmlOffset_append {line : List Char} (h : '\n' ∉ line) (name : String) (text : List Char) :
    htmlOffset (line ++ '\r' :: '\n' :: text) name =
      (lineOffset name line).or (htmlOffset text name) := by
  show (linesFrom [] (line ++ '\r' :: '\n' :: text)).findSome? (lineOffset name) = _
  rw [linesFrom_append h, List.nil_append, List.findSome?_cons]
  rcases lineOffset name line with - | value
  · rfl
  · rfl

theorem splitOnce_append {separator : Char} {before : List Char} (h : separator ∉ before)
    (text : List Char) :
    splitOnce separator (before ++ separator :: text) = some (before, text) := by
  induction before with
  | nil => exact if_pos rfl
  | cons c before ih =>
      obtain ⟨hc, hbefore⟩ := not_or.mp (mt List.mem_cons.mpr h)
      rw [List.cons_append, splitOnce, if_neg (Ne.symm hc), ih hbefore]
      rfl

/-- The number on a line of the header is found by its key. -/
theorem htmlOffset_headerLine {key : String} (hkey : isKey key = true) {value : ℕ}
    (hvalue : value < 2 ^ 64) (name : String) (text : List Char) :
    htmlOffset (headerLine key (padded value) ++ text) name =
      if key.toList.dropLast = name.toList then some value else htmlOffset text name := by
  obtain ⟨hlast, hall⟩ := Bool.and_eq_true_iff.mp hkey
  have hsplit : key.toList.dropLast ++ [':'] = key.toList :=
    List.dropLast_append_getLast? ':' (eq_of_beq hlast)
  generalize key.toList.dropLast = word at hsplit hall
  -- the word of a key has no colon and no line break, and neither has its line
  have hword : ∀ c ∈ word, c ≠ ':' ∧ c ≠ '\r' ∧ c ≠ '\n' := by
    intro c hc
    have h := List.all_eq_true.mp hall c hc
    simpa only [Bool.and_eq_true, bne_iff_ne, and_assoc] using h
  have hnot : ∀ c, c.isDigit = false → c ≠ ':' → c ∉ word → c ∉ word ++ ':' :: padded value := by
    intro c hdigit hcolon hnot hmem
    rcases List.mem_append.mp hmem with hmem | hmem
    · exact hnot hmem
    · rcases List.mem_cons.mp hmem with hmem | hmem
      · exact hcolon hmem
      · exact not_mem_padded hdigit value hmem
  have hcr := hnot '\r' (by decide) (by decide) fun h => (hword _ h).2.1 rfl
  have hlf := hnot '\n' (by decide) (by decide) fun h => (hword _ h).2.2 rfl
  -- the line ends where the break stands
  have hline : headerLine key (padded value) ++ text =
      (word ++ ':' :: padded value) ++ '\r' :: '\n' :: text := by
    rw [headerLine, ← hsplit, List.append_assoc, List.append_assoc, List.append_assoc,
      List.append_assoc]
    rfl
  have htrim : (word ++ ':' :: padded value).rdropWhile (fun c => c == '\r') =
      word ++ ':' :: padded value := by
    rw [List.rdropWhile_eq_self_iff]
    exact fun hne h => hcr (eq_of_beq h ▸ List.getLast_mem hne)
  -- what is before the colon names the key, what is behind it is the number
  have hoffset : lineOffset name (word ++ ':' :: padded value) =
      if word = name.toList then some value else none := by
    rw [lineOffset, htrim, splitOnce_append fun h => (hword _ h).1 rfl, Option.bind_eq_bind,
      Option.bind_some]
    dsimp only
    rw [trim_padded, parseUsize_padded hvalue]
  rw [hline, htmlOffset_append hlf, hoffset]
  split_ifs
  · rfl
  · rfl

/-- The first line of the header has none of the offsets. -/
theorem htmlOffset_version {name : String} (h : name ∈ ["StartFragment", "EndFragment"])
    (text : List Char) :
    htmlOffset ("Version:1.0\r\n".toList ++ text) name = htmlOffset text name := by
  obtain ⟨-, -, -, hline, -⟩ := html_parts
  obtain ⟨hlf, hnone, -⟩ := header_keys
  rw [hline, List.append_assoc]
  exact (htmlOffset_append hlf name text).trans
    (congrArg (fun offset => offset.or (htmlOffset text name)) (hnone name h))

theorem htmlOffset_skip {key : String} (hkey : isKey key = true) {value : ℕ}
    (hvalue : value < 2 ^ 64) {name : String} (hname : key.toList.dropLast ≠ name.toList)
    (text : List Char) :
    htmlOffset (headerLine key (padded value) ++ text) name = htmlOffset text name :=
  (htmlOffset_headerLine hkey hvalue name text).trans (if_neg hname)

theorem htmlPayload_eq (fragment : List Char) : htmlPayload fragment =
    "Version:1.0\r\n".toList ++ (headerLine "StartHTML:" (padded 105) ++
      (headerLine "EndHTML:" (padded (169 + (encode fragment).length)) ++
        (headerLine "StartFragment:" (padded 137) ++
          (headerLine "EndFragment:" (padded (137 + (encode fragment).length)) ++
            htmlBody fragment)))) := by
  have hfour : ∀ (line : String × ℕ → List Char) (a b c d : String × ℕ) (text : List Char),
      [a, b, c, d].flatMap line ++ text = line a ++ (line b ++ (line c ++ (line d ++ text))) := by
    intro line a b c d text
    simp only [List.flatMap_cons, List.flatMap_nil, List.append_assoc, List.nil_append]
  exact congrArg ("Version:1.0\r\n".toList ++ ·) (hfour _ _ _ _ _ _)

/-- The offsets of the payload are read back. -/
theorem htmlOffset_htmlPayload {fragment : List Char} (hlen : (encode fragment).length < 2 ^ 63) :
    htmlOffset (htmlPayload fragment) "StartFragment" = some 137 ∧
      htmlOffset (htmlPayload fragment) "EndFragment" = some (137 + (encode fragment).length) := by
  obtain ⟨-, -, -, -, hkeys, ⟨hstart₁, hstart₂, hstart₃⟩, hend₁, hend₂, hend₃, hend₄⟩ :=
    header_keys
  have hkey₁ := hkeys "StartHTML:" (by decide)
  have hkey₂ := hkeys "EndHTML:" (by decide)
  have hkey₃ := hkeys "StartFragment:" (by decide)
  have hkey₄ := hkeys "EndFragment:" (by decide)
  constructor
  · -- the lines before are for other keys
    calc
      htmlOffset (htmlPayload fragment) "StartFragment"
      _ = _ := congrArg (htmlOffset · "StartFragment") (htmlPayload_eq fragment)
      _ = _ := htmlOffset_version (by decide) _
      _ = _ := htmlOffset_skip hkey₁ (by omega) hstart₁ _
      _ = _ := htmlOffset_skip hkey₂ (by omega) hstart₂ _
      _ = _ := htmlOffset_headerLine hkey₃ (by omega) "StartFragment" _
      _ = some 137 := if_pos hstart₃
  · calc
      htmlOffset (htmlPayload fragment) "EndFragment"
      _ = _ := congrArg (htmlOffset · "EndFragment") (htmlPayload_eq fragment)
      _ = _ := htmlOffset_version (by decide) _
      _ = _ := htmlOffset_skip hkey₁ (by omega) hend₁ _
      _ = _ := htmlOffset_skip hkey₂ (by omega) hend₂ _
      _ = _ := htmlOffset_skip hkey₃ (by omega) hend₃ _
      _ = _ := htmlOffset_headerLine hkey₄ (by omega) "EndFragment" _
      _ = some (137 + (encode fragment).length) := if_pos hend₄

/-! ### The fragment at the offsets -/

/-- How many digits the offsets have beyond ten. -/
def extraDigits (n : ℕ) : ℕ := ((padded (169 + n)).length - 10) + ((padded (137 + n)).length - 10)

/-- The bytes that the offsets are those of. -/
def shiftedFragment (fragment : List Char) : Bytes :=
  let n := (encode fragment).length
  ((encode startMarker).drop (20 - extraDigits n) ++ encode fragment).take n

theorem extraDigits_le {n : ℕ} (h : n < 2 ^ 63) : extraDigits n ≤ 20 := by
  have h₁ := length_padded_le (169 + n) (by omega)
  have h₂ := length_padded_le (137 + n) (by omega)
  unfold extraDigits
  omega

theorem length_encode_headerLine {key : String} {value : ℕ} :
    (encode (headerLine key (padded value))).length =
      (encode key.toList).length + ((padded value).length + 2) := by
  obtain ⟨-, -, -, -, -, -, -, -, -, -, -, hend⟩ := html_lengths
  rw [headerLine, encode_append, encode_append, List.length_append, List.length_append,
    length_encode_padded, hend]

/-- The payload has its marker and the fragment where the digits have moved them. -/
theorem encode_htmlPayload (fragment : List Char) : ∃ before after : Bytes,
    encode (htmlPayload fragment) =
      before ++ (encode startMarker ++ (encode fragment ++ after)) ∧
    before.length = 117 + extraDigits (encode fragment).length ∧ after.length = 32 := by
  have hassoc : ∀ v l₁ l₂ l₃ l₄ o text : List Char,
      v ++ (l₁ ++ (l₂ ++ (l₃ ++ (l₄ ++ (o ++ text))))) =
        (v ++ (l₁ ++ (l₂ ++ (l₃ ++ (l₄ ++ o))))) ++ text := by
    intro v l₁ l₂ l₃ l₄ o text
    simp only [List.append_assoc]
  have hsplit := (htmlPayload_eq fragment).trans (hassoc _ _ _ _ _ _ _)
  have hencode : ∀ before marker text after : List Char,
      encode (before ++ (marker ++ (text ++ after))) =
        encode before ++ (encode marker ++ (encode text ++ encode after)) := by
    intro before marker text after
    rw [encode_append, encode_append, encode_append]
  obtain ⟨-, -, -, hafter, -⟩ := html_lengths
  refine ⟨_, _, (congrArg encode hsplit).trans (hencode _ _ _ _), ?_, ?_⟩
  · obtain ⟨-, -, -, -, hversion, hkey₁, hkey₂, hkey₃, hkey₄, hopen, -⟩ := html_lengths
    have hend := le_length_padded (169 + (encode fragment).length)
    have hend' := le_length_padded (137 + (encode fragment).length)
    simp only [encode_append, List.length_append, length_encode_headerLine, hversion, hkey₁, hkey₂,
      hkey₃, hkey₄, hopen, length_padded_of_lt (show 105 < 10 ^ 10 by decide),
      length_padded_of_lt (show 137 < 10 ^ 10 by decide), extraDigits]
    omega
  · exact hafter

/-- What the offsets are those of. -/
theorem sliceBytes_htmlPayload {fragment : List Char} (hlen : (encode fragment).length < 2 ^ 63) :
    sliceBytes (encode (htmlPayload fragment)) 137 (137 + (encode fragment).length) =
      .ok (shiftedFragment fragment) := by
  obtain ⟨before, after, hdata, hbefore, hafter⟩ := encode_htmlPayload fragment
  have hmarker := length_encode_startMarker
  have hextra := extraDigits_le hlen
  have hfits : 137 + (encode fragment).length ≤ (encode (htmlPayload fragment)).length := by
    rw [hdata]
    simp only [List.length_append]
    omega
  have hlong : (encode fragment).length ≤ ((encode startMarker).drop
      (20 - extraDigits (encode fragment).length) ++ encode fragment).length := by
    rw [List.length_append]
    exact Nat.le_add_left _ _
  rw [sliceBytes, if_pos ⟨Nat.le_add_right _ _, hfits⟩, List.drop_take, Nat.add_sub_cancel_left,
    hdata, List.drop_append, List.drop_eq_nil_of_le (by omega), List.nil_append,
    List.drop_append_of_le_length (by omega), ← List.append_assoc,
    List.take_append_of_le_length]
  · rw [hbefore, show 137 - (117 + extraDigits (encode fragment).length) =
      20 - extraDigits (encode fragment).length by omega]
    rfl
  · rw [hbefore, show 137 - (117 + extraDigits (encode fragment).length) =
      20 - extraDigits (encode fragment).length by omega]
    exact hlong

theorem length_shiftedFragment (fragment : List Char) :
    (shiftedFragment fragment).length = (encode fragment).length := by
  unfold shiftedFragment
  dsimp only
  rw [List.length_take, List.length_append]
  exact Nat.min_eq_left (Nat.le_add_left _ _)

/-- Offsets of ten digits are those of the fragment. -/
theorem shiftedFragment_of_lt {fragment : List Char}
    (h : 169 + (encode fragment).length < 10 ^ 10) :
    shiftedFragment fragment = encode fragment := by
  have hmarker := length_encode_startMarker
  have hextra : extraDigits (encode fragment).length = 0 := by
    rw [extraDigits, length_padded_of_lt h, length_padded_of_lt (by omega)]
  unfold shiftedFragment
  dsimp only
  rw [hextra, List.drop_eq_nil_of_le (by omega), List.nil_append, List.take_length]

/-! ### Decoding HTML -/

/-- The payload begins and ends as HTML does. -/
theorem exists_of_htmlPayload (fragment : List Char) :
    ∃ text, htmlPayload fragment = 'V' :: (text ++ ['>']) := by
  obtain ⟨-, -, hclose, -, hversion⟩ := html_parts
  have hassoc : ∀ version version' close close' entries o marker text marker' : List Char,
      version = 'V' :: version' → close = close' ++ ['>'] →
      version ++ (entries ++ (o ++ (marker ++ (text ++ (marker' ++ close))))) = 'V' ::
        ((version' ++ (entries ++ (o ++ (marker ++ (text ++ (marker' ++ close')))))) ++ ['>']) := by
    rintro _ version' _ close' entries o marker text marker' rfl rfl
    simp only [List.append_assoc, List.cons_append]
  exact ⟨_, hassoc _ _ _ _ _ _ _ _ _ hversion hclose⟩

/-- What the payload is decoded to. -/
theorem decodeRdpTextPayload_htmlPayload {fragment : List Char} (hne : encode fragment ≠ [])
    (hlen : (encode fragment).length < 2 ^ 63) :
    decodeRdpTextPayload (encode (htmlPayload fragment)) "text/html" =
      .ok (trimTextTerminator
        ((decode? (shiftedFragment fragment)).getD (htmlPayload fragment))) := by
  -- the offsets are where the fragment stands, and inside the payload
  obtain ⟨before, after, hdata, hbefore, hafter⟩ := encode_htmlPayload fragment
  obtain ⟨hstart, hend⟩ := htmlOffset_htmlPayload hlen
  obtain ⟨text, htext⟩ := exists_of_htmlPayload fragment
  have hpos : 0 < (encode fragment).length := List.length_pos_iff.mpr hne
  have hfits : 137 + (encode fragment).length ≤ (encode (htmlPayload fragment)).length := by
    rw [hdata]
    simp only [List.length_append]
    have hmarker := length_encode_startMarker
    omega
  have hfragment : cfHtmlFragment (encode (htmlPayload fragment)) =
      .ok (decode? (shiftedFragment fragment)) := by
    unfold cfHtmlFragment
    rw [decode?_encode]
    dsimp only
    rw [hstart, hend]
    dsimp only
    rw [if_pos ⟨by omega, hfits⟩, sliceBytes_htmlPayload hlen, ok_bind]
  -- a payload opens with the V of Version, which opens no mark
  have hmime : startsWith "text/html" "text/html" = true := by decide
  have hbytes : encode (htmlPayload fragment) = 0x56 :: encode (text ++ ['>']) := by
    rw [htext]
    rfl
  rw [decodeRdpTextPayload, if_pos hmime, decodeHtml, hfragment, ok_bind]
  -- where the slice is no UTF-8 the whole payload is the text
  rcases decode? (shiftedFragment fragment) with - | fragment'
  · dsimp only
    have hmark : ∀ b mark, b ≠ 0x56 →
        ¬ (b :: mark).isPrefixOf (encode (htmlPayload fragment)) = true := by
      intro b mark hb h
      rw [hbytes, List.isPrefixOf_iff_prefix] at h
      exact hb (List.cons_prefix_cons.mp h).1
    have hle : ¬ leMark.isPrefixOf (encode (htmlPayload fragment)) = true :=
      hmark 0xFF _ (by decide)
    have hbe : ¬ beMark.isPrefixOf (encode (htmlPayload fragment)) = true :=
      hmark 0xFE _ (by decide)
    have hutf8 : ¬ utf8Mark.isPrefixOf (encode (htmlPayload fragment)) = true :=
      hmark 0xEF _ (by decide)
    rw [if_neg hle, if_neg hbe, if_neg hutf8, decode?_encode]
    rfl
  · rfl

/-- **HTML is decoded again** if and only if the bytes at the offsets are the fragment. -/
theorem decode_cfHtml_iff {fragment : List Char} (hbegin : fragment.head? ≠ some '\uFEFF')
    (hend : fragment.getLast? ≠ some '\x00') (hlen : (encode fragment).length < 2 ^ 63) :
    (∃ payload, cfHtml fragment = .ok payload ∧
      decodeRdpTextPayload payload "text/html" = .ok fragment) ↔
      shiftedFragment fragment = encode fragment := by
  rw [cfHtml_eq]
  simp only [Except.ok.injEq, exists_eq_left']
  by_cases hne : encode fragment = []
  · obtain rfl : fragment = [] := encode_injective hne
    exact iff_of_true (by decide +kernel) rfl
  rw [decodeRdpTextPayload_htmlPayload hne hlen, Except.ok.injEq]
  have hlength := length_shiftedFragment fragment
  rcases hread : decode? (shiftedFragment fragment) with - | text
  · refine iff_of_false (fun h => ?_) fun h => ?_
    · -- all of the payload is longer
      obtain ⟨text, htext⟩ := exists_of_htmlPayload fragment
      obtain ⟨before, after, hdata, hbefore, hafter⟩ := encode_htmlPayload fragment
      have hself : trimTextTerminator (htmlPayload fragment) = htmlPayload fragment := by
        rw [htext]
        refine trimTextTerminator_eq_self (show some 'V' ≠ some '\uFEFF' by decide) fun h => ?_
        rw [← List.cons_append, List.getLast?_concat] at h
        exact absurd h (by decide)
      rw [Option.getD_none, hself] at h
      have hlong := congrArg List.length hdata
      rw [h] at hlong
      simp only [List.length_append] at hlong
      omega
    · rw [h, decode?_encode] at hread
      cases hread
  · rw [decode?_eq_some] at hread
    rw [Option.getD_some, hread]
    constructor
    · intro h
      obtain ⟨marks, text', nuls, -, htext, htrim⟩ := exists_of_trimTextTerminator text
      obtain rfl : text' = fragment := htrim.symm.trans h
      rw [hread, htext, encode_append, encode_append, List.length_append, List.length_append]
        at hlength
      have hmarks : marks = [] :=
        encode_injective (List.length_eq_zero_iff.mp (show (encode marks).length = 0 by omega))
      have hnuls : nuls = [] :=
        encode_injective (List.length_eq_zero_iff.mp (show (encode nuls).length = 0 by omega))
      rw [htext, hmarks, hnuls, List.nil_append, List.append_nil]
    · intro h
      obtain rfl := encode_injective h
      exact trimTextTerminator_eq_self hbegin hend

/-! ### Decoding plain text -/

/-- `s.encode_utf16()` with a NUL, in bytes. -/
def unicodePayload (text : List Char) : Bytes := Utf16.bytesLe (Utf16.encode text ++ [0])

theorem unicodePayload_eq (text : List Char) :
    unicodePayload text = Utf16.bytesLe (Utf16.encode text) ++ [0, 0] :=
  Utf16.bytesLe_append _ _

/-- Taken for UTF-16, the payload is the text. -/
theorem eagerText_unicodePayload {text : List Char} (h : '\x00' ∉ text) :
    eagerText (unicodePayload text) = text := by
  have hunits : Utf16.unitsLe (unicodePayload text) = Utf16.encode text ++ [0] := by
    rw [unicodePayload_eq, Utf16.unitsLe_bytesLe_append]
    rfl
  have htake : (Utf16.encode text ++ [0]).takeWhile (fun u => u != 0) = Utf16.encode text := by
    rw [List.takeWhile_append_of_pos]
    · rw [List.takeWhile_cons_of_neg (by decide), List.append_nil]
    · intro u hu
      exact bne_iff_ne.mpr fun hzero => Utf16.zero_not_mem_encode h (hzero ▸ hu)
  rw [eagerText, hunits, htake, Utf16.decodeLossy_encode]

/-- **Plain text is decoded again** if and only if its bytes do not begin with the mark of
UTF-8. -/
theorem decode_unicodePayload_iff {text : List Char} (hnul : '\x00' ∉ text)
    (hle : text.head? ≠ some '\uFEFF') (hbe : text.head? ≠ some '\uFFFE') :
    decodeRdpTextPayload (unicodePayload text) "text/plain" = .ok text ↔
      ¬ utf8Mark.isPrefixOf (unicodePayload text) = true := by
  have hmime : startsWith "text/plain" "text/html" = false := by decide
  have hlen : 2 ≤ (unicodePayload text).length := by
    rw [unicodePayload_eq, List.length_append]
    exact Nat.le_add_left _ _
  have hread := decodeText_eq_iff hlen
  rw [eagerText_unicodePayload hnul] at hread
  rw [decodeRdpTextPayload, hmime, if_neg Bool.false_ne_true, hread]
  -- neither mark of UTF-16 is there, since the text does not open with one
  have hmark : ∀ (lo hi : UInt8) (c : Char), hi ≠ 0 → 0xE0 ≤ hi.toNat →
      hi.toNat * 256 + lo.toNat = c.toNat → text.head? ≠ some c →
      ¬ [lo, hi].isPrefixOf (unicodePayload text) = true := by
    intro lo hi c hne hlarge hunit hhead h
    obtain ⟨rest, hrest⟩ := List.isPrefixOf_iff_prefix.mp h
    have htext := eagerText_unicodePayload hnul
    rw [← hrest, List.cons_append, List.cons_append, eagerText_cons (Or.inl hne) (Or.inr hlarge),
      hunit, Char.ofNat_toNat] at htext
    exact hhead (by rw [← htext]; rfl)
  -- nor is the payload taken for UTF-8, since there is a zero before the last one
  have hraw : rawUtf8? (unicodePayload text) = none := by
    have hstrip : stripNul (unicodePayload text) = Utf16.bytesLe (Utf16.encode text) ++ [0] := by
      have hsplit : unicodePayload text = (Utf16.bytesLe (Utf16.encode text) ++ [0]) ++ [0] := by
        rw [unicodePayload_eq, List.append_assoc]
        rfl
      rw [stripNul, hsplit, List.getLast?_concat, if_pos rfl, List.dropLast_concat]
    rw [rawUtf8?, hstrip, if_pos (List.mem_append_right _ (List.mem_singleton.mpr rfl))]
  exact ⟨fun h => h.utf8, fun h => ⟨h, hmark 0xFF 0xFE '\uFEFF' (by decide) (by decide) rfl hle,
    hmark 0xFE 0xFF '\uFFFE' (by decide) (by decide) rfl hbe, fun hsome => by
      rw [hraw] at hsome
      cases hsome⟩⟩

/-! ### Both ways -/

/-- **What a client encodes is decoded again**: plain text unless its bytes begin with the mark
of UTF-8, HTML unless its offsets have more than ten digits and are those of other bytes. -/
theorem decodeRdpTextPayload_inverts_iff (text fragment : List Char) :
    ('\x00' ∉ text → text.head? ≠ some '\uFEFF' → text.head? ≠ some '\uFFFE' →
      (decodeRdpTextPayload (unicodePayload text) "text/plain" = .ok text ↔
        ¬ utf8Mark.isPrefixOf (unicodePayload text) = true)) ∧
    (fragment.head? ≠ some '\uFEFF' → fragment.getLast? ≠ some '\x00' →
      (encode fragment).length < 2 ^ 63 →
      ((∃ payload, cfHtml fragment = .ok payload ∧
        decodeRdpTextPayload payload "text/html" = .ok fragment) ↔
        shiftedFragment fragment = encode fragment)) :=
  ⟨decode_unicodePayload_iff, decode_cfHtml_iff⟩

/-- A letter, in both ways. -/
theorem letter_decoded_again :
    decodeRdpTextPayload (unicodePayload ['a']) "text/plain" = .ok ['a'] ∧
      ∃ payload, cfHtml ['a'] = .ok payload ∧
        decodeRdpTextPayload payload "text/html" = .ok ['a'] := by
  obtain ⟨hplain, hhtml⟩ := decodeRdpTextPayload_inverts_iff ['a'] ['a']
  exact ⟨(hplain (by decide) (by decide) (by decide)).mpr (by decide),
    (hhtml (by decide) (by decide) (by decide)).mpr (shiftedFragment_of_lt (by decide))⟩

/-- Two Hangul syllables, whose bytes begin with the mark of UTF-8. -/
theorem syllables_taken_for_mark :
    ¬ ((∀ text : List Char, '\x00' ∉ text → text.head? ≠ some '\uFEFF' →
        text.head? ≠ some '\uFFFE' →
        decodeRdpTextPayload (unicodePayload text) "text/plain" = .ok text) ∧
      ∀ fragment : List Char, fragment.head? ≠ some '\uFEFF' → fragment.getLast? ≠ some '\x00' →
        (encode fragment).length < 2 ^ 63 →
        ∃ payload, cfHtml fragment = .ok payload ∧
          decodeRdpTextPayload payload "text/html" = .ok fragment) := by
  rintro ⟨h, -⟩
  have hread : decodeRdpTextPayload (unicodePayload ['\uBBEF', '\uBBBF']) "text/plain" =
      .ok ['\uFFFD'] := by decide +kernel
  have hsyllables := h ['\uBBEF', '\uBBBF'] (by decide) (by decide) (by decide)
  rw [hread] at hsyllables
  exact absurd (Except.ok.inj hsyllables) (by decide)

end LamcoRdp
