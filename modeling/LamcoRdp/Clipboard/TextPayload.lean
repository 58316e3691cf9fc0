/-
LamcoRdp/Clipboard/TextPayload.lean

The text that a client answers with, and the two ways in which it is read.

`decodeRdpTextPayload` reads an answer for the text or HTML that a program asked for.  It
looks for byte order marks, for UTF-8 without NUL and, in HTML, for the offsets of the
fragment, before it takes the bytes for UTF-16.  `eagerText` reads the text that is fetched
up front, and takes it for UTF-16 at once.

Decoding never faults (`decodeRdpTextPayload_ok`).  The preview of the text in the debug log
may, as it is cut off at a byte that need not begin a character (`textBranch_ok_iff`).

Slices are checked: of bytes, they have to be in range, of text, they have to begin and end
between two characters as well.  The library that sanitizes text is a parameter.
-/
import LamcoRdp.Clipboard.Conversion
import LamcoRdp.Lib.Checked
import LamcoRdp.Lib.Utf16
import Mathlib.Data.List.DropRight

namespace LamcoRdp

open Checked Utf8

/-! ### Strings -/

/-- `&data[start..end]`. -/
def sliceBytes (data : Bytes) (start stop : ℕ) : Checked Bytes :=
  if start ≤ stop ∧ stop ≤ data.length then .ok ((data.take stop).drop start)
  else .error .outOfRange

/-- `&data[start..]`. -/
def bytesFrom (data : Bytes) (start : ℕ) : Checked Bytes :=
  if start ≤ data.length then .ok (data.drop start) else .error .outOfRange

/-- `&text[start..]`. -/
def textFrom (text : List Char) (start : ℕ) : Checked (List Char) :=
  inRange ((splitAtByte start text).map Prod.snd)

/-- `&text[start..end]`. -/
def sliceText (text : List Char) (start stop : ℕ) : Checked (List Char) :=
  inRange do
    let (before, _) ← splitAtByte stop text
    let (_, part) ← splitAtByte start before
    return part

/-- One line: a line feed ends it, with the carriage return before it. -/
def endLine (line : List Char) : List Char :=
  if line.getLast? = some '\r' then line.dropLast else line

/-- The lines of a text, the first of which begins with `line`. -/
def linesFrom (line : List Char) : List Char → List (List Char)
  | [] => if line = [] then [] else [line]
  | c :: text =>
      if c = '\n' then endLine line :: linesFrom [] text else linesFrom (line ++ [c]) text

/-- `lines`. -/
def lines (text : List Char) : List (List Char) := linesFrom [] text

/-- `split_once`. -/
def splitOnce (separator : Char) : List Char → Option (List Char × List Char)
  | [] => none
  | c :: text =>
      if c = separator then some ([], text)
      else (splitOnce separator text).map fun (before, rest) => (c :: before, rest)

/-- `char::is_whitespace`. -/
def isWhitespace (c : Char) : Bool :=
  let n := c.toNat
  (9 ≤ n && n ≤ 13) || n == 0x20 || n == 0x85 || n == 0xA0 || n == 0x1680 ||
    (0x2000 ≤ n && n ≤ 0x200A) || n == 0x2028 || n == 0x2029 || n == 0x202F || n == 0x205F ||
    n == 0x3000

/-- `trim`. -/
def trim (text : List Char) : List Char := (text.dropWhile isWhitespace).rdropWhile isWhitespace

/-- The number that digits are. -/
def ofDigits (digits : List Char) : ℕ := digits.foldl (fun n c => n * 10 + (c.toNat - 48)) 0

/-- `parse::<usize>`. -/
def parseUsize (text : List Char) : Option ℕ :=
  let digits := if text.head? = some '+' then text.tail else text
  if digits ≠ [] ∧ digits.all Char.isDigit ∧ ofDigits digits < 2 ^ 64 then some (ofDigits digits)
  else none

/-! ### Decoding an answer -/

/-- `trim_text_terminator`. -/
def trimTextTerminator (text : List Char) : List Char :=
  (text.dropWhile fun c => c == '\uFEFF').rdropWhile fun c => c == '\x00'

/-- A unit that is a byte order mark, in this byte order or the other. -/
def isMark (u : UInt16) : Bool := u == 0xFEFF || u == 0xFFFE

/-- `decode_utf16`. -/
def decodeUtf16 (data : Bytes) (bigEndian : Bool) : List Char :=
  let units := if bigEndian then Utf16.unitsBe data else Utf16.unitsLe data
  Utf16.decodeLossy ((units.dropWhile isMark).takeWhile fun u => u != 0)

/-- The offset in the header of CF_HTML. -/
def htmlOffset (text : List Char) (name : String) : Option ℕ :=
  (lines text).findSome? fun line => do
    let (key, value) ← splitOnce ':' (line.rdropWhile fun c => c == '\r')
    if key = name.toList then parseUsize (trim value) else none

/-- `START`. -/
def startMarker : List Char := "<!--StartFragment-->".toList

/-- `END`. -/
def endMarker : List Char := "<!--EndFragment-->".toList

/-- The text between the markers of the fragment. -/
def markedFragment (text : List Char) : Checked (Option (List Char)) :=
  match find startMarker text with
  | none => .ok none
  | some found => do
      let start := found + (encode startMarker).length
      let rest ← textFrom text start
      match find endMarker rest with
      | none => .ok none
      | some found => do
          let fragment ← sliceText text start (found + start)
          .ok (some fragment)

/-- `cf_html_fragment`. -/
def cfHtmlFragment (data : Bytes) : Checked (Option (List Char)) :=
  match decode? data with
  | none => .ok none
  | some text =>
      match htmlOffset text "StartFragment", htmlOffset text "EndFragment" with
      | some start, some stop =>
          if start < stop ∧ stop ≤ data.length then do
            let fragment ← sliceBytes data start stop
            .ok (decode? fragment)
          else markedFragment text
      | _, _ => markedFragment text

/-- The byte order mark in UTF-8. -/
def utf8Mark : Bytes := [0xEF, 0xBB, 0xBF]

/-- The byte order mark in little endian UTF-16. -/
def leMark : Bytes := [0xFF, 0xFE]

/-- The byte order mark in big endian UTF-16. -/
def beMark : Bytes := [0xFE, 0xFF]

/-- The text of an answer in HTML, unless it is to be read as any other. -/
def decodeHtml (data : Bytes) : Checked (Option (List Char)) := do
  match ← cfHtmlFragment data with
  | some fragment => .ok (some (trimTextTerminator fragment))
  | none =>
      if leMark.isPrefixOf data then do
        let rest ← bytesFrom data 2
        .ok (some (decodeUtf16 rest false))
      else if beMark.isPrefixOf data then do
        let rest ← bytesFrom data 2
        .ok (some (decodeUtf16 rest true))
      else
        .ok ((decode? (if utf8Mark.isPrefixOf data then data.drop 3 else data)).map
          trimTextTerminator)

/-- Bytes without the NUL at their end. -/
def stripNul (data : Bytes) : Bytes := if data.getLast? = some 0 then data.dropLast else data

/-- The text, if the bytes are one without NUL. -/
def rawUtf8? (data : Bytes) : Option (List Char) :=
  if 0 ∈ stripNul data then none else decode? (stripNul data)

/-- The text of an answer, which may be of a client that does not follow the protocol. -/
def decodeText (data : Bytes) : Checked (List Char) :=
  if utf8Mark.isPrefixOf data then do
    let rest ← bytesFrom data 3
    .ok (trimTextTerminator (decodeLossy rest))
  else if leMark.isPrefixOf data then do
    let rest ← bytesFrom data 2
    .ok (decodeUtf16 rest false)
  else if beMark.isPrefixOf data then do
    let rest ← bytesFrom data 2
    .ok (decodeUtf16 rest true)
  else
    match rawUtf8? data with
    | some text => .ok (trimTextTerminator text)
    | none => .ok (decodeUtf16 data false)

/-- `decode_rdp_text_payload`. -/
def decodeRdpTextPayload (data : Bytes) (requestedMime : Mime) : Checked (List Char) :=
  if startsWith requestedMime "text/html" then do
    match ← decodeHtml data with
    | some text => .ok text
    | none => decodeText data
  else decodeText data

/-! ### Handing a text over -/

section Paste

variable (sanitizeTextForLinux : List Char → List Char)

/-- The preview of a text in the debug log, which is made if the log takes it. -/
def logPreview (debug : Bool) (sanitized : List Char) : Checked Unit :=
  if debug ∧ sanitized ≠ [] then do
    let _preview ← sliceText sanitized 0 (min (encode sanitized).length 50)
    .ok ()
  else .ok ()

/-- The text branch of `handle_rdp_data_response`, for an answer of two bytes or more. -/
def textBranch (debug : Bool) (data : Bytes) (requestedMime : Mime) : Checked Bytes := do
  let text ← decodeRdpTextPayload data requestedMime
  let sanitized := sanitizeTextForLinux text
  logPreview debug sanitized
  .ok (encode sanitized)

/-- The text of an answer that was fetched up front. -/
def eagerText (data : Bytes) : List Char :=
  Utf16.decodeLossy ((Utf16.unitsLe data).takeWhile fun u => u != 0)

/-- What the provider is given of an answer that was fetched up front. -/
def eagerProvided (data : Bytes) : List (Mime × Bytes) :=
  if 2 ≤ data.length then
    let utf8Bytes := encode (sanitizeTextForLinux (eagerText data))
    [("text/plain", utf8Bytes), ("text/plain;charset=utf-8", utf8Bytes)]
  else []

end Paste

/-! ### Slices between characters -/

theorem textFrom_append (before rest : List Char) :
    textFrom (before ++ rest) (encode before).length = .ok rest := by
  rw [textFrom, splitAtByte_append]
  rfl

theorem sliceText_append (before part rest : List Char) :
    sliceText (before ++ (part ++ rest)) (encode before).length
      ((encode part).length + (encode before).length) = .ok part := by
  have hstop : splitAtByte ((encode part).length + (encode before).length)
      (before ++ (part ++ rest)) = some (before ++ part, rest) :=
    splitAtByte_eq_some.mpr ⟨(List.append_assoc _ _ _).symm, by
      rw [encode_append, List.length_append, Nat.add_comm]⟩
  rw [sliceText, hstop, Option.bind_eq_bind, Option.bind_some]
  dsimp only
  rw [splitAtByte_append]
  rfl

/-- A slice from the start. -/
theorem sliceText_zero_ok {text : List Char} {stop : ℕ} :
    (∃ part, sliceText text 0 stop = .ok part) ↔
      ∃ before rest, text = before ++ rest ∧ (encode before).length = stop := by
  constructor
  · rintro ⟨part, h⟩
    rw [sliceText, inRange_eq_ok, Option.bind_eq_bind, Option.bind_eq_some_iff] at h
    obtain ⟨⟨before, rest⟩, hsplit, -⟩ := h
    exact ⟨before, rest, splitAtByte_eq_some.mp hsplit⟩
  · rintro ⟨before, rest, rfl, rfl⟩
    exact ⟨before, sliceText_append [] before rest⟩

/-- The markers are characters, so that what is found is between two of them. -/
theorem markedFragment_ok (text : List Char) : ∃ fragment, markedFragment text = .ok fragment := by
  unfold markedFragment
  rcases hstart : find startMarker text with - | found
  · exact ⟨none, rfl⟩
  obtain ⟨before, rest, rfl, rfl⟩ := exists_of_find hstart
  have hfrom : textFrom (before ++ (startMarker ++ rest))
      ((encode before).length + (encode startMarker).length) = .ok rest := by
    have h := textFrom_append (before ++ startMarker) rest
    rwa [encode_append, List.length_append, List.append_assoc] at h
  dsimp only
  rw [hfrom, ok_bind]
  rcases hend : find endMarker rest with - | found
  · exact ⟨none, rfl⟩
  obtain ⟨part, rest, rfl, rfl⟩ := exists_of_find hend
  have hslice := sliceText_append (before ++ startMarker) part (endMarker ++ rest)
  rw [encode_append, List.length_append, List.append_assoc] at hslice
  dsimp only
  rw [hslice, ok_bind]
  exact ⟨_, rfl⟩

theorem cfHtmlFragment_ok (data : Bytes) : ∃ fragment, cfHtmlFragment data = .ok fragment := by
  unfold cfHtmlFragment
  rcases decode? data with - | text
  · exact ⟨none, rfl⟩
  dsimp only
  split
  · next start stop _ _ =>
      split_ifs with hoffsets
      · rw [sliceBytes, if_pos ⟨hoffsets.1.le, hoffsets.2⟩, ok_bind]
        exact ⟨_, rfl⟩
      · exact markedFragment_ok text
  · exact markedFragment_ok text

/-- The bytes behind a mark. -/
theorem bytesFrom_of_prefix {mark data : Bytes} (h : mark.isPrefixOf data = true) :
    bytesFrom data mark.length = .ok (data.drop mark.length) :=
  if_pos (List.isPrefixOf_iff_prefix.mp h).length_le

theorem decodeHtml_ok (data : Bytes) : ∃ text, decodeHtml data = .ok text := by
  unfold decodeHtml
  obtain ⟨fragment, hfragment⟩ := cfHtmlFragment_ok data
  rw [hfragment, ok_bind]
  rcases fragment with - | fragment
  · dsimp only
    split_ifs with hle hbe
    · rw [show 2 = leMark.length from rfl, bytesFrom_of_prefix hle, ok_bind]
      exact ⟨_, rfl⟩
    · rw [show 2 = beMark.length from rfl, bytesFrom_of_prefix hbe, ok_bind]
      exact ⟨_, rfl⟩
    · exact ⟨_, rfl⟩
    · exact ⟨_, rfl⟩
  · exact ⟨_, rfl⟩

theorem decodeText_ok (data : Bytes) : ∃ text, decodeText data = .ok text := by
  unfold decodeText
  split_ifs with hutf8 hle hbe
  · rw [show 3 = utf8Mark.length from rfl, bytesFrom_of_prefix hutf8, ok_bind]
    exact ⟨_, rfl⟩
  · rw [show 2 = leMark.length from rfl, bytesFrom_of_prefix hle, ok_bind]
    exact ⟨_, rfl⟩
  · rw [show 2 = beMark.length from rfl, bytesFrom_of_prefix hbe, ok_bind]
    exact ⟨_, rfl⟩
  · rcases rawUtf8? data with - | text
    · exact ⟨_, rfl⟩
    · exact ⟨_, rfl⟩

/-- **Decoding never faults**: offsets and marks of any payload stay in range. -/
theorem decodeRdpTextPayload_ok (data : Bytes) (requestedMime : Mime) :
    ∃ text, decodeRdpTextPayload data requestedMime = .ok text := by
  unfold decodeRdpTextPayload
  split_ifs
  · obtain ⟨text, htext⟩ := decodeHtml_ok data
    rw [htext, ok_bind]
    rcases text with - | text
    · exact decodeText_ok data
    · exact ⟨text, rfl⟩
  · exact decodeText_ok data

/-! ### The preview -/

/-- `is_char_boundary`. -/
def IsCharBoundary (text : List Char) (n : ℕ) : Prop :=
  ∃ before rest, text = before ++ rest ∧ (encode before).length = n

theorem logPreview_ok_iff {debug : Bool} {sanitized : List Char} :
    logPreview debug sanitized = .ok () ↔
      (debug = true → (encode sanitized).length ≤ 50 ∨ IsCharBoundary sanitized 50) := by
  have hbind : ∀ x : Checked (List Char),
      (do let _preview ← x; .ok () : Checked Unit) = .ok () ↔ ∃ part, x = .ok part := by
    rintro (e | part)
    · exact iff_of_false nofun nofun
    · exact iff_of_true rfl ⟨part, rfl⟩
  unfold logPreview
  split_ifs with hlog
  · obtain ⟨hdebug, -⟩ := hlog
    rw [hbind, sliceText_zero_ok, imp_iff_right hdebug]
    -- a text up to the cut is taken whole
    rcases Nat.le_total (encode sanitized).length 50 with hshort | hlong
    · rw [Nat.min_eq_left hshort]
      exact iff_of_true ⟨sanitized, [], (List.append_nil _).symm, rfl⟩ (Or.inl hshort)
    · rw [Nat.min_eq_right hlong]
      refine ⟨Or.inr, ?_⟩
      rintro (hshort | hboundary)
      · exact ⟨sanitized, [], (List.append_nil _).symm, by omega⟩
      · exact hboundary
  · -- nothing is logged of an empty text, which has no byte 50
    refine iff_of_true rfl fun hdebug => Or.inl ?_
    have hnil : sanitized = [] := by
      by_contra hne
      exact hlog ⟨hdebug, hne⟩
    rw [hnil, encode_nil]
    exact Nat.zero_le 50

/-- **The text branch faults** in no other way than by cutting a character for the preview of
the debug log, at byte 50 of a text that is longer. -/
theorem textBranch_ok_iff (sanitizeTextForLinux : List Char → List Char) (debug : Bool)
    (data : Bytes) (requestedMime : Mime) :
    (∃ bytes, textBranch sanitizeTextForLinux debug data requestedMime = .ok bytes) ↔
      ∃ text, decodeRdpTextPayload data requestedMime = .ok text ∧
        (debug = true → (encode (sanitizeTextForLinux text)).length ≤ 50 ∨
          IsCharBoundary (sanitizeTextForLinux text) 50) := by
  obtain ⟨text, htext⟩ := decodeRdpTextPayload_ok data requestedMime
  unfold textBranch
  rw [htext]
  simp only [ok_bind, Except.ok.injEq, exists_eq_left', ← logPreview_ok_iff]
  rcases logPreview debug (sanitizeTextForLinux text) with e | ⟨⟩
  · exact iff_of_false nofun nofun
  · exact iff_of_true ⟨_, rfl⟩ rfl

/-- A text comes out with NULs and carriage returns left out, and nothing else changed. -/
def DropsOnly (sanitizeTextForLinux : List Char → List Char) : Prop :=
  ∀ text, (sanitizeTextForLinux text).Sublist text ∧
    (sanitizeTextForLinux text).filter (fun c => c != '\x00' && c != '\r') =
      text.filter fun c => c != '\x00' && c != '\r'

/-- Seventeen euro signs in UTF-16, with a NUL: a text of 51 bytes. -/
def euroSigns : Bytes := (List.replicate 17 [0xAC, 0x20]).flatten ++ [0, 0]

/-- At the debug level, the preview of the euro signs ends in the middle of the last one. -/
theorem textBranch_cuts_character :
    ¬ ∀ sanitizeTextForLinux : List Char → List Char, DropsOnly sanitizeTextForLinux →
      ∀ (debug : Bool) (data : Bytes) (requestedMime : Mime), 2 ≤ data.length →
        (startsWith requestedMime "text/plain" = true ∨
          startsWith requestedMime "text/html" = true) →
        ∃ bytes, textBranch sanitizeTextForLinux debug data requestedMime = .ok bytes := by
  intro h
  obtain ⟨bytes, hbytes⟩ := h id (fun text => ⟨List.Sublist.refl text, rfl⟩) true euroSigns
    "text/plain" (by decide) (Or.inl (by decide))
  have hfault : textBranch id true euroSigns "text/plain" = .error .outOfRange := by
    decide +kernel
  rw [hfault] at hbytes
  cases hbytes

end LamcoRdp
