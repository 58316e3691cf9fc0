/-
LamcoRdp/Clipboard/FileUris.lean

File lists as texts.

The paths of a copy are offered as `file://` URIs, in the two formats that file managers
read: `text/uri-list`, with a CRLF behind each URI, and `x-special/gnome-copied-files`,
with the action in the first line, a line for each URI and a NUL at the end.  A path is
encoded segment by segment, so that its slashes stay.

Encoding is the work of the `percent_encoding` crate, `PercentEncodingCrate`, whose
documented behaviour is that of `PercentCode.encode`.  The set that `encode_file_uri`
gives it has the `%`, so that decoding gets the path back, and the line ends, so that
every URI stays in its line: `file_uris_round_trip`.
-/
import LamcoRdp.Clipboard.Conversion
import LamcoRdp.Lib.PercentCode

namespace LamcoRdp

open PercentCode

/-! ### The crate -/

/-- A set of ASCII bytes. -/
abbrev AsciiSet := UInt8 → Bool

/-- `AsciiSet::add`. -/
def AsciiSet.add (set : AsciiSet) (byte : UInt8) : AsciiSet := fun b => b == byte || set b

/-- What is used of `percent_encoding`: the C0 controls with DEL, and the encoder. -/
structure PercentEncodingCrate where
  /-- `CONTROLS` -/
  controls : AsciiSet
  utf8PercentEncode : String → AsciiSet → String
  controls_eq : ∀ b, controls b = (decide (b.toNat < 0x20) || b == 0x7f)
  utf8PercentEncode_eq : ∀ text set,
    (utf8PercentEncode text set).toList = encode set text.toList

/-! ### The texts -/

section

variable (crate : PercentEncodingCrate)

/-- `FILE_URI_ENCODE`. -/
def fileUriEncode : AsciiSet :=
  crate.controls
    |>.add 0x20 -- space
    |>.add 0x22 -- quotation mark
    |>.add 0x23 -- number sign
    |>.add 0x25 -- percent sign
    |>.add 0x3c -- less-than sign
    |>.add 0x3e -- greater-than sign
    |>.add 0x3f -- question mark
    |>.add 0x60 -- backtick
    |>.add 0x7b -- braces
    |>.add 0x7d

/-- `encode_file_uri`. -/
def encodeFileUri (path : String) : String :=
  "file://" ++ "/".intercalate ((path.toList.splitOn '/').map fun segment =>
    crate.utf8PercentEncode (String.ofList segment) (fileUriEncode crate))

/-- The clipboard libraries, with the URIs that the server makes. -/
def ClipboardCore.withUris (core : ClipboardCore) : ClipboardCore :=
  { core with encodeFileUri := LamcoRdp.encodeFileUri crate }

end

/-! ### Their readers -/

/-- The path of a `file://` URI. -/
def uriPath (line : List Char) : Option String :=
  if "file://".toList.isPrefixOf line then
    (decode (line.drop "file://".toList.length)).map String.ofList
  else none

/-- The lines of a text with CRLF line ends. -/
def splitCrlf : List Char → List (List Char)
  | c :: d :: rest =>
      if c = '\r' ∧ d = '\n' then [] :: splitCrlf rest
      else (splitCrlf (d :: rest)).modifyHead (c :: ·)
  | [c] => [[c]]
  | [] => [[]]

/-- The paths of the lines that are not empty. -/
def linePaths (lines : List (List Char)) : Option (List String) :=
  (lines.filter (· ≠ [])).mapM uriPath

/-- The paths of `text/uri-list`. -/
def parseUriList (content : String) : Option (List String) := linePaths (splitCrlf content.toList)

/-- The paths of `x-special/gnome-copied-files`: the action, the URIs and a NUL. -/
def parseGnomeCopiedFiles (content : String) : Option (List String) :=
  if content.toList.getLast? = some '\x00' then
    match content.toList.dropLast.splitOn '\n' with
    | action :: lines => if action = "copy".toList then linePaths lines else none
    | [] => none
  else none

/-! ### A URI keeps to its line -/

section

variable {crate : PercentEncodingCrate}

theorem fileUriEncode_percent : fileUriEncode crate 0x25 = true := by
  simp [fileUriEncode, AsciiSet.add]

theorem fileUriEncode_control {b : UInt8} (h : b.toNat < 0x20) : fileUriEncode crate b = true := by
  simp [fileUriEncode, AsciiSet.add, crate.controls_eq, h]

theorem toList_encodeFileUri (path : String) : (encodeFileUri crate path).toList =
    "file://".toList ++ ['/'].intercalate
      ((path.toList.splitOn '/').map (encode (fileUriEncode crate))) := by
  rw [encodeFileUri, String.toList_append, String.toList_intercalate, List.map_map]
  congr 3
  funext segment
  exact (crate.utf8PercentEncode_eq _ _).trans (congrArg _ String.toList_ofList)

/-- A slash decodes to itself, so that the segments are decoded one by one. -/
theorem decodeBytes_intercalate (segments : List (List Char)) (hne : segments ≠ []) :
    decodeBytes (['/'].intercalate (segments.map (encode (fileUriEncode crate)))) =
      Utf8.encode (['/'].intercalate segments) := by
  induction segments with
  | nil => exact absurd rfl hne
  | cons segment segments ih =>
      by_cases hrest : segments = []
      · subst hrest
        have h := decodeBytes_encode_append (fileUriEncode_percent : fileUriEncode crate 0x25 = true)
          segment []
        simpa [decodeBytes] using h
      · have hmap : segments.map (encode (fileUriEncode crate)) ≠ [] := by simpa using hrest
        rw [List.map_cons, List.intercalate_cons_of_ne_nil hmap,
          List.intercalate_cons_of_ne_nil hrest, List.append_assoc,
          decodeBytes_encode_append fileUriEncode_percent, List.singleton_append,
          decodeBytes_cons (by decide), ih hrest, Utf8.encode_append, Utf8.encode_append,
          List.append_assoc]
        rfl

theorem uriPath_encodeFileUri (path : String) :
    uriPath (encodeFileUri crate path).toList = some path := by
  have hprefix : "file://".toList.isPrefixOf (encodeFileUri crate path).toList = true := by
    rw [toList_encodeFileUri, List.isPrefixOf_iff_prefix]
    exact List.prefix_append _ _
  rw [uriPath, if_pos hprefix, toList_encodeFileUri, List.drop_left, decode,
    decodeBytes_intercalate _ (List.splitOn_ne_nil _ _), List.intercalate_splitOn,
    Utf8.decode?_encode]
  exact congrArg some String.ofList_toList

theorem encodeFileUri_ne_nil (path : String) : (encodeFileUri crate path).toList ≠ [] := by
  rw [toList_encodeFileUri]
  exact List.append_ne_nil_of_left_ne_nil (by decide) _

/-- No control character comes up in a URI. -/
theorem not_mem_encodeFileUri {c : Char} (hc : c.toNat < 0x20) (path : String) :
    c ∉ (encodeFileUri crate path).toList := by
  rw [toList_encodeFileUri, List.mem_append, not_or]
  constructor
  · -- the scheme has no control character
    have hscheme : "file://".toList.all (fun d => !decide (d.toNat < 0x20)) = true := by
      decide +kernel
    intro h
    have hd := List.all_eq_true.mp hscheme c h
    rw [decide_eq_true hc] at hd
    cases hd
  · -- nor has a segment, since they are escaped, nor what stands between segments
    intro h
    have hslash : c ≠ '/' := by
      rintro rfl
      exact absurd hc (by decide)
    generalize path.toList.splitOn '/' = segments at h
    induction segments with
    | nil => simp at h
    | cons segment segments ih =>
        have hsegment : c ∉ encode (fileUriEncode crate) segment :=
          not_mem_encode_of_lt hc fun b hb => fileUriEncode_control (by omega)
        by_cases hrest : segments = []
        · subst hrest
          simp [hsegment] at h
        · have hmap : segments.map (encode (fileUriEncode crate)) ≠ [] := by simpa using hrest
          rw [List.map_cons, List.intercalate_cons_of_ne_nil hmap] at h
          simp only [List.mem_append, List.mem_singleton, hsegment, hslash, false_or] at h
          exact ih h

theorem mapM_uriPath (paths : List String) :
    (paths.map fun path => (encodeFileUri crate path).toList).mapM uriPath = some paths := by
  induction paths with
  | nil => rfl
  | cons path paths ih =>
      rw [List.map_cons, List.mapM_cons, uriPath_encodeFileUri, ih]
      rfl

/-- The lines are read back if they are URIs. -/
theorem linePaths_encodeFileUri (paths : List String) :
    linePaths (paths.map fun path => (encodeFileUri crate path).toList) = some paths := by
  have hfilter : (paths.map fun path => (encodeFileUri crate path).toList).filter (· ≠ []) =
      paths.map fun path => (encodeFileUri crate path).toList := by
    rw [List.filter_eq_self]
    intro line hline
    obtain ⟨path, -, rfl⟩ := List.mem_map.mp hline
    exact decide_eq_true (encodeFileUri_ne_nil path)
  rw [linePaths, hfilter, mapM_uriPath]

end

/-! ### The lists -/

/-- A line without carriage return is cut off at its CRLF. -/
theorem splitCrlf_line {line : List Char} (h : '\r' ∉ line) (rest : List Char) :
    splitCrlf (line ++ '\r' :: '\n' :: rest) = line :: splitCrlf rest := by
  induction line with
  | nil => rw [List.nil_append, splitCrlf, if_pos ⟨rfl, rfl⟩]
  | cons c line ih =>
      rw [List.mem_cons, not_or] at h
      obtain ⟨d, tail, htail⟩ := List.exists_cons_of_ne_nil
        (List.append_ne_nil_of_right_ne_nil line (List.cons_ne_nil '\r' ('\n' :: rest)))
      rw [List.cons_append, htail, splitCrlf, if_neg fun hc => h.1 hc.1.symm, ← htail, ih h.2]
      rfl

variable (crate : PercentEncodingCrate) (core : ClipboardCore)

theorem parseUriList_generate (paths : List String) :
    parseUriList (generateUriListContent (core.withUris crate) paths) = some paths := by
  have hlines : splitCrlf (generateUriListContent (core.withUris crate) paths).toList =
      (paths.map fun path => (encodeFileUri crate path).toList) ++ [[]] := by
    rw [generateUriListContent, String.toList_join]
    induction paths with
    | nil => rfl
    | cons path paths ih =>
        rw [List.map_cons, List.flatMap_cons, String.toList_append, List.append_assoc]
        show splitCrlf ((encodeFileUri crate path).toList ++ '\r' :: '\n' :: _) = _
        rw [splitCrlf_line (not_mem_encodeFileUri (by decide) path)]
        exact congrArg ((encodeFileUri crate path).toList :: ·) ih
  -- the text behind the last line end is no line
  have hfilter : linePaths ((paths.map fun path => (encodeFileUri crate path).toList) ++ [[]]) =
      linePaths (paths.map fun path => (encodeFileUri crate path).toList) := by
    rw [linePaths, linePaths, List.filter_append]
    simp
  rw [parseUriList, hlines, hfilter, linePaths_encodeFileUri]

theorem parseGnomeCopiedFiles_generate (paths : List String) :
    parseGnomeCopiedFiles (generateGnomeCopiedFilesContent (core.withUris crate) paths) =
      some paths := by
  have hchars : (generateGnomeCopiedFilesContent (core.withUris crate) paths).toList =
      "copy".toList ++ '\n' :: (['\n'].intercalate
        (paths.map fun path => (encodeFileUri crate path).toList)) ++ ['\x00'] := by
    rw [generateGnomeCopiedFilesContent, String.toList_append, String.toList_append,
      String.toList_intercalate, List.map_map]
    rfl
  rw [parseGnomeCopiedFiles, hchars, List.getLast?_concat, if_pos rfl, List.dropLast_concat,
    List.splitOn_append_cons_self_of_not_mem (by decide)]
  show (if "copy".toList = "copy".toList then linePaths _ else none) = some paths
  rw [if_pos rfl]
  by_cases hpaths : paths = []
  · subst hpaths
    rfl
  · rw [List.splitOn_intercalate _ _ (by simpa using hpaths), linePaths_encodeFileUri]
    intro line hline
    obtain ⟨path, -, rfl⟩ := List.mem_map.mp hline
    exact not_mem_encodeFileUri (by decide) path

/-- Both texts give back the paths they were made of. -/
theorem file_uris_round_trip (paths : List String) :
    parseUriList (generateUriListContent (core.withUris crate) paths) = some paths ∧
      parseGnomeCopiedFiles (generateGnomeCopiedFilesContent (core.withUris crate) paths) =
        some paths :=
  ⟨parseUriList_generate crate core paths, parseGnomeCopiedFiles_generate crate core paths⟩

/-- The crate as it is documented. -/
def documentedCrate : PercentEncodingCrate where
  controls b := decide (b.toNat < 0x20) || b == 0x7f
  utf8PercentEncode text set := String.ofList (encode set text.toList)
  controls_eq _ := rfl
  utf8PercentEncode_eq _ _ := String.toList_ofList

-- a percent sign of the name is no escape
example : encodeFileUri documentedCrate "/x/already%2Fencoded.txt" =
    "file:///x/already%252Fencoded.txt" := by
  decide +kernel

/-- Names with the characters of both syntaxes. -/
theorem odd_names_round_trip :
    parseUriList (generateUriListContent (ClipboardCore.plain.withUris documentedCrate)
        ["/x/50%25.txt", "/x/line\nend", "/été/a b#c"]) =
        some ["/x/50%25.txt", "/x/line\nend", "/été/a b#c"] ∧
      parseGnomeCopiedFiles (generateGnomeCopiedFilesContent
        (ClipboardCore.plain.withUris documentedCrate) ["/x/50%25.txt", "/x/line\nend", "/été/a b#c"]) =
        some ["/x/50%25.txt", "/x/line\nend", "/été/a b#c"] :=
  file_uris_round_trip documentedCrate ClipboardCore.plain _

end LamcoRdp
