/-
LamcoRdp/Clipboard/DataRequests.lean

The client pastes: `handle_rdp_data_request` of `clipboard/manager/rdp_ingress.rs`.

A request names a format and the answer names nothing: the client takes the n-th
answer for the n-th request.  The loop handles one request after another, so the
answers come in order, and they stay in step as long as every request gets one.
Each way out of the handler sends an answer but one: where the conversion of an
image fails, the handler returns its error and sends nothing, and every later
answer is taken for the request before (`answers_in_step_iff`).

Text is sent as UTF-16 with Windows line ends and a NUL.  What a client decodes
is the text, sanitized; text synced from Klipper is served from a cache, in both
text formats (`text_requests_decode`).

Format tables, image codecs and the reading of the clipboard are outside the
repository; they are the fields of `PasteLibraries` and `PasteState`.
-/
import LamcoRdp.Clipboard.Outgoing
import LamcoRdp.Clipboard.TextRoundTrip

namespace LamcoRdp

open Utf8

/-! ### The handler -/

/-- `server_event_sender` as a handler finds it. -/
inductive Sender
  | missing
  /-- the connection is gone: a send fails -/
  | closed
  | live
  deriving DecidableEq, Repr

/-- The libraries that a request goes through: `none` is an error. -/
structure PasteLibraries where
  /-- `FormatConverter::format_id_to_mime` -/
  formatIdToMime : UInt32 → Option Mime
  pngToDib : Bytes → Option Bytes
  jpegToDib : Bytes → Option Bytes
  bmpToDib : Bytes → Option Bytes
  pngToDibv5 : Bytes → Option Bytes
  jpegToDibv5 : Bytes → Option Bytes
  sanitizeTextForWindows : List Char → List Char
  /-- `from_utf16_bytes` -/
  fromUtf16Bytes : Bytes → List Char
  parseFileUris : Bytes → List LocalPath
  buildFileGroupDescriptorW : List LocalPath → Option (List FileDescriptor)

/-- What a request finds. -/
structure PasteState where
  cooperationContentCache : Option Bytes
  localAdvertisedFormats : List ClipboardFormat
  /-- what the provider reads, if there is one -/
  provider : Option (Mime → Option Bytes)
  metadata : LocalPath → Option Metadata
  sender : Sender

/-- What is sent to the client. -/
inductive FormatData
  | data (bytes : Bytes)
  | fileGroup (descriptors : List FileDescriptor)
  | error
  deriving DecidableEq, Repr

/-- `ClipboardError::Core`, the only error a data request ends with. -/
inductive PasteResult
  | ok
  | conversionFailed
  deriving DecidableEq, Repr

/-- What a `send` delivers. -/
def Sender.send (sender : Sender) (answer : FormatData) : List FormatData :=
  match sender with
  | .live => [answer]
  | .missing | .closed => []

section Handler

variable (lib : PasteLibraries) (s : PasteState)

/-- What the cooperation cache answers CF_TEXT and CF_UNICODETEXT with. -/
def cachedAnswer (formatId : UInt32) (cached : Bytes) : Bytes :=
  if formatId = 1 then
    encode ((lib.fromUtf16Bytes cached).rdropWhile (· == '\x00')) ++ [0]
  else cached

/-- The name of the advertised format that a request is for. -/
def requestedName (formatId : UInt32) : Option String :=
  (s.localAdvertisedFormats.find? fun f =>
    f.id = formatId || (formatId = 0 && f.name.isSome)).bind ClipboardFormat.name

/-- The answer to a request with the clipboard's data, `none` where an image is not converted. -/
def rdpData (formatId : UInt32) (mimeType : Mime) (portalData : Bytes) : Option Bytes :=
  if formatId = 13 then
    some (unicodePayload (lib.sanitizeTextForWindows (decodeLossy portalData)))
  else if formatId = 8 then
    if startsWith mimeType "image/png" then lib.pngToDib portalData
    else if startsWith mimeType "image/jpeg" then lib.jpegToDib portalData
    else if startsWith mimeType "image/bmp" || startsWith mimeType "image/x-bmp" then
      lib.bmpToDib portalData
    else some portalData
  else if formatId = 17 then
    if startsWith mimeType "image/png" then lib.pngToDibv5 portalData
    else if startsWith mimeType "image/jpeg" then lib.jpegToDibv5 portalData
    else some portalData
  -- CF_PNG and all others are passed through
  else some portalData

/-- The path of a request that the cooperation cache does not answer. -/
def handleFromProvider (formatId : UInt32) : PasteResult × List FormatData :=
  if requestedName s formatId = some "FileGroupDescriptorW" then
    match (handleFileDescriptorRequest s.provider lib.parseFileUris s.metadata
      lib.buildFileGroupDescriptorW).1 with
    | .data descriptors => (.ok, s.sender.send (.fileGroup descriptors))
    | .error => (.ok, s.sender.send .error)
  else
    match lib.formatIdToMime formatId with
    | none => (.ok, s.sender.send .error)
    | some mimeType =>
        match s.provider.bind fun read => read mimeType with
        | none => (.ok, s.sender.send .error)
        | some portalData =>
            match rdpData lib formatId mimeType portalData with
            | none => (.conversionFailed, [])
            | some bytes => (.ok, s.sender.send (.data bytes))

/-- `handle_rdp_data_request`. -/
def handleRdpDataRequest (formatId : UInt32) : PasteResult × List FormatData :=
  match s.cooperationContentCache with
  | some cached =>
      if formatId = 13 || formatId = 1 then
        match s.sender with
        | .live => (.ok, [.data (cachedAnswer lib formatId cached)])
        -- a send that fails is tried again with the data of the provider
        | .missing | .closed => handleFromProvider lib s formatId
      else handleFromProvider lib s formatId
  | none => handleFromProvider lib s formatId

end Handler

/-! ### One request -/

section Request

variable {lib : PasteLibraries} {s : PasteState} {formatId : UInt32}

/-- The request is for an image that the provider has and that cannot be converted. -/
def ConversionFails (lib : PasteLibraries) (s : PasteState) (formatId : UInt32) : Prop :=
  requestedName s formatId ≠ some "FileGroupDescriptorW" ∧
    ∃ mimeType portalData, lib.formatIdToMime formatId = some mimeType ∧
      (s.provider.bind fun read => read mimeType) = some portalData ∧
      rdpData lib formatId mimeType portalData = none

/-- Text is always converted. -/
theorem not_conversionFails_text (h : formatId = 13 ∨ formatId = 1) :
    ¬ ConversionFails lib s formatId := by
  rintro ⟨-, mimeType, portalData, -, -, hnone⟩
  rcases h with rfl | rfl
  · cases hnone
  · cases hnone

/-- How a request that the cache does not answer ends. -/
theorem handleFromProvider_cases (lib : PasteLibraries) (s : PasteState) (formatId : UInt32) :
    (ConversionFails lib s formatId ∧
        handleFromProvider lib s formatId = (.conversionFailed, [])) ∨
      (¬ ConversionFails lib s formatId ∧
        ∃ answer, handleFromProvider lib s formatId = (.ok, s.sender.send answer)) := by
  rw [handleFromProvider]
  -- a file list is always answered
  by_cases hname : requestedName s formatId = some "FileGroupDescriptorW"
  · rw [if_pos hname]
    refine Or.inr ⟨fun h => h.1 hname, ?_⟩
    rcases (handleFileDescriptorRequest s.provider lib.parseFileUris s.metadata
      lib.buildFileGroupDescriptorW).1 with descriptors | -
    · exact ⟨_, rfl⟩
    · exact ⟨_, rfl⟩
  rw [if_neg hname]
  -- without a MIME type or without data the answer is an error
  rcases hmime : lib.formatIdToMime formatId with - | mimeType
  · refine Or.inr ⟨?_, _, rfl⟩
    rintro ⟨-, m, d, hm, -⟩
    rw [hmime] at hm
    cases hm
  rcases hdata : s.provider.bind fun read => read mimeType with - | portalData
  · refine Or.inr ⟨?_, .error, by simp only [hdata]⟩
    rintro ⟨-, m, d, hm, hd, -⟩
    obtain rfl := Option.some.inj (hmime.symm.trans hm)
    rw [hdata] at hd
    cases hd
  -- otherwise it is for the conversion to succeed
  rcases hrdp : rdpData lib formatId mimeType portalData with - | bytes
  · exact Or.inl ⟨⟨hname, mimeType, portalData, hmime, hdata, hrdp⟩,
      by simp only [hdata, hrdp]⟩
  · refine Or.inr ⟨?_, .data bytes, by simp only [hdata, hrdp]⟩
    rintro ⟨-, m, d, hm, hd, hnone⟩
    obtain rfl := Option.some.inj (hmime.symm.trans hm)
    obtain rfl := Option.some.inj (hdata.symm.trans hd)
    rw [hrdp] at hnone
    cases hnone

/-- Over a live connection a request is answered once, unless its conversion fails. -/
theorem handleRdpDataRequest_live (lib : PasteLibraries) (hlive : s.sender = .live) :
    (ConversionFails lib s formatId ∧ handleRdpDataRequest lib s formatId = (.conversionFailed, [])) ∨
      (¬ ConversionFails lib s formatId ∧
        ∃ answer, handleRdpDataRequest lib s formatId = (.ok, [answer])) := by
  have hprovider : (ConversionFails lib s formatId ∧
      handleFromProvider lib s formatId = (.conversionFailed, [])) ∨
      (¬ ConversionFails lib s formatId ∧
        ∃ answer, handleFromProvider lib s formatId = (.ok, [answer])) := by
    have h := handleFromProvider_cases lib s formatId
    rw [hlive] at h
    exact h
  rcases hcache : s.cooperationContentCache with - | cached
  · have heq : handleRdpDataRequest lib s formatId = handleFromProvider lib s formatId := by
      rw [handleRdpDataRequest, hcache]
    rw [heq]
    exact hprovider
  by_cases htext : formatId = 13 ∨ formatId = 1
  · refine Or.inr ⟨not_conversionFails_text htext, .data (cachedAnswer lib formatId cached), ?_⟩
    simp [handleRdpDataRequest, hcache, hlive, htext]
  · have heq : handleRdpDataRequest lib s formatId = handleFromProvider lib s formatId := by
      simp [handleRdpDataRequest, hcache, htext]
    rw [heq]
    exact hprovider

end Request

/-! ### One request after another -/

/-- The answers to requests that the loop handles in this order. -/
def answersTo (lib : PasteLibraries) (requests : List (PasteState × UInt32)) : List FormatData :=
  requests.flatMap fun r => (handleRdpDataRequest lib r.1 r.2).2

/-- The answer that is meant for a request. -/
def answerTo (lib : PasteLibraries) (r : PasteState × UInt32) : Option FormatData :=
  (handleRdpDataRequest lib r.1 r.2).2.head?

/-- The answers over a live connection, in order. -/
theorem answersTo_eq (lib : PasteLibraries) {requests : List (PasteState × UInt32)}
    (hlive : ∀ r ∈ requests, r.1.sender = .live) :
    answersTo lib requests = requests.filterMap (answerTo lib) := by
  induction requests with
  | nil => rfl
  | cons r requests ih =>
      have hrest := ih fun q hq => hlive q (List.mem_cons_of_mem r hq)
      rw [answersTo, List.flatMap_cons, ← answersTo, hrest]
      rcases handleRdpDataRequest_live lib (hlive r List.mem_cons_self) with ⟨-, h⟩ | ⟨-, answer, h⟩
      · rw [h, List.filterMap_cons_none (by rw [answerTo, h]; rfl)]
        rfl
      · rw [h, List.filterMap_cons_some (b := answer) (by rw [answerTo, h]; rfl)]
        rfl

/-- **The answers stay in step** with the requests exactly if no image conversion fails: the
client, which takes the n-th answer for the n-th request, has for each the answer that is meant
for it. -/
theorem answers_in_step_iff (lib : PasteLibraries) (requests : List (PasteState × UInt32))
    (hlive : ∀ r ∈ requests, r.1.sender = .live) :
    (∀ (n : ℕ) r, requests[n]? = some r →
      ∃ answer, (answersTo lib requests)[n]? = some answer ∧ answerTo lib r = some answer) ↔
      ∀ r ∈ requests, ¬ ConversionFails lib r.1 r.2 := by
  rw [answersTo_eq lib hlive]
  constructor
  · intro h r hr hfails
    obtain ⟨n, hn⟩ := List.getElem?_of_mem hr
    obtain ⟨answer, -, hanswer⟩ := h n r hn
    rcases handleRdpDataRequest_live lib (hlive r hr) with ⟨-, heq⟩ | ⟨hno, -⟩
    · rw [answerTo, heq] at hanswer
      cases hanswer
    · exact hno hfails
  · intro h
    -- no request goes without an answer, so none is filtered out
    have hall : ∀ r ∈ requests, ∃ answer, answerTo lib r = some answer := by
      intro r hr
      rcases handleRdpDataRequest_live lib (hlive r hr) with ⟨hfails, -⟩ | ⟨-, answer, heq⟩
      · exact absurd hfails (h r hr)
      · exact ⟨answer, by rw [answerTo, heq]; rfl⟩
    clear h hlive
    induction requests with
    | nil =>
        intro n r hn
        cases hn
    | cons r requests ih =>
        obtain ⟨answer, hanswer⟩ := hall r List.mem_cons_self
        have hrest := ih fun q hq => hall q (List.mem_cons_of_mem r hq)
        rw [List.filterMap_cons_some hanswer]
        intro n q hn
        cases n with
        | zero =>
            obtain rfl := Option.some.inj hn
            exact ⟨answer, rfl, hanswer⟩
        | succ n => exact hrest n q hn

/-- Libraries that know PNG, text and no other format, and fail on every image. -/
def noImages : PasteLibraries where
  formatIdToMime id := if id = 8 then some "image/png" else if id = 13 then some "text/plain" else none
  pngToDib _ := none
  jpegToDib _ := none
  bmpToDib _ := none
  pngToDibv5 _ := none
  jpegToDibv5 _ := none
  sanitizeTextForWindows text := text.filter (· != '\x00')
  fromUtf16Bytes bytes := Utf16.decodeLossy (Utf16.unitsLe bytes)
  parseFileUris _ := []
  buildFileGroupDescriptorW _ := none

/-- A provider that reads one letter for every MIME type, and a cache. -/
def letterOnly (cooperationContentCache : Option Bytes) : PasteState where
  cooperationContentCache := cooperationContentCache
  localAdvertisedFormats := []
  provider := some fun _ => some [0x61]
  metadata _ := none
  sender := .live

/-- Text is asked for, and then a format that is unknown. -/
theorem unknown_format_in_step :
    ∃ answer, (answersTo noImages [(letterOnly none, 13), (letterOnly none, 99)])[1]? = some answer ∧
      answerTo noImages (letterOnly none, 99) = some answer := by
  have hlive : ∀ r ∈ [(letterOnly none, (13 : UInt32)), (letterOnly none, 99)],
      r.1.sender = .live := by
    intro r hr
    rcases List.mem_pair.mp hr with rfl | rfl <;> rfl
  refine (answers_in_step_iff noImages _ hlive).mpr ?_ 1 (letterOnly none, 99) rfl
  intro r hr
  rcases List.mem_pair.mp hr with rfl | rfl
  · exact not_conversionFails_text (Or.inl rfl)
  · rintro ⟨-, mimeType, -, hmime, -⟩
    cases hmime

/-! ### Text -/

/-- Text from the clipboard is decoded as the sanitized text, and text synced from Klipper as
it was, in both text formats. -/
theorem text_requests_decode (lib : PasteLibraries) (s : PasteState)
    (hsanitize : ∀ text, '\x00' ∉ lib.sanitizeTextForWindows text)
    (hutf16 : ∀ bytes, lib.fromUtf16Bytes bytes = Utf16.decodeLossy (Utf16.unitsLe bytes))
    (hlive : s.sender = .live) :
    (∀ mimeType portalData, s.cooperationContentCache = none →
      requestedName s 13 ≠ some "FileGroupDescriptorW" → lib.formatIdToMime 13 = some mimeType →
      (s.provider.bind fun read => read mimeType) = some portalData →
      ∃ bytes, handleRdpDataRequest lib s 13 = (.ok, [.data bytes]) ∧
        eagerText bytes = lib.sanitizeTextForWindows (decodeLossy portalData)) ∧
    ∀ content, '\x00' ∉ content → s.cooperationContentCache = some (unicodePayload content) →
      (∃ bytes, handleRdpDataRequest lib s 13 = (.ok, [.data bytes]) ∧ eagerText bytes = content) ∧
      handleRdpDataRequest lib s 1 = (.ok, [.data (encode content ++ [0])]) := by
  constructor
  · intro mimeType portalData hcache hname hmime hdata
    refine ⟨unicodePayload (lib.sanitizeTextForWindows (decodeLossy portalData)), ?_,
      eagerText_unicodePayload (hsanitize _)⟩
    simp only [handleRdpDataRequest, hcache, handleFromProvider, if_neg hname, hmime, hdata, rdpData,
      if_true, hlive]
    rfl
  · intro content hnul hcache
    constructor
    · refine ⟨unicodePayload content, ?_, eagerText_unicodePayload hnul⟩
      simp only [handleRdpDataRequest, hcache, hlive]
      rfl
    · -- the NUL of the cached text is taken off and put on again
      have htext : lib.fromUtf16Bytes (unicodePayload content) = content ++ ['\x00'] := by
        rw [hutf16, unicodePayload, ← List.append_nil (Utf16.bytesLe _),
          Utf16.unitsLe_bytesLe_append]
        show Utf16.decodeLossy ((Utf16.encode content ++ Utf16.encode ['\x00']) ++ []) = _
        rw [List.append_nil, ← Utf16.encode_append, Utf16.decodeLossy_encode]
      have htrim : (content ++ ['\x00']).rdropWhile (· == '\x00') = content := by
        rw [List.rdropWhile_concat_pos _ _ _ (by rfl)]
        rcases List.eq_nil_or_concat content with rfl | ⟨front, c, rfl⟩
        · rfl
        · rw [List.concat_eq_append] at hnul ⊢
          refine List.rdropWhile_concat_neg _ _ _ ?_
          intro hc
          refine hnul (List.mem_append_right _ ?_)
          rw [← eq_of_beq hc]
          exact List.mem_singleton_self c
      simp only [handleRdpDataRequest, hcache, hlive, cachedAnswer, htext, htrim]
      rfl

/-- A letter from the clipboard, and one from Klipper. -/
theorem letters_decode :
    (∃ bytes, handleRdpDataRequest noImages (letterOnly none) 13 = (.ok, [.data bytes]) ∧
        eagerText bytes = ['a']) ∧
      handleRdpDataRequest noImages (letterOnly (some (unicodePayload ['b']))) 1 =
        (.ok, [.data [0x62, 0]]) := by
  have hsanitize : ∀ text, '\x00' ∉ noImages.sanitizeTextForWindows text := by
    intro text hmem
    exact bne_iff_ne.mp (List.mem_filter.mp hmem).2 rfl
  have hplain := text_requests_decode noImages (letterOnly none) hsanitize (fun _ => rfl) rfl
  have hcached := text_requests_decode noImages (letterOnly (some (unicodePayload ['b'])))
    hsanitize (fun _ => rfl) rfl
  exact ⟨hplain.1 "text/plain" [0x61] rfl nofun rfl rfl, (hcached.2 ['b'] (by decide) rfl).2⟩

end LamcoRdp
