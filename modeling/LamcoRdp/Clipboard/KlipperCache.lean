/-
LamcoRdp/Clipboard/KlipperCache.lean

The text of Klipper, kept to answer the client.

Two tasks announce to the client what the Linux side has.  The cooperation handler announces
the text of Klipper, and stores it in a cache that a request for text is answered from before
anything else.  The event loop announces what a local program offers, and makes the client the
owner of the clipboard when its format list arrives.  Both leave the text in the cache; only a
disconnect clears it.

Each task is taken step by step, and the steps of the two in any order.  A text is stored
after it is announced, and an offer is announced after it is let through.

`safe_iff_drops` says when the cache holds, or is about to hold, the text that was announced
last.  `servedRight_of_drops` is about the answers.  The loop detector, the time and the
channel to the client answer as they like, so their answers come with the events.
-/
import LamcoRdp.Clipboard.Ownership
import LamcoRdp.Clipboard.TextRoundTrip

namespace LamcoRdp

open Runs Utf8

/-- What the client was told that the Linux side has. -/
inductive Announced
  /-- the text of Klipper -/
  | klipper (content : List Char)
  /-- what a local program offers -/
  | offer (message : ClipboardMessage)
  deriving DecidableEq

/-- The steps of the cooperation handler and of the event loop, each with what it finds: the
answer of the loop detector, the time, and whether the channel to the client takes a message. -/
inductive KlipperEvent
  /-- of the cooperation handler: `KlipperContentUpdated`, as far as the announcement -/
  | contentUpdated (content : List Char) (paused : Bool) (now : ℕ) (sends : Bool)
  /-- of the cooperation handler: what was announced is stored -/
  | store
  /-- `PortalFormatsAvailable`, as far as the announcement -/
  | portalFormats (mimeTypes : List Mime) (force loop : Bool) (now : ℕ)
  /-- `RdpReady`, as far as the announcement -/
  | rdpReady
  /-- the announcement of a local offer -/
  | announce (files : Option (List FileDescriptor)) (sends : Bool)
  | rdpDisconnect
  | rdpFormatList (formats : List ClipboardFormat) (loop : Bool) (now : ℕ)
  | rdpDataRequest (formatId : UInt32) (sends : Bool)
  deriving DecidableEq

/-- The clipboard with the text that cooperation keeps for Klipper. -/
structure KlipperCache where
  sync : SyncManager
  rdpReady : Bool
  /-- `local_advertised_formats` -/
  advertised : List ClipboardFormat
  /-- the formats that the event loop is about to announce -/
  announcing : Option (List ClipboardFormat)
  /-- the text that the cooperation handler is about to store -/
  storing : Option (List Char)
  /-- `cooperation_content_cache` -/
  cache : Option Bytes
  /-- what was announced last; the code does not keep this -/
  announced : Option Announced
  deriving DecidableEq

namespace KlipperCache

/-- At the start. -/
def init (klipperPresent : Bool) : KlipperCache where
  sync := { state := .idle, klipperPresent }
  rdpReady := false
  advertised := []
  announcing := none
  storing := none
  cache := none
  announced := none

section

variable (fromUtf16Bytes : Bytes → List Char)
  (mimeToRdpFormats : List Mime → Option (List ClipboardFormat))
  (rdpToMimeTypes : List ClipboardFormat → Option (List Mime))

/-- `KlipperContentUpdated`, as far as the announcement. -/
def contentUpdated (s : KlipperCache) (content : List Char) (paused : Bool) (now : ℕ)
    (sends : Bool) : KlipperCache :=
  if paused then s
  else
    let (decision, sync) := s.sync.handlePortalFormats ["text/plain"] true false now
    let s := { s with sync }
    if decision = .block then s
    else if sends then
      { s with announced := some (.klipper content), storing := some content }
    else s

/-- `handle_portal_formats`, as far as the announcement.  A takeover of Klipper is answered on
the Linux side only. -/
def portalFormats (s : KlipperCache) (mimeTypes : List Mime) (force loop : Bool) (now : ℕ) :
    KlipperCache :=
  let (decision, sync) := s.sync.handlePortalFormats mimeTypes force loop now
  let s := { s with sync }
  match decision with
  | .block => s
  | .klipperReannounce => s
  | .allow =>
      match mimeToRdpFormats mimeTypes with
      | none => s
      | some formats =>
          let formats := Ownership.advertisedFormats (fun _ => formats) mimeTypes
          let s := { s with advertised := formats }
          -- before the channel is ready, `RdpReady` will announce them
          if s.rdpReady then { s with announcing := some formats } else s

/-- `handle_rdp_format_list`, with the latch that its event sets. -/
def rdpFormatList (s : KlipperCache) (formats : List ClipboardFormat) (loop : Bool) (now : ℕ) :
    KlipperCache :=
  let (shouldSync, sync) := s.sync.handleRdpFormats formats loop now
  let s := { s with rdpReady := true, sync }
  if !shouldSync then s
  else
    match rdpToMimeTypes formats with
    | none => s
    | some mimeTypes => if mimeTypes = [] then s else { s with advertised := [] }

/-- What `handle_rdp_data_request` serves from the cache. -/
def serve (s : KlipperCache) (formatId : UInt32) (sends : Bool) : Option Bytes :=
  match s.cache with
  | none => none
  | some cached =>
      if formatId = cfUnicodeText ∨ formatId = cfText then
        let data :=
          if formatId = cfText then
            encode ((fromUtf16Bytes cached).rdropWhile fun c => c == '\x00') ++ [0]
          else cached
        if sends then some data else none
      else none

/-- A step of the event loop, which does nothing else before it has announced an offer. -/
def unlessAnnouncing (s : KlipperCache) (next : KlipperCache) : KlipperCache :=
  if s.announcing.isSome then s else next

/-- One step of one of the two tasks. -/
def step (s : KlipperCache) : KlipperEvent → KlipperCache
  | .contentUpdated content paused now sends =>
      if s.storing.isSome then s else s.contentUpdated content paused now sends
  | .store =>
      match s.storing with
      | none => s
      | some content => { s with storing := none, cache := some (unicodePayload content) }
  | .portalFormats mimeTypes force loop now =>
      s.unlessAnnouncing (s.portalFormats mimeToRdpFormats mimeTypes force loop now)
  | .rdpReady =>
      s.unlessAnnouncing
        (if s.advertised = [] then { s with rdpReady := true }
        else { s with rdpReady := true, announcing := some s.advertised })
  | .announce files sends =>
      match s.announcing with
      | none => s
      | some formats =>
          let s := { s with announcing := none }
          if sends then
            { s with announced := some (.offer (Ownership.copyMessage formats files)) }
          else s
  | .rdpDisconnect =>
      s.unlessAnnouncing
        (if s.rdpReady then { s with rdpReady := false, cache := none } else s)
  | .rdpFormatList formats loop now =>
      s.unlessAnnouncing (s.rdpFormatList rdpToMimeTypes formats loop now)
  -- an answer changes nothing
  | .rdpDataRequest _ _ => s

/-- A text in the format of a request. -/
def textData (formatId : UInt32) (content : List Char) : Bytes :=
  if formatId = cfText then encode (content.rdropWhile fun c => c == '\x00') ++ [0]
  else unicodePayload content

/-- What a request is served from the cache is the text that was announced last, and the
client is not the owner of the clipboard. -/
def ServedRight (s : KlipperCache) : KlipperEvent → Prop
  | .rdpDataRequest formatId sends =>
      s.announcing = none → ∀ data, s.serve fromUtf16Bytes formatId sends = some data →
        s.sync.rdpOwns = false ∧
          ∃ content, s.announced = some (.klipper content) ∧ data = textData formatId content
  | _ => True

end

/-- There is no text to answer with, and none that is about to be stored. -/
def NoText (s : KlipperCache) : Prop := s.cache = none ∧ s.storing = none

/-- No offer is announced to the client, and no format list makes it the owner, as long as
there is a text. -/
def Drops (s : KlipperCache) : KlipperEvent → Prop
  | .announce _ sends => s.announcing ≠ none → sends = true → s.NoText
  | .rdpFormatList _ loop _ => s.announcing = none → loop = false → s.NoText
  | _ => True

/-- A request does not find one text in the cache and another one about to be stored. -/
def Stored (s : KlipperCache) : KlipperEvent → Prop
  | .rdpDataRequest formatId _ =>
      formatId = cfUnicodeText ∨ formatId = cfText →
        s.cache = none ∨ s.storing = none ∨ s.cache = s.storing.map unicodePayload
  | _ => True

/-- The text that the cache holds, or is about to hold, is the one that was announced last, and
the client is not the owner. -/
def Safe (s : KlipperCache) : Prop :=
  match s.storing with
  | some content => s.announced = some (.klipper content) ∧ s.sync.rdpOwns = false
  | none => ∀ bytes, s.cache = some bytes → s.sync.rdpOwns = false ∧
      ∃ content, s.announced = some (.klipper content) ∧ bytes = unicodePayload content

/-! ### The decisions of `SyncManager` -/

/-- Only an offer that is allowed changes the state, and the client is not the owner then. -/
theorem handlePortalFormats_cases (m : SyncManager) (mimeTypes : List Mime) (force loop : Bool)
    (now : ℕ) :
    (m.handlePortalFormats mimeTypes force loop now).2 = m ∨
      (m.handlePortalFormats mimeTypes force loop now).2.rdpOwns = false := by
  have hafter : (m.afterOwner mimeTypes force loop).2 = m ∨
      (m.afterOwner mimeTypes force loop).2.rdpOwns = false := by
    unfold SyncManager.afterOwner
    split_ifs
    · exact Or.inl rfl
    · exact Or.inr rfl
  unfold SyncManager.handlePortalFormats
  split
  · split_ifs
    · exact Or.inl rfl
    · exact Or.inl rfl
    · exact Or.inl rfl
    · exact Or.inl rfl
    · exact hafter
  · exact hafter

/-- Klipper's text is blocked, or the client is not the owner any more. -/
theorem handlePortalFormats_text (m : SyncManager) (now : ℕ) :
    (m.handlePortalFormats ["text/plain"] true false now).1 = .block ∨
      (m.handlePortalFormats ["text/plain"] true false now).2.rdpOwns = false := by
  have hsignature : hasKlipperSignature ["text/plain"] = false := by decide +kernel
  unfold SyncManager.handlePortalFormats
  split
  · rw [hsignature]
    split_ifs with hforce hrecent hsome hempty
    · exact Or.inl rfl
    · cases hsome
    · cases hempty.1
    · exact Or.inl rfl
    · exact Or.inr rfl
  · exact Or.inr rfl

/-! ### What a step does to the text -/

section

variable {s t : KlipperCache}

theorem Safe.congr (h : s.Safe) (hstoring : t.storing = s.storing) (hcache : t.cache = s.cache)
    (hannounced : t.announced = s.announced)
    (howns : t.sync = s.sync ∨ t.sync.rdpOwns = false) : t.Safe := by
  have howns : s.sync.rdpOwns = false → t.sync.rdpOwns = false := fun h =>
    howns.elim (fun heq => by rw [heq, h]) id
  unfold Safe at h ⊢
  rw [hstoring, hcache, hannounced]
  generalize s.storing = storing at h ⊢
  rcases storing with - | content
  · exact fun bytes hbytes => ⟨howns (h bytes hbytes).1, (h bytes hbytes).2⟩
  · exact ⟨h.1, howns h.2⟩

/-- When an offer was announced last, or the client is the owner, there must be no text. -/
theorem safe_iff_noText (h : s.sync.rdpOwns = true ∨
    ∀ content, s.announced ≠ some (.klipper content)) : s.Safe ↔ s.NoText := by
  have hnot : ∀ content, s.announced = some (.klipper content) →
      s.sync.rdpOwns = false → False := by
    intro content hannounced howns
    rcases h with h | h
    · rw [howns] at h
      cases h
    · exact h content hannounced
  unfold Safe NoText
  rcases hstoring : s.storing with - | content
  · constructor
    · intro h
      refine ⟨?_, rfl⟩
      rcases hcache : s.cache with - | bytes
      · rfl
      · obtain ⟨howns, content, hannounced, -⟩ := h bytes hcache
        exact (hnot content hannounced howns).elim
    · rintro ⟨hcache, -⟩ bytes hbytes
      rw [hcache] at hbytes
      cases hbytes
  · exact iff_of_false (fun h => hnot content h.1 h.2) fun h => nomatch h.2

theorem NoText.safe (h : s.NoText) : s.Safe := by
  unfold Safe
  rw [h.2]
  intro bytes hbytes
  rw [h.1] at hbytes
  cases hbytes

theorem Safe.contentUpdated (h : s.Safe) (content : List Char) (paused : Bool) (now : ℕ)
    (sends : Bool) : (s.contentUpdated content paused now sends).Safe := by
  have hcases := handlePortalFormats_cases s.sync ["text/plain"] true false now
  have htext := handlePortalFormats_text s.sync now
  unfold KlipperCache.contentUpdated
  generalize s.sync.handlePortalFormats ["text/plain"] true false now = result at hcases htext ⊢
  obtain ⟨decision, sync⟩ := result
  dsimp only at hcases htext ⊢
  split_ifs with hpaused hblock hsends
  · exact h
  · exact h.congr rfl rfl rfl hcases
  · exact ⟨rfl, htext.resolve_left hblock⟩
  · exact h.congr rfl rfl rfl hcases

theorem Safe.store (h : s.Safe) {content : List Char} (hstoring : s.storing = some content) :
    Safe { s with storing := none, cache := some (unicodePayload content) } := by
  unfold Safe at h
  rw [hstoring] at h
  intro bytes hbytes
  obtain rfl := Option.some.inj hbytes
  exact ⟨h.2, content, h.1, rfl⟩

theorem Safe.portalFormats (h : s.Safe)
    (mimeToRdpFormats : List Mime → Option (List ClipboardFormat)) (mimeTypes : List Mime)
    (force loop : Bool) (now : ℕ) :
    (s.portalFormats mimeToRdpFormats mimeTypes force loop now).Safe := by
  have howns := handlePortalFormats_cases s.sync mimeTypes force loop now
  unfold KlipperCache.portalFormats
  dsimp only
  split
  · exact h.congr rfl rfl rfl howns
  · exact h.congr rfl rfl rfl howns
  · split
    · exact h.congr rfl rfl rfl howns
    · split_ifs
      · exact h.congr rfl rfl rfl howns
      · exact h.congr rfl rfl rfl howns

/-- What a format list leaves. -/
theorem rdpFormatList_keeps (s : KlipperCache)
    (rdpToMimeTypes : List ClipboardFormat → Option (List Mime)) (formats : List ClipboardFormat)
    (loop : Bool) (now : ℕ) :
    let t := s.rdpFormatList rdpToMimeTypes formats loop now
    t.storing = s.storing ∧ t.cache = s.cache ∧ t.announced = s.announced ∧
      t.announcing = s.announcing ∧ t.sync = (s.sync.handleRdpFormats formats loop now).2 := by
  unfold KlipperCache.rdpFormatList
  dsimp only
  split_ifs
  · exact ⟨rfl, rfl, rfl, rfl, rfl⟩
  · split
    · exact ⟨rfl, rfl, rfl, rfl, rfl⟩
    · split_ifs
      · exact ⟨rfl, rfl, rfl, rfl, rfl⟩
      · exact ⟨rfl, rfl, rfl, rfl, rfl⟩

theorem rdpOwns_of_handleRdpFormats (m : SyncManager) (formats : List ClipboardFormat) (now : ℕ) :
    (m.handleRdpFormats formats false now).2.rdpOwns = true := rfl

/-- **One step** keeps the text that was announced last, if it does not leave one behind. -/
theorem Safe.step_iff (h : s.Safe) (mimeToRdpFormats : List Mime → Option (List ClipboardFormat))
    (rdpToMimeTypes : List ClipboardFormat → Option (List Mime)) (e : KlipperEvent) :
    (step mimeToRdpFormats rdpToMimeTypes s e).Safe ↔ s.Drops e := by
  cases e with
  | contentUpdated content paused now sends =>
      refine iff_of_true ?_ trivial
      rw [step]
      split_ifs
      · exact h
      · exact h.contentUpdated content paused now sends
  | store =>
      refine iff_of_true ?_ trivial
      rw [step]
      split
      · exact h
      · next content hstoring => exact h.store hstoring
  | portalFormats mimeTypes force loop now =>
      refine iff_of_true ?_ trivial
      rw [step, unlessAnnouncing]
      split_ifs
      · exact h
      · exact h.portalFormats mimeToRdpFormats mimeTypes force loop now
  | rdpReady =>
      refine iff_of_true ?_ trivial
      rw [step, unlessAnnouncing]
      split_ifs
      · exact h
      · exact h.congr rfl rfl rfl (Or.inl rfl)
      · exact h.congr rfl rfl rfl (Or.inl rfl)
  | announce files sends =>
      rw [step, Drops]
      rcases hannouncing : s.announcing with - | formats
      · exact iff_of_true h fun hne => absurd rfl hne
      · dsimp only
        rcases sends with - | -
        · exact iff_of_true (h.congr rfl rfl rfl (Or.inl rfl)) fun _ hsends => nomatch hsends
        · rw [if_pos rfl]
          have hoffer : ∀ content, some (Announced.offer (Ownership.copyMessage formats files)) ≠
              some (.klipper content) := nofun
          refine (safe_iff_noText (Or.inr hoffer)).trans ?_
          exact ⟨fun hnone _ _ => hnone, fun hdrops => hdrops nofun rfl⟩
  | rdpDisconnect =>
      refine iff_of_true ?_ trivial
      rw [step, unlessAnnouncing]
      split_ifs
      · exact h
      · -- a text may still be about to be stored
        unfold Safe at h ⊢
        dsimp only
        generalize s.storing = storing at h ⊢
        rcases storing with - | content
        · exact fun bytes hbytes => nomatch hbytes
        · exact h
      · exact h
  | rdpFormatList formats loop now =>
      obtain ⟨hstoring, hcache, hannounced, -, hsync⟩ :=
        rdpFormatList_keeps s rdpToMimeTypes formats loop now
      rw [step, unlessAnnouncing, Drops]
      rcases hannouncing : s.announcing with - | formats'
      · rw [Option.isSome_none, if_neg Bool.false_ne_true, imp_iff_right rfl]
        rcases loop with - | -
        · have howns := rdpOwns_of_handleRdpFormats s.sync formats now
          rw [← hsync] at howns
          rw [imp_iff_right rfl, safe_iff_noText (Or.inl howns), NoText, hcache, hstoring]
          rfl
        · have hkept := h.congr hstoring hcache hannounced (Or.inl hsync)
          exact iff_of_true hkept fun hloop => nomatch hloop
      · rw [Option.isSome_some, if_pos rfl]
        exact iff_of_true h fun hnone => nomatch hnone
  | rdpDataRequest formatId sends => exact iff_of_true h trivial

end

section

variable (mimeToRdpFormats : List Mime → Option (List ClipboardFormat))
  (rdpToMimeTypes : List ClipboardFormat → Option (List Mime))

/-- **The text in the cache** is the one that was announced last, all along a run, if and only
if no offer is announced and no format list makes the client the owner while there is a
text. -/
theorem safe_iff_drops (klipperPresent : Bool) (es : List KlipperEvent) :
    (∀ n, (after (step mimeToRdpFormats rdpToMimeTypes) (init klipperPresent) es n).Safe) ↔
      ∀ n e, es[n]? = some e →
        (after (step mimeToRdpFormats rdpToMimeTypes) (init klipperPresent) es n).Drops e :=
  after_invariant_iff (NoText.safe ⟨rfl, rfl⟩)
    (fun _ e h => h.step_iff mimeToRdpFormats rdpToMimeTypes e) es

variable {fromUtf16Bytes : Bytes → List Char}

/-- A text in the cache is served in the format of the request. -/
theorem textData_of_serve {s : KlipperCache} {formatId : UInt32} {sends : Bool} {data : Bytes}
    {content : List Char}
    (hdecode : ∀ content, fromUtf16Bytes (unicodePayload content) = content ++ ['\x00'])
    (hcache : s.cache = some (unicodePayload content))
    (h : s.serve fromUtf16Bytes formatId sends = some data) : data = textData formatId content := by
  unfold serve at h
  rw [hcache] at h
  dsimp only at h
  split_ifs at h with hformat hsends htext
  · have hnul : (content ++ ['\x00']).rdropWhile (fun c => c == '\x00') =
        content.rdropWhile fun c => c == '\x00' :=
      List.rdropWhile_concat_pos _ _ _ rfl
    rw [← Option.some.inj h, textData, if_pos htext, hdecode, hnul]
  · rw [← Option.some.inj h, textData, if_neg htext]

theorem servedRight_of_drops
    (hdecode : ∀ content, fromUtf16Bytes (unicodePayload content) = content ++ ['\x00'])
    (klipperPresent : Bool) (es : List KlipperEvent)
    (hes : ∀ n e, es[n]? = some e →
      (after (step mimeToRdpFormats rdpToMimeTypes) (init klipperPresent) es n).Drops e ∧
      (after (step mimeToRdpFormats rdpToMimeTypes) (init klipperPresent) es n).Stored e) :
    ∀ n e, es[n]? = some e →
      (after (step mimeToRdpFormats rdpToMimeTypes) (init klipperPresent) es n).ServedRight
        fromUtf16Bytes e := by
  have hsafe := (safe_iff_drops mimeToRdpFormats rdpToMimeTypes klipperPresent es).mpr
    fun n e he => (hes n e he).1
  intro n e he
  have hstored := (hes n e he).2
  have hsafe := hsafe n
  generalize after (step mimeToRdpFormats rdpToMimeTypes) (init klipperPresent) es n = s
    at hstored hsafe ⊢
  cases e with
  | rdpDataRequest formatId sends =>
      intro _ data hdata
      obtain ⟨bytes, hcache⟩ : ∃ bytes, s.cache = some bytes := by
        unfold serve at hdata
        split at hdata
        · cases hdata
        · next bytes hcache => exact ⟨bytes, hcache⟩
      have hformat : formatId = cfUnicodeText ∨ formatId = cfText := by
        by_contra hother
        rw [serve, hcache] at hdata
        dsimp only at hdata
        rw [if_neg hother] at hdata
        cases hdata
      unfold Safe at hsafe
      rcases hstoring : s.storing with - | content
      · rw [hstoring] at hsafe
        obtain ⟨howns, content, hannounced, rfl⟩ := hsafe bytes hcache
        exact ⟨howns, content, hannounced, textData_of_serve hdecode hcache hdata⟩
      · -- the text in the cache is the one that is about to be stored
        rw [hstoring] at hsafe
        have hsame : s.cache = some (unicodePayload content) := by
          rcases hstored hformat with hnone | hnone | hsame
          · rw [hcache] at hnone
            cases hnone
          · rw [hstoring] at hnone
            cases hnone
          · rw [hsame, hstoring]
            rfl
        exact ⟨hsafe.2, content, hsafe.1, textData_of_serve hdecode hsame hdata⟩
  | contentUpdated | store | portalFormats | rdpReady | announce | rdpDisconnect
  | rdpFormatList => trivial

/-- A step that leaves a text behind: once it is stored, it is what a request is served. -/
theorem shadowed_of_not_drops (fromUtf16Bytes : Bytes → List Char) {s : KlipperCache}
    {e : KlipperEvent} (h : ¬ s.Drops e) :
    ¬ (step mimeToRdpFormats rdpToMimeTypes (step mimeToRdpFormats rdpToMimeTypes s e)
      .store).ServedRight fromUtf16Bytes (.rdpDataRequest cfUnicodeText true) := by
  -- what the step has to leave for the answer to be wrong
  have hwrong : ∀ t : KlipperCache, t.announcing = none → ¬ t.NoText →
      (t.sync.rdpOwns = true ∨ ∀ content, t.announced ≠ some (.klipper content)) →
      ¬ (step mimeToRdpFormats rdpToMimeTypes t .store).ServedRight fromUtf16Bytes
        (.rdpDataRequest cfUnicodeText true) := by
    intro t hidle htext hother hserved
    have hserve : ∀ u : KlipperCache, u.announcing = t.announcing → u.sync = t.sync →
        u.announced = t.announced → u.cache ≠ none →
        ¬ u.ServedRight fromUtf16Bytes (.rdpDataRequest cfUnicodeText true) := by
      intro u hannouncing hsync hannounced hcache hserved
      obtain ⟨cached, hcached⟩ := Option.ne_none_iff_exists'.mp hcache
      have hdata : u.serve fromUtf16Bytes cfUnicodeText true = some cached := by
        rw [serve, hcached]
        rfl
      obtain ⟨howns, content, hklipper, -⟩ := hserved (hannouncing.trans hidle) cached hdata
      rw [hsync] at howns
      rw [hannounced] at hklipper
      rcases hother with hother | hother
      · rw [howns] at hother
        cases hother
      · exact hother content hklipper
    rw [step] at hserved
    rcases hstoring : t.storing with - | content
    · rw [hstoring] at hserved
      exact hserve t rfl rfl rfl (fun hnone => htext ⟨hnone, hstoring⟩) hserved
    · rw [hstoring] at hserved
      exact hserve { t with storing := none, cache := some (unicodePayload content) } rfl rfl rfl
        (Option.some_ne_none _) hserved
  cases e with
  | announce files sends =>
      obtain ⟨hannouncing, hrest⟩ := Classical.not_imp.mp h
      obtain ⟨rfl, htext⟩ := Classical.not_imp.mp hrest
      obtain ⟨formats, hformats⟩ := Option.ne_none_iff_exists'.mp hannouncing
      have hoffer : ∀ content, some (Announced.offer (Ownership.copyMessage formats files)) ≠
          some (.klipper content) := nofun
      rw [step.eq_def _ _ s]
      dsimp only
      rw [hformats]
      exact hwrong _ rfl htext (Or.inr hoffer)
  | rdpFormatList formats loop now =>
      obtain ⟨hidle, hrest⟩ := Classical.not_imp.mp h
      obtain ⟨rfl, htext⟩ := Classical.not_imp.mp hrest
      obtain ⟨hstoring, hcache, -, hannouncing, hsync⟩ :=
        rdpFormatList_keeps s rdpToMimeTypes formats false now
      have howns := rdpOwns_of_handleRdpFormats s.sync formats now
      rw [← hsync] at howns
      have htext' : ¬ (s.rdpFormatList rdpToMimeTypes formats false now).NoText := by
        rw [NoText, hcache, hstoring]
        exact htext
      have hnext : step mimeToRdpFormats rdpToMimeTypes s (.rdpFormatList formats false now) =
          s.rdpFormatList rdpToMimeTypes formats false now := by
        rw [step, unlessAnnouncing, hidle, Option.isSome_none, if_neg Bool.false_ne_true]
      rw [hnext]
      exact hwrong _ (hannouncing.trans hidle) htext' (Or.inl howns)
  | contentUpdated | store | portalFormats | rdpReady | rdpDisconnect | rdpDataRequest =>
      exact absurd trivial h

/-- **The cache serves what was announced last**, in every run in which no offer is announced
and no format list makes the client the owner while there is a text, and no request comes
between the announcement of a text and its store while another one is in the cache.  Where an
offer or a format list leaves a text behind, it is served to the next request. -/
theorem cache_serves_last_announced
    (hdecode : ∀ content, fromUtf16Bytes (unicodePayload content) = content ++ ['\x00'])
    (klipperPresent : Bool) (es : List KlipperEvent) :
    let reached := after (step mimeToRdpFormats rdpToMimeTypes) (init klipperPresent) es
    ((∀ n e, es[n]? = some e → (reached n).Drops e ∧ (reached n).Stored e) →
      ∀ n e, es[n]? = some e → (reached n).ServedRight fromUtf16Bytes e) ∧
    ∀ n e, es[n]? = some e → ¬ (reached n).Drops e →
      ¬ (step mimeToRdpFormats rdpToMimeTypes (reached (n + 1)) .store).ServedRight
        fromUtf16Bytes (.rdpDataRequest cfUnicodeText true) := by
  constructor
  · exact servedRight_of_drops mimeToRdpFormats rdpToMimeTypes hdecode klipperPresent es
  · intro n e he hdrops
    rw [after_succ _ _ he]
    exact shadowed_of_not_drops mimeToRdpFormats rdpToMimeTypes fromUtf16Bytes hdrops

end

/-! ### A text that is served, and one that shadows an offer -/

/-- The UTF-16 of a text with its NUL is read as the text with its NUL. -/
theorem decodeLossy_unicodePayload (content : List Char) :
    Utf16.decodeLossy (Utf16.unitsLe (unicodePayload content)) = content ++ ['\x00'] := by
  have hunits : Utf16.encode content ++ [0] = Utf16.encode (content ++ ['\x00']) :=
    (Utf16.encode_append content ['\x00']).symm
  have hread := Utf16.unitsLe_bytesLe_append (Utf16.encode content ++ [0]) []
  rw [List.append_nil] at hread
  rw [unicodePayload, hread, hunits, show Utf16.unitsLe [] = [] from rfl, List.append_nil,
    Utf16.decodeLossy_encode]

/-- A channel that is ready, and a text of Klipper. -/
def textCopied : List KlipperEvent :=
  [.rdpReady, .contentUpdated ['k'] false 0 true, .store]

/-- The text is served. -/
theorem text_served :
    let es := textCopied ++ [.rdpDataRequest cfUnicodeText true]
    let reached := after (step (fun _ => some [⟨cfUnicodeText, none⟩])
      (fun _ => some ["text/plain"])) (init true) es
    (∀ n e, es[n]? = some e → (reached n).Drops e ∧ (reached n).Stored e) ∧
      ∀ n e, es[n]? = some e →
        (reached n).ServedRight (fun bytes => Utf16.decodeLossy (Utf16.unitsLe bytes)) e := by
  intro es reached
  have hes : ∀ n e, es[n]? = some e → (reached n).Drops e ∧ (reached n).Stored e := by
    intro n e he
    rcases n with - | - | - | - | n
    · obtain rfl := Option.some.inj he
      exact ⟨trivial, trivial⟩
    · obtain rfl := Option.some.inj he
      exact ⟨trivial, trivial⟩
    · obtain rfl := Option.some.inj he
      exact ⟨trivial, trivial⟩
    · obtain rfl := Option.some.inj he
      have hstored : (reached 3).storing = none := by decide +kernel
      exact ⟨trivial, fun _ => Or.inr (Or.inl hstored)⟩
    · cases he
  exact ⟨hes, (cache_serves_last_announced _ _ decodeLossy_unicodePayload true es).1 hes⟩

/-- After a local program has offered its own text, Klipper's is served. -/
theorem offer_shadowed :
    ¬ ∀ fromUtf16Bytes : Bytes → List Char,
      (∀ content, fromUtf16Bytes (unicodePayload content) = content ++ ['\x00']) →
      ∀ mimeToRdpFormats rdpToMimeTypes klipperPresent es n e, es[n]? = some e →
        (after (step mimeToRdpFormats rdpToMimeTypes) (init klipperPresent) es n).ServedRight
          fromUtf16Bytes e := by
  intro h
  have hserved := h (fun bytes => Utf16.decodeLossy (Utf16.unitsLe bytes))
    decodeLossy_unicodePayload (fun _ => some [⟨cfUnicodeText, none⟩])
    (fun _ => some ["text/plain"]) true
    (textCopied ++ [.portalFormats ["text/plain", "text/html"] false false 5, .announce none true,
      .rdpDataRequest cfUnicodeText true]) 5 _ rfl
  obtain ⟨-, content, hklipper, -⟩ := hserved (by decide +kernel) (unicodePayload ['k'])
    (by decide +kernel)
  have hoffer : (after (step (fun _ => some [⟨cfUnicodeText, none⟩])
      (fun _ => some ["text/plain"])) (init true) (textCopied ++
        [.portalFormats ["text/plain", "text/html"] false false 5, .announce none true,
          .rdpDataRequest cfUnicodeText true]) 5).announced =
      some (.offer (.sendInitiateCopy [⟨cfUnicodeText, none⟩])) := by decide +kernel
  cases hoffer.symm.trans hklipper

end KlipperCache

end LamcoRdp
