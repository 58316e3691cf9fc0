/-
LamcoRdp/Clipboard/Ownership.lean

Who owns the clipboard: the state machine of `SyncManager`, and the handlers of the
orchestrator that read and write it.

Ownership is written down in three places.  `SyncManager` decides what a local copy is
worth, `local_advertised_formats` is what the next `RdpReady` announces, and the provider
holds the selection.  When the client goes away, or announces an empty format list, the
handlers clear some of them and leave `SyncManager` as it is: a local copy after that is
let through exactly if the client was not the owner before (`ownership_released_iff`).

The loop detector answers as it likes, so its answers come with the events, as does the
time.
-/
import LamcoRdp.Clipboard.Outgoing
import LamcoRdp.Lib.Runs
import Mathlib.Data.List.Infix

namespace LamcoRdp

open Runs

/-! ### `SyncManager` -/

/-- Which way a sync goes. -/
inductive SyncDirection
  | rdpToPortal
  | portalToRdp
  deriving DecidableEq, Repr

/-- Who owns the clipboard. -/
inductive ClipboardState
  | idle
  /-- with the time when the ownership started, in ms -/
  | rdpOwned (formats : List ClipboardFormat) (since : ℕ)
  | portalOwned (mimeTypes : List Mime)
  | syncing (direction : SyncDirection)
  deriving DecidableEq, Repr

/-- What is to be done about a change of the clipboard on the Linux side. -/
inductive PortalSyncDecision
  | allow
  | block
  | klipperReannounce
  deriving DecidableEq, Repr

/-- `ECHO_PROTECTION_WINDOW_MS`. -/
def echoProtectionWindowMs : ℕ := 2000

/-- `KLIPPER_SIGNATURES`. -/
def klipperSignatures : List String :=
  ["application/x-kde-onlyReplaceEmpty", "application/x-kde-cutselection"]

/-- `has_klipper_signature`. -/
def hasKlipperSignature (mimeTypes : List Mime) : Bool :=
  mimeTypes.any fun m => klipperSignatures.any fun sig => decide (sig.toList <:+: m.toList)

/-- `SyncManager`: the ownership, and whether Klipper is there. -/
structure SyncManager where
  state : ClipboardState
  klipperPresent : Bool
  deriving DecidableEq, Repr

namespace SyncManager

/-- The client is the owner. -/
def rdpOwns (m : SyncManager) : Bool :=
  match m.state with
  | .rdpOwned .. => true
  | _ => false

/-- `handle_rdp_formats`; `loop` is `would_cause_loop`. -/
def handleRdpFormats (m : SyncManager) (formats : List ClipboardFormat) (loop : Bool) (now : ℕ) :
    Bool × SyncManager :=
  if loop then (false, m) else (true, { m with state := .rdpOwned formats now })

/-- What `handle_portal_formats` decides when the client is not, or no longer, in the
way; `loop` is `would_cause_loop_mime`. -/
def afterOwner (m : SyncManager) (mimeTypes : List Mime) (force loop : Bool) :
    PortalSyncDecision × SyncManager :=
  if !force && loop then (.block, m)
  else (.allow, { m with state := .portalOwned mimeTypes })

/-- `handle_portal_formats`. -/
def handlePortalFormats (m : SyncManager) (mimeTypes : List Mime) (force loop : Bool)
    (now : ℕ) : PortalSyncDecision × SyncManager :=
  match m.state with
  | .rdpOwned _ since =>
      if !force then (.block, m)
      else if now - since < echoProtectionWindowMs then
        if hasKlipperSignature mimeTypes then (.klipperReannounce, m)
        else if mimeTypes = [] ∧ m.klipperPresent then (.klipperReannounce, m)
        else (.block, m)
      else m.afterOwner mimeTypes force loop
  | _ => m.afterOwner mimeTypes force loop

/-- `reset`; nothing calls it. -/
def reset (m : SyncManager) : SyncManager := { m with state := .idle }

end SyncManager

/-! ### Format conversion -/

section

variable (rdpFormatToMime : UInt32 → Option Mime)

/-- `format_name_to_mime`. -/
def formatNameToMime (name : String) : Option Mime :=
  if name = "FileGroupDescriptorW" ∨ name = "FileGroupDescriptor" then some uriListMime
  else if name = "HTML Format" then some "text/html"
  else if name = "Rich Text Format" then some "text/rtf"
  else none

/-- A MIME type is listed once. -/
def addMime (mimeTypes : List Mime) (mime : Mime) : List Mime :=
  if mime ∈ mimeTypes then mimeTypes else mimeTypes ++ [mime]

/-- One round of the loop of `rdp_to_mime_types`. -/
def mimeRound (mimeTypes : List Mime) (format : ClipboardFormat) : List Mime :=
  match rdpFormatToMime format.id with
  | some mime => addMime mimeTypes mime
  | none =>
      match format.name.bind formatNameToMime with
      | some mime =>
          let mimeTypes := addMime mimeTypes mime
          if mime = uriListMime then addMime mimeTypes gnomeFilesMime else mimeTypes
      | none => mimeTypes

/-- `rdp_to_mime_types`. -/
def rdpToMimeTypes (formats : List ClipboardFormat) : List Mime :=
  let mimeTypes := formats.foldl (mimeRound rdpFormatToMime) []
  if mimeTypes = [] ∧ formats ≠ [] then ["text/plain"] else mimeTypes

end

/-! ### The orchestrator -/

/-- A message to the client that makes the server the owner. -/
inductive ClipboardMessage
  | sendInitiateCopy (formats : List ClipboardFormat)
  | sendInitiateFileCopy (files : List FileDescriptor)
  deriving DecidableEq, Repr

/-- The events that touch the ownership, each with what it finds: the answer of the loop
detector, the time, whether the provider announces, whether Klipper gets its hint, and the
files of `prepare_outgoing_file_copy`. -/
inductive OwnershipEvent
  | rdpReady (files : Option (List FileDescriptor))
  | rdpDisconnect
  | rdpFormatList (formats : List ClipboardFormat) (loop : Bool) (now : ℕ) (hint : Bool)
      (announces : Bool)
  | portalFormatsAvailable (mimeTypes : List Mime) (force loop : Bool) (now : ℕ)
      (announces : Bool) (files : Option (List FileDescriptor))
  /-- of the cooperation handler -/
  | klipperContentUpdated (now : ℕ)
  /-- data and file contents, of either side -/
  | other
  deriving DecidableEq, Repr

/-- The part of the manager that decides about the ownership. -/
structure Ownership where
  sync : SyncManager
  rdpReady : Bool
  /-- `current_rdp_formats` -/
  formats : List ClipboardFormat
  /-- `local_advertised_formats` -/
  advertised : List ClipboardFormat
  /-- the MIME types that the provider was last told to offer, if the client is behind them -/
  selection : Option (List Mime)
  /-- `last_reannounce_time` -/
  lastReannounce : Option ℕ
  /-- `reannounce_count` -/
  reannounceCount : List UInt32 → ℕ
  sent : List ClipboardMessage

/-- The hint for Klipper. -/
def kdeSyncselection : Mime := "application/x-kde-syncselection"

namespace Ownership

/-- At the start. -/
def init (klipperPresent : Bool) : Ownership where
  sync := { state := .idle, klipperPresent }
  rdpReady := false
  formats := []
  advertised := []
  selection := none
  lastReannounce := none
  reannounceCount _ := 0
  sent := []

variable (rdpFormatToMime : UInt32 → Option Mime)
  (mimeToRdpFormats : List Mime → List ClipboardFormat)

/-- The message that announces formats: with the files, where there are any. -/
def copyMessage (formats : List ClipboardFormat) (files : Option (List FileDescriptor)) :
    ClipboardMessage :=
  if formats.any fun f => f.name = some "FileGroupDescriptorW" then
    match files with
    | some files => .sendInitiateFileCopy files
    | none => .sendInitiateCopy formats
  else .sendInitiateCopy formats

/-- The formats that are advertised for MIME types; an empty name is none. -/
def advertisedFormats (mimeTypes : List Mime) : List ClipboardFormat :=
  (mimeToRdpFormats mimeTypes).map fun f =>
    { f with name := f.name.filter fun name => name ≠ "" }

/-- The mitigation of a Klipper takeover: at most twice for a format list, and not within
500 ms. -/
def reannounce (s : Ownership) (now : ℕ) (announces : Bool) : Ownership :=
  if (s.lastReannounce.any fun t => t ≤ now ∧ now - t < 500) then s
  else
    let key := (s.formats.map (·.id)).mergeSort
    if 2 ≤ s.reannounceCount key then s
    else
      let s := { s with
        reannounceCount := Function.update s.reannounceCount key (s.reannounceCount key + 1) }
      if s.formats = [] then s
      else if announces then
        { s with
          selection := some (rdpToMimeTypes rdpFormatToMime s.formats)
          lastReannounce := some now }
      else s

/-- `handle_rdp_format_list`, with the latch that its event sets. -/
def handleRdpFormatList (s : Ownership) (formats : List ClipboardFormat) (loop : Bool) (now : ℕ)
    (hint announces : Bool) : Ownership :=
  let (shouldSync, sync) := s.sync.handleRdpFormats formats loop now
  let s := { s with rdpReady := true, formats, sync }
  if !shouldSync then s
  else
    let mimeTypes := rdpToMimeTypes rdpFormatToMime formats
    -- an empty list is a handshake only
    if mimeTypes = [] then s
    else
      let s := { s with advertised := [] }
      let mimeTypes := if hint then addMime mimeTypes kdeSyncselection else mimeTypes
      if announces then { s with selection := some mimeTypes } else s

/-- `handle_portal_formats`. -/
def handlePortalFormats (s : Ownership) (mimeTypes : List Mime) (force loop : Bool) (now : ℕ)
    (announces : Bool) (files : Option (List FileDescriptor)) : Ownership :=
  let (decision, sync) := s.sync.handlePortalFormats mimeTypes force loop now
  let s := { s with sync }
  match decision with
  | .block => s
  | .klipperReannounce => s.reannounce rdpFormatToMime now announces
  | .allow =>
      let formats := advertisedFormats mimeToRdpFormats mimeTypes
      let s := { s with advertised := formats }
      -- before the channel is ready, `RdpReady` will announce them
      if s.rdpReady then { s with sent := s.sent ++ [copyMessage formats files] } else s

/-- The formats of Klipper's text: CF_UNICODETEXT and CF_TEXT. -/
def klipperFormats : List ClipboardFormat := [⟨cfUnicodeText, none⟩, ⟨cfText, none⟩]

/-- An event of the loop, or of the cooperation handler. -/
def step (s : Ownership) : OwnershipEvent → Ownership
  | .rdpReady files =>
      let s := { s with rdpReady := true }
      if s.advertised = [] then s
      else { s with sent := s.sent ++ [copyMessage s.advertised files] }
  | .rdpDisconnect =>
      if s.rdpReady then
        { s with
          rdpReady := false, selection := none, formats := [], reannounceCount := fun _ => 0 }
      else s
  | .rdpFormatList formats loop now hint announces =>
      s.handleRdpFormatList rdpFormatToMime formats loop now hint announces
  | .portalFormatsAvailable mimeTypes force loop now announces files =>
      s.handlePortalFormats rdpFormatToMime mimeToRdpFormats mimeTypes force loop now announces
        files
  | .klipperContentUpdated now =>
      let (decision, sync) := s.sync.handlePortalFormats ["text/plain"] true false now
      let s := { s with sync }
      if decision = .block then s
      else { s with sent := s.sent ++ [.sendInitiateCopy klipperFormats] }
  | .other => s

/-! ### After the client is gone -/

/-- The event is a format list. -/
def isFormatList : OwnershipEvent → Bool
  | .rdpFormatList .. => true
  | _ => false

/-- The event announces a local copy. -/
def isPortalFormats : OwnershipEvent → Bool
  | .portalFormatsAvailable .. => true
  | _ => false

/-- The event announces a local copy without force, and the loop detector lets it pass. -/
def isCopy : OwnershipEvent → Bool
  | .portalFormatsAvailable _ force loop .. => !force && !loop
  | _ => false

/-- The client is gone: a teardown is performed, or a format list has nothing in it. -/
def Gone (s : Ownership) : OwnershipEvent → Prop
  | .rdpDisconnect => s.rdpReady = true
  | .rdpFormatList formats .. => rdpToMimeTypes rdpFormatToMime formats = []
  | _ => False

/-- The client is not treated as the owner: the next copy, before any format list, is
allowed and stored, and announced by the `RdpReady` after it. -/
def Released (t : Ownership) : Prop :=
  ∀ later : List OwnershipEvent, (∀ e ∈ later, isFormatList e = false ∧ isCopy e = false) →
    ∀ mimeTypes now announces files,
      let u := later.foldl (step rdpFormatToMime mimeToRdpFormats) t
      let copied := step rdpFormatToMime mimeToRdpFormats u
        (.portalFormatsAvailable mimeTypes false false now announces files)
      let formats := advertisedFormats mimeToRdpFormats mimeTypes
      (u.sync.handlePortalFormats mimeTypes false false now).1 = .allow ∧
        copied.advertised = formats ∧
        ∀ rest : List OwnershipEvent,
          (∀ e ∈ rest, isFormatList e = false ∧ isPortalFormats e = false) → ∀ files,
            let v := rest.foldl (step rdpFormatToMime mimeToRdpFormats) copied
            (step rdpFormatToMime mimeToRdpFormats v (.rdpReady files)).sent =
              v.sent ++ if formats = [] then [] else [copyMessage formats files]

/-- What the event finds: the client is not the owner, and an empty format list does not
make it the owner. -/
def NotOwned (s : Ownership) : OwnershipEvent → Prop
  | .rdpFormatList _ loop .. => loop = true ∧ s.sync.rdpOwns = false
  | _ => s.sync.rdpOwns = false

end Ownership

namespace SyncManager

variable {m : SyncManager} {mimeTypes : List Mime} {force loop : Bool} {now : ℕ}

/-- As long as the client is the owner, a copy without force is blocked. -/
theorem handlePortalFormats_owned (h : m.rdpOwns = true) :
    m.handlePortalFormats mimeTypes false loop now = (.block, m) := by
  unfold rdpOwns at h
  split at h
  · rename_i formats since hstate
    simp [handlePortalFormats, hstate]
  · cases h

/-- Otherwise the loop detector decides. -/
theorem handlePortalFormats_free (h : m.rdpOwns = false) :
    m.handlePortalFormats mimeTypes force loop now = m.afterOwner mimeTypes force loop := by
  unfold rdpOwns at h
  split at h
  · cases h
  · -- every other state leaves the decision to the loop detector
    rename_i hstate
    unfold handlePortalFormats
    split
    · rename_i formats since heq
      exact absurd heq (hstate formats since)
    · rfl

theorem afterOwner_rdpOwns (h : m.rdpOwns = false) :
    (m.afterOwner mimeTypes force loop).2.rdpOwns = false := by
  unfold afterOwner
  split
  · exact h
  · rfl

end SyncManager

namespace Ownership

section

variable (rdpFormatToMime : UInt32 → Option Mime)
  (mimeToRdpFormats : List Mime → List ClipboardFormat) {s : Ownership} {e : OwnershipEvent}

theorem reannounce_keeps (s : Ownership) (now : ℕ) (announces : Bool) :
    (s.reannounce rdpFormatToMime now announces).sync = s.sync ∧
      (s.reannounce rdpFormatToMime now announces).advertised = s.advertised := by
  unfold reannounce
  split
  · exact ⟨rfl, rfl⟩
  · dsimp only
    split
    · exact ⟨rfl, rfl⟩
    · split
      · exact ⟨rfl, rfl⟩
      · split <;> exact ⟨rfl, rfl⟩

/-- The decision of `handle_portal_formats` is that of `SyncManager`. -/
theorem handlePortalFormats_sync (s : Ownership) (mimeTypes : List Mime) (force loop : Bool)
    (now : ℕ) (announces : Bool) (files : Option (List FileDescriptor)) :
    (s.handlePortalFormats rdpFormatToMime mimeToRdpFormats mimeTypes force loop now announces
      files).sync = (s.sync.handlePortalFormats mimeTypes force loop now).2 := by
  unfold handlePortalFormats
  dsimp only
  split
  · rfl
  · exact (reannounce_keeps _ _ now announces).1
  · split <;> rfl

/-- Only a format list makes the client the owner. -/
theorem step_rdpOwns (h : s.sync.rdpOwns = false) (he : isFormatList e = false) :
    (step rdpFormatToMime mimeToRdpFormats s e).sync.rdpOwns = false := by
  cases e with
  | rdpReady files =>
      unfold step
      dsimp only
      split <;> exact h
  | rdpDisconnect =>
      rw [step]
      split <;> exact h
  | rdpFormatList => cases he
  | portalFormatsAvailable mimeTypes force loop now announces files =>
      rw [step, handlePortalFormats_sync, SyncManager.handlePortalFormats_free h]
      exact SyncManager.afterOwner_rdpOwns h
  | klipperContentUpdated now =>
      -- the cooperation handler asks `SyncManager` in the same way
      have hafter : (s.sync.handlePortalFormats ["text/plain"] true false now).2.rdpOwns =
          false := by
        rw [SyncManager.handlePortalFormats_free h]
        exact SyncManager.afterOwner_rdpOwns h
      unfold step
      dsimp only
      split <;> exact hafter
  | other => exact h

theorem foldl_rdpOwns {later : List OwnershipEvent} (h : s.sync.rdpOwns = false)
    (hlater : ∀ e ∈ later, isFormatList e = false) :
    (later.foldl (step rdpFormatToMime mimeToRdpFormats) s).sync.rdpOwns = false := by
  induction later generalizing s with
  | nil => exact h
  | cons e later ih =>
      have he := step_rdpOwns rdpFormatToMime mimeToRdpFormats h (hlater e List.mem_cons_self)
      exact ih he fun e he => hlater e (List.mem_cons_of_mem _ he)

/-- Only format lists and local copies change what is advertised. -/
theorem step_advertised (he : isFormatList e = false) (hp : isPortalFormats e = false) :
    (step rdpFormatToMime mimeToRdpFormats s e).advertised = s.advertised := by
  cases e with
  | rdpReady files =>
      unfold step
      dsimp only
      split <;> rfl
  | rdpDisconnect =>
      rw [step]
      split <;> rfl
  | rdpFormatList => cases he
  | portalFormatsAvailable => cases hp
  | klipperContentUpdated now =>
      unfold step
      dsimp only
      split <;> rfl
  | other => rfl

theorem foldl_advertised {later : List OwnershipEvent}
    (h : ∀ e ∈ later, isFormatList e = false ∧ isPortalFormats e = false) :
    (later.foldl (step rdpFormatToMime mimeToRdpFormats) s).advertised = s.advertised := by
  induction later generalizing s with
  | nil => rfl
  | cons e later ih =>
      obtain ⟨he, hp⟩ := h e List.mem_cons_self
      exact (ih fun e he => h e (List.mem_cons_of_mem _ he)).trans (step_advertised _ _ he hp)

end

section

variable {rdpFormatToMime : UInt32 → Option Mime}
  {mimeToRdpFormats : List Mime → List ClipboardFormat} {s : Ownership} {e : OwnershipEvent}

/-- A client that is not the owner is released. -/
theorem released_of_free (h : s.sync.rdpOwns = false) :
    Released rdpFormatToMime mimeToRdpFormats s := by
  intro later hlater mimeTypes now announces files
  -- whatever comes before the copy does not make the client the owner
  have hfree := foldl_rdpOwns rdpFormatToMime mimeToRdpFormats h fun e he => (hlater e he).1
  generalize later.foldl (step rdpFormatToMime mimeToRdpFormats) s = u at hfree ⊢
  have hdecision : u.sync.handlePortalFormats mimeTypes false false now =
      (.allow, { u.sync with state := .portalOwned mimeTypes }) :=
    SyncManager.handlePortalFormats_free hfree
  have hstored : (step rdpFormatToMime mimeToRdpFormats u
      (.portalFormatsAvailable mimeTypes false false now announces files)).advertised =
        advertisedFormats mimeToRdpFormats mimeTypes := by
    rw [step, handlePortalFormats, hdecision]
    dsimp only
    split <;> rfl
  refine ⟨congrArg Prod.fst hdecision, hstored, ?_⟩
  -- whatever comes after it leaves the copy advertised
  intro rest hrest files'
  have hkept := (foldl_advertised rdpFormatToMime mimeToRdpFormats hrest).trans hstored
  dsimp only
  generalize rest.foldl _ _ = v at hkept ⊢
  unfold step
  dsimp only
  rw [hkept]
  split
  · exact (List.append_nil _).symm
  · rfl

/-- A client that is the owner is not: the next copy is blocked. -/
theorem not_released_of_owned (h : s.sync.rdpOwns = true) :
    ¬ Released rdpFormatToMime mimeToRdpFormats s := by
  intro hreleased
  -- a copy that comes at once
  obtain ⟨hallow, -⟩ := hreleased [] (fun e he => absurd he List.not_mem_nil) [] 0 false none
  rw [List.foldl_nil, SyncManager.handlePortalFormats_owned h] at hallow
  cases hallow

theorem released_iff :
    Released rdpFormatToMime mimeToRdpFormats s ↔ s.sync.rdpOwns = false := by
  constructor
  · intro h
    by_contra hne
    exact not_released_of_owned (Bool.not_eq_false _ ▸ hne) h
  · exact released_of_free

/-- Who owns the clipboard when the client is gone. -/
theorem step_gone (hgone : Gone rdpFormatToMime s e) :
    (step rdpFormatToMime mimeToRdpFormats s e).sync.rdpOwns = false ↔ NotOwned s e := by
  cases e with
  | rdpDisconnect =>
      -- the teardown leaves `SyncManager` alone
      have hready : s.rdpReady = true := hgone
      rw [step, if_pos hready]
      exact Iff.rfl
  | rdpFormatList formats loop now hint announces =>
      have hnil : rdpToMimeTypes rdpFormatToMime formats = [] := hgone
      cases loop with
      | true =>
          constructor
          · exact fun h => ⟨rfl, h⟩
          · exact fun h => h.2
      | false =>
          -- the state has moved before the list is found to be empty
          constructor
          · intro h
            simp [step, handleRdpFormatList, SyncManager.handleRdpFormats, hnil,
              SyncManager.rdpOwns] at h
          · exact fun h => absurd h.1 Bool.false_ne_true
  | rdpReady | portalFormatsAvailable | klipperContentUpdated | other => exact hgone.elim

end

variable (rdpFormatToMime : UInt32 → Option Mime)
  (mimeToRdpFormats : List Mime → List ClipboardFormat)

/-- Along a run, the client is released whenever it is gone, exactly if it is not the
owner then, and an empty format list is one that the loop detector holds back. -/
theorem ownership_released_iff (klipperPresent : Bool) (es : List OwnershipEvent) :
    (∀ n e, es[n]? = some e →
        Gone rdpFormatToMime
          (after (step rdpFormatToMime mimeToRdpFormats) (init klipperPresent) es n) e →
        Released rdpFormatToMime mimeToRdpFormats
          (after (step rdpFormatToMime mimeToRdpFormats) (init klipperPresent) es (n + 1))) ↔
      ∀ n e, es[n]? = some e →
        Gone rdpFormatToMime
          (after (step rdpFormatToMime mimeToRdpFormats) (init klipperPresent) es n) e →
        NotOwned (after (step rdpFormatToMime mimeToRdpFormats) (init klipperPresent) es n) e := by
  have hstep : ∀ {n e}, es[n]? = some e → Gone rdpFormatToMime
      (after (step rdpFormatToMime mimeToRdpFormats) (init klipperPresent) es n) e →
      (Released rdpFormatToMime mimeToRdpFormats
          (after (step rdpFormatToMime mimeToRdpFormats) (init klipperPresent) es (n + 1)) ↔
        NotOwned (after (step rdpFormatToMime mimeToRdpFormats) (init klipperPresent) es n) e) := by
    intro n e he hgone
    rw [after_succ _ _ he, released_iff, step_gone hgone]
  constructor
  · exact fun h n e he hgone => (hstep he hgone).mp (h n e he hgone)
  · exact fun h n e he hgone => (hstep he hgone).mpr (h n e he hgone)

/-- A client that copies text, and leaves. -/
def copyAndLeave : List OwnershipEvent :=
  [.rdpFormatList [⟨cfUnicodeText, none⟩] false 0 false true, .rdpDisconnect]

/-- A library that knows text only. -/
def textMime (id : UInt32) : Option Mime := if id = cfUnicodeText then some "text/plain" else none

/-- Text is announced for every selection. -/
def textFormats (_ : List Mime) : List ClipboardFormat := [⟨cfUnicodeText, none⟩]

/-- A client that is gone is still the owner. -/
theorem gone_client_owns :
    copyAndLeave[1]? = some .rdpDisconnect ∧
      Gone textMime (after (step textMime textFormats) (init false) copyAndLeave 1)
        .rdpDisconnect ∧
      ¬ Released textMime textFormats
        (after (step textMime textFormats) (init false) copyAndLeave 2) := by
  refine ⟨rfl, rfl, not_released_of_owned ?_⟩
  decide

end Ownership

end LamcoRdp
