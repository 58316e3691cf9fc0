/-
LamcoRdp/Clipboard/WlClipboard.lean

The calls of the wl-clipboard provider (`clipboard/providers/wl_clipboard.rs`).

The compositor has to be given the bytes of a selection at once, so `announce_formats` asks the
client for the data of every type, and `complete_transfer` collects the answers and publishes
all of them again with each one.  Two maps are shared with other threads: the answers so far,
and the MIME types by which the monitor tells our own selections.
-/
import Mathlib.Data.Finset.Basic
import Mathlib.Data.Finset.Dedup
import Mathlib.Data.List.AList
import LamcoRdp.Clipboard.Conversion

namespace LamcoRdp

/-- Bytes from the client, tagged with the number of the remote copy they are of.  The code has
the bytes alone, and no function here looks at the tag. -/
structure ClipboardBytes where
  copy : ℕ
  bytes : List UInt8
  deriving DecidableEq, Repr

/-- What is in a map after an answer was the answer or was there before. -/
theorem ClipboardBytes.of_mem_insert {m : AList fun _ : Mime => ClipboardBytes} {mimeType : Mime}
    {data : ClipboardBytes} {entry : Sigma fun _ : Mime => ClipboardBytes}
    (h : entry ∈ (m.insert mimeType data).entries) :
    entry = ⟨mimeType, data⟩ ∨ entry ∈ m.entries := by
  rw [AList.entries_insert] at h
  rcases List.mem_cons.mp h with rfl | hold
  · exact Or.inl rfl
  · exact Or.inr ((List.kerase_sublist _ _).subset hold)

/-- `wl_copy::MimeSource`. -/
structure MimeSource where
  mimeType : Mime
  source : ClipboardBytes
  deriving DecidableEq, Repr

/-- `is_text_mime`. -/
def isTextMime (mime : Mime) : Bool :=
  startsWith mime "text/" || mime == "STRING" || mime == "UTF8_STRING" || mime == "TEXT"

/-- The types under which `copy_multi` offers any text. -/
def textAliases : Finset Mime :=
  {"text/plain;charset=utf-8", "text/plain", "STRING", "UTF8_STRING", "TEXT"}

/-- The types that the compositor is expected to announce for some sources. -/
def expectedTypes (types : Finset Mime) : Finset Mime :=
  if ∃ mime ∈ types, isTextMime mime = true then types ∪ textAliases else types

/-- The `SelectionTransfer` events for some types, each with its serial, and the next serial. -/
def selectionTransfers (next : UInt32) : List Mime → UInt32 × List (UInt32 × Mime)
  | [] => (next, [])
  | mime :: mimeTypes =>
      let rest := selectionTransfers (next + 1) mimeTypes
      (rest.1, (next, mime) :: rest.2)

/-- `WlClipboardProvider`, the parts that tell our own copies from others. -/
structure WlClipboardProvider where
  pendingData : AList fun _ : Mime => ClipboardBytes
  ourMimeTypes : Finset Mime
  nextSerial : UInt32

namespace WlClipboardProvider

/-- `new`. -/
def new : WlClipboardProvider := ⟨∅, ∅, 1⟩

/-- `announce_formats`, and the events it sends. -/
def announceFormats (p : WlClipboardProvider) (mimeTypes : List Mime) :
    WlClipboardProvider × List (UInt32 × Mime) :=
  if mimeTypes.isEmpty then (p, [])
  else
    let transfers := selectionTransfers p.nextSerial mimeTypes
    ({ pendingData := ∅, ourMimeTypes := mimeTypes.toFinset, nextSerial := transfers.1 },
      transfers.2)

/-- `complete_transfer`, and the sources that it hands to `copy_multi`. -/
def completeTransfer (p : WlClipboardProvider) (_serial : UInt32) (mimeType : Mime)
    (data : ClipboardBytes) (success : Bool) : WlClipboardProvider × Option (List MimeSource) :=
  if !success || data.bytes.isEmpty then (p, none)
  else
    -- whatever the serial, the data joins what has come in so far
    let allData := p.pendingData.insert mimeType data
    let sources := allData.entries.map fun entry => ⟨entry.1, entry.2⟩
    ({ p with
        pendingData := allData
        ourMimeTypes := expectedTypes (sources.map MimeSource.mimeType).toFinset },
      some sources)

/-- `on_remote_gone`. -/
def onRemoteGone (p : WlClipboardProvider) : WlClipboardProvider :=
  { p with pendingData := ∅, ourMimeTypes := ∅ }

variable {p : WlClipboardProvider} {mimeTypes : List Mime} {mimeType : Mime}
  {data : ClipboardBytes} {serial : UInt32} {success : Bool}

/-- Anything announced drops the answers so far. -/
theorem announceFormats_of_ne_nil (h : mimeTypes ≠ []) :
    (p.announceFormats mimeTypes).1.pendingData = ∅ ∧
      (p.announceFormats mimeTypes).1.ourMimeTypes = mimeTypes.toFinset := by
  have hfull : mimeTypes.isEmpty = false := by
    rw [List.isEmpty_eq_false_iff]
    exact h
  unfold announceFormats
  rw [hfull]
  exact ⟨rfl, rfl⟩

/-- An answer without data is passed over. -/
theorem completeTransfer_of_not (h : ¬(success = true ∧ data.bytes ≠ [])) :
    p.completeTransfer serial mimeType data success = (p, none) := by
  have hskip : (!success || data.bytes.isEmpty) = true := by
    rw [Bool.or_eq_true, Bool.not_eq_true', List.isEmpty_iff]
    by_contra hne
    rw [not_or, Bool.not_eq_false] at hne
    exact h hne
  unfold completeTransfer
  rw [hskip]
  rfl

/-- The sources for the answers so far, with one answer more. -/
def sourcesWith (p : WlClipboardProvider) (mimeType : Mime) (data : ClipboardBytes) :
    List MimeSource :=
  (p.pendingData.insert mimeType data).entries.map fun entry => ⟨entry.1, entry.2⟩

/-- An answer with data is collected, and all of them go to `copy_multi`. -/
theorem completeTransfer_of (hsuccess : success = true) (hdata : data.bytes ≠ []) :
    p.completeTransfer serial mimeType data success =
      ({ p with
          pendingData := p.pendingData.insert mimeType data
          ourMimeTypes := expectedTypes
            ((p.sourcesWith mimeType data).map MimeSource.mimeType).toFinset },
        some (p.sourcesWith mimeType data)) := by
  have hdo : (!success || data.bytes.isEmpty) = false := by
    rw [hsuccess, Bool.not_true, Bool.false_or, List.isEmpty_eq_false_iff]
    exact hdata
  unfold completeTransfer
  rw [hdo]
  rfl

/-- The answer itself is among them. -/
theorem mem_sourcesWith (p : WlClipboardProvider) (mimeType : Mime) (data : ClipboardBytes) :
    ⟨mimeType, data⟩ ∈ p.sourcesWith mimeType data := by
  unfold sourcesWith
  rw [AList.entries_insert]
  exact List.mem_cons_self

end WlClipboardProvider

end LamcoRdp
