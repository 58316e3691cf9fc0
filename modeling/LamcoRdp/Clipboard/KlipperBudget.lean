/-
LamcoRdp/Clipboard/KlipperBudget.lean

How often the server answers Klipper back.

When Klipper takes the clipboard over from a client's copy, the server announces the
copy again: not within 500 ms of the last time, and at most twice.  The count is kept
under the sorted ids of the formats, and only the teardown of a connection clears it.
A copy of the same formats as an earlier one finds the count where that one has left it.

`reannouncements_per_copy` says what each copy gets.  It gets the two announcements, and
no more, if it finds its count at zero, and if no other formats come in its place before
the takeovers: from a list that the loop detector holds back, or by a teardown.  A copy
that finds its count above zero gets too few, as soon as it is taken over twice.

The times come with the events, and the clock does not go back; the provider accepts
what is announced.
-/
import LamcoRdp.Clipboard.Ownership

namespace LamcoRdp

open Runs

/-- The key of `reannounce_count`. -/
def formatIds (formats : List ClipboardFormat) : List UInt32 := (formats.map (·.id)).mergeSort

theorem formatIds_eq_nil {formats : List ClipboardFormat} :
    formatIds formats = [] ↔ formats = [] := by
  rw [← List.length_eq_zero_iff, formatIds, List.length_mergeSort, List.length_map,
    List.length_eq_zero_iff]

namespace Ownership

variable (rdpFormatToMime : UInt32 → Option Mime)
  (mimeToRdpFormats : List Mime → List ClipboardFormat)

/-- The last re-announcement is less than 500 ms ago. -/
def recentlyReannounced (s : Ownership) (now : ℕ) : Bool :=
  s.lastReannounce.any fun t => t ≤ now ∧ now - t < 500

/-- Klipper takes over, and the time guard lets the server answer. -/
def dueTakeover (s : Ownership) : OwnershipEvent → Bool
  | .portalFormatsAvailable mimeTypes force loop now _ _ =>
      (s.sync.handlePortalFormats mimeTypes force loop now).1 == .klipperReannounce &&
        !s.recentlyReannounced now
  | _ => false

/-- The event makes the server announce the client's formats again: only this stores a
time in `last_reannounce_time`. -/
def reannounces (s : Ownership) (e : OwnershipEvent) : Bool :=
  (step rdpFormatToMime mimeToRdpFormats s e).lastReannounce != s.lastReannounce

end Ownership

/-! ### A run and its count -/

/-- The clipboard, with what has become of the copy that was accepted last. -/
structure CopyWatch where
  owner : Ownership
  /-- the time of the last event -/
  now : ℕ
  /-- the format list that was accepted last -/
  copied : List ClipboardFormat
  /-- the takeovers since then that were due an answer -/
  due : ℕ
  /-- the re-announcements since then -/
  made : ℕ
  /-- a takeover that was one of the first two has not been answered -/
  missed : Bool
  /-- the formats stored are still those of the copy -/
  intact : Bool

namespace CopyWatch

open Ownership

variable (rdpFormatToMime : UInt32 → Option Mime)
  (mimeToRdpFormats : List Mime → List ClipboardFormat)

/-- At the start. -/
def start (klipperPresent : Bool) : CopyWatch where
  owner := .init klipperPresent
  now := 0
  copied := []
  due := 0
  made := 0
  missed := false
  intact := true

/-- A takeover, if it is one, at the time `now`. -/
def takeover (w : CopyWatch) (e : OwnershipEvent) (now : ℕ) : CopyWatch :=
  let due := w.owner.dueTakeover e
  let made := w.owner.reannounces rdpFormatToMime mimeToRdpFormats e
  { w with
    owner := step rdpFormatToMime mimeToRdpFormats w.owner e
    now := now
    due := w.due + due.toNat
    made := w.made + made.toNat
    missed := w.missed || (due && !made && decide (w.due < 2 ∧ w.copied ≠ [])) }

/-- The watch after an event: a new copy of the client starts the count again. -/
def next (w : CopyWatch) (e : OwnershipEvent) : CopyWatch :=
  let moved := { w with owner := step rdpFormatToMime mimeToRdpFormats w.owner e }
  match e with
  | .rdpFormatList formats false now _ _ =>
      { moved with now, copied := formats, due := 0, made := 0, intact := true }
  | .rdpFormatList formats true now _ _ =>
      { moved with
        now, intact := w.intact && decide (formatIds formats = formatIds w.owner.formats) }
  | .rdpDisconnect => { moved with intact := w.intact && !w.owner.rdpReady }
  | .portalFormatsAvailable _ _ _ now _ _ =>
      w.takeover rdpFormatToMime mimeToRdpFormats e now
  | .klipperContentUpdated now => { moved with now }
  | .rdpReady _ | .other => moved

/-- The clock does not go back, and the provider accepts what it is told. -/
def Fair (w : CopyWatch) : OwnershipEvent → Prop
  | .rdpFormatList _ _ now _ announces => w.now ≤ now ∧ announces = true
  | .portalFormatsAvailable _ _ _ now announces _ => w.now ≤ now ∧ announces = true
  | .klipperContentUpdated now => w.now ≤ now
  | .rdpReady _ | .rdpDisconnect | .other => True

/-- A fair event, with the watch after it. -/
def Step (w : CopyWatch) (e : OwnershipEvent) (v : CopyWatch) : Prop :=
  w.Fair e ∧ w.next rdpFormatToMime mimeToRdpFormats e = v

/-- A copy is announced again at most twice, and the first two takeovers that are due an
answer get it. -/
def Sound (w : CopyWatch) : Prop := w.made ≤ 2 ∧ w.missed = false

/-- A copy that is accepted finds its count at zero, and a takeover that is due an answer
finds the formats of the copy. -/
def Fresh (w : CopyWatch) : OwnershipEvent → Prop
  | .rdpFormatList formats false _ _ _ =>
      formats = [] ∨ w.owner.reannounceCount (formatIds formats) = 0
  | e => w.owner.dueTakeover e = true → w.intact = true

end CopyWatch

/-! ### What a step does to the count -/

namespace Ownership

variable (rdpFormatToMime : UInt32 → Option Mime)
  (mimeToRdpFormats : List Mime → List ClipboardFormat)

/-- Everything that the count depends on is the same. -/
structure SameBudget (s t : Ownership) : Prop where
  formats : t.formats = s.formats
  reannounceCount : t.reannounceCount = s.reannounceCount
  lastReannounce : t.lastReannounce = s.lastReannounce

section

variable {rdpFormatToMime} {mimeToRdpFormats} {s : Ownership} {now : ℕ} {announces : Bool}

theorem reannounce_of_recent (h : s.recentlyReannounced now = true) :
    s.reannounce rdpFormatToMime now announces = s := if_pos h

theorem reannounce_of_not_recent (h : s.recentlyReannounced now = false) :
    s.reannounce rdpFormatToMime now announces =
      if 2 ≤ s.reannounceCount (formatIds s.formats) then s
      else
        let counted := { s with
          reannounceCount := Function.update s.reannounceCount (formatIds s.formats)
            (s.reannounceCount (formatIds s.formats) + 1) }
        if s.formats = [] then counted
        else if announces then
          { counted with
            selection := some (rdpToMimeTypes rdpFormatToMime s.formats)
            lastReannounce := some now }
        else counted :=
  if_neg (by rw [← Bool.not_eq_true] at h; exact h)

end

variable {s : Ownership} {mimeTypes : List Mime} {force loop : Bool} {now : ℕ}
  {announces : Bool} {files : Option (List FileDescriptor)}

/-- Any other decision leaves the count alone. -/
theorem step_sameBudget_of_ne
    (h : (s.sync.handlePortalFormats mimeTypes force loop now).1 ≠ .klipperReannounce) :
    SameBudget s (step rdpFormatToMime mimeToRdpFormats s
      (.portalFormatsAvailable mimeTypes force loop now announces files)) := by
  rw [step, handlePortalFormats]
  rcases hsync : s.sync.handlePortalFormats mimeTypes force loop now with ⟨decision, sync⟩
  rw [hsync] at h
  cases decision with
  | klipperReannounce => exact absurd rfl h
  | block => exact ⟨rfl, rfl, rfl⟩
  | allow =>
      dsimp only
      split <;> exact ⟨rfl, rfl, rfl⟩

theorem step_reannounce (announces : Bool) (files : Option (List FileDescriptor))
    (h : (s.sync.handlePortalFormats mimeTypes force loop now).1 = .klipperReannounce) :
    ∃ sync, step rdpFormatToMime mimeToRdpFormats s
        (.portalFormatsAvailable mimeTypes force loop now announces files) =
      { s with sync }.reannounce rdpFormatToMime now announces := by
  rw [step, handlePortalFormats]
  rcases hsync : s.sync.handlePortalFormats mimeTypes force loop now with ⟨decision, sync⟩
  rw [hsync] at h
  obtain rfl : decision = .klipperReannounce := h
  exact ⟨sync, rfl⟩

/-- A takeover that is not due an answer leaves the count alone, too. -/
theorem step_sameBudget
    (h : s.dueTakeover
      (.portalFormatsAvailable mimeTypes force loop now announces files) = false) :
    SameBudget s (step rdpFormatToMime mimeToRdpFormats s
      (.portalFormatsAvailable mimeTypes force loop now announces files)) := by
  by_cases hdecision :
      (s.sync.handlePortalFormats mimeTypes force loop now).1 = .klipperReannounce
  · obtain ⟨sync, hstep⟩ := step_reannounce rdpFormatToMime mimeToRdpFormats announces files
      hdecision
    have hrecent : s.recentlyReannounced now = true := by
      simpa [dueTakeover, hdecision] using h
    rw [hstep, reannounce_of_recent (s := { s with sync }) hrecent]
    exact ⟨rfl, rfl, rfl⟩
  · exact step_sameBudget_of_ne rdpFormatToMime mimeToRdpFormats hdecision

/-- What a takeover that is due an answer finds, and what it gets. -/
theorem step_due
    (h : s.dueTakeover (.portalFormatsAvailable mimeTypes force loop now true files) = true) :
    let t := step rdpFormatToMime mimeToRdpFormats s
      (.portalFormatsAvailable mimeTypes force loop now true files)
    2 ≤ s.reannounceCount (formatIds s.formats) ∧ SameBudget s t ∨
      s.formats = [] ∧ t.formats = s.formats ∧ t.lastReannounce = s.lastReannounce ∨
      s.reannounceCount (formatIds s.formats) < 2 ∧ s.formats ≠ [] ∧
        t.formats = s.formats ∧ t.lastReannounce = some now ∧
        t.reannounceCount = Function.update s.reannounceCount (formatIds s.formats)
          (s.reannounceCount (formatIds s.formats) + 1) := by
  -- the manager has decided to announce again, and not so soon after the last time
  obtain ⟨hdecision, hrecent⟩ : (s.sync.handlePortalFormats mimeTypes force loop now).1 =
      .klipperReannounce ∧ s.recentlyReannounced now = false := by
    simpa [dueTakeover] using h
  obtain ⟨sync, hstep⟩ := step_reannounce rdpFormatToMime mimeToRdpFormats true files
    hdecision
  intro t
  have ht : t = { s with sync }.reannounce rdpFormatToMime now true := hstep
  rw [reannounce_of_not_recent (s := { s with sync }) hrecent] at ht
  split at ht
  · -- the count is used up
    next hspent =>
      refine .inl ⟨hspent, ?_⟩
      rw [ht]
      exact ⟨rfl, rfl, rfl⟩
  · next hleft =>
      right
      dsimp only at ht hleft
      split at ht
      · -- the client has no formats to announce
        next hempty =>
          refine .inl ⟨hempty, ?_⟩
          rw [ht]
          exact ⟨rfl, rfl⟩
      · next hformats =>
          refine .inr ⟨Nat.lt_of_not_le hleft, hformats, ?_⟩
          rw [ht]
          exact ⟨rfl, rfl, rfl⟩

/-- A format list is stored whether it is accepted or not, and leaves the count alone. -/
theorem step_formatList (s : Ownership) (formats : List ClipboardFormat) (loop : Bool) (now : ℕ)
    (hint announces : Bool) :
    SameBudget { s with formats } (step rdpFormatToMime mimeToRdpFormats s
      (.rdpFormatList formats loop now hint announces)) := by
  rw [step, handleRdpFormatList]
  dsimp only
  split
  · exact ⟨rfl, rfl, rfl⟩
  · split
    · exact ⟨rfl, rfl, rfl⟩
    · split <;> exact ⟨rfl, rfl, rfl⟩

/-- The other events have nothing to do with it, except for a teardown. -/
theorem step_sameBudget_other {e : OwnershipEvent}
    (he : (∃ files, e = .rdpReady files) ∨ (∃ now, e = .klipperContentUpdated now) ∨
      e = .other ∨ e = .rdpDisconnect ∧ s.rdpReady = false) :
    SameBudget s (step rdpFormatToMime mimeToRdpFormats s e) := by
  rcases he with ⟨files, rfl⟩ | ⟨now, rfl⟩ | rfl | ⟨rfl, hready⟩
  · rw [step]
    dsimp only
    split <;> exact ⟨rfl, rfl, rfl⟩
  · rw [step]
    dsimp only
    split <;> exact ⟨rfl, rfl, rfl⟩
  · exact ⟨rfl, rfl, rfl⟩
  · rw [step, if_neg (by simp [hready])]
    exact ⟨rfl, rfl, rfl⟩

end Ownership

/-! ### The budget of a copy -/

namespace CopyWatch

open Ownership

variable (rdpFormatToMime : UInt32 → Option Mime)
  (mimeToRdpFormats : List Mime → List ClipboardFormat)

/-- The count of the copy is the number of its takeovers, up to two, and so is the number of
its re-announcements. -/
structure Inv (w : CopyWatch) : Prop where
  made_le : w.made ≤ 2
  not_missed : w.missed = false
  ids : w.intact = true → formatIds w.owner.formats = formatIds w.copied
  nothing : w.intact = true → w.copied = [] → w.made = 0
  count : w.intact = true → w.copied ≠ [] →
    w.owner.reannounceCount (formatIds w.copied) = min w.due 2 ∧ w.made = min w.due 2

variable {rdpFormatToMime} {mimeToRdpFormats} {w v : CopyWatch} {e : OwnershipEvent} {now : ℕ}

theorem inv_start (klipperPresent : Bool) : (start klipperPresent).Inv where
  made_le := Nat.zero_le 2
  not_missed := rfl
  ids _ := rfl
  nothing _ _ := rfl
  count _ h := absurd rfl h

/-- A step that leaves the count and the copy alone. -/
theorem Inv.of_sameBudget (h : w.Inv) {owner : Ownership} (hsame : SameBudget w.owner owner)
    (now : ℕ) :
    { w with owner, now }.Inv where
  made_le := h.made_le
  not_missed := h.not_missed
  ids hintact := (congrArg formatIds hsame.formats).trans (h.ids hintact)
  nothing := h.nothing
  count := by
    show w.intact = true → w.copied ≠ [] → owner.reannounceCount _ = _ ∧ _
    rw [hsame.reannounceCount]
    exact h.count

/-- A time that is stored anew is not the one that was stored. -/
theorem ne_lastReannounce {s : Ownership} (h : s.recentlyReannounced now = false) :
    some now ≠ s.lastReannounce := by
  intro heq
  rw [recentlyReannounced, ← heq] at h
  simp at h

/-- A takeover is not due an answer so soon after the last one. -/
theorem not_recent_of_due {s : Ownership} {mimeTypes : List Mime} {force loop announces : Bool}
    {files : Option (List FileDescriptor)}
    (h : s.dueTakeover (.portalFormatsAvailable mimeTypes force loop now announces files) = true) :
    s.recentlyReannounced now = false := by
  rw [dueTakeover, Bool.and_eq_true, Bool.not_eq_true'] at h
  exact h.2

/-- A takeover that is due an answer finds the count of the copy. -/
theorem Inv.takeover (h : w.Inv) {mimeTypes : List Mime} {force loop : Bool}
    {files : Option (List FileDescriptor)}
    (hfresh : w.Fresh (.portalFormatsAvailable mimeTypes force loop now true files)) :
    (w.takeover rdpFormatToMime mimeToRdpFormats
      (.portalFormatsAvailable mimeTypes force loop now true files) now).Inv := by
  set e : OwnershipEvent := .portalFormatsAvailable mimeTypes force loop now true files with he
  set t := step rdpFormatToMime mimeToRdpFormats w.owner e with ht
  rcases hdue : w.owner.dueTakeover e with - | -
  · -- nothing happens
    have hsame : SameBudget w.owner t := step_sameBudget _ _ hdue
    have hquiet : w.owner.reannounces rdpFormatToMime mimeToRdpFormats e = false := by
      rw [reannounces, ← ht, hsame.lastReannounce, bne_self_eq_false]
    have hw : w.takeover rdpFormatToMime mimeToRdpFormats e now = { w with owner := t, now } := by
      simp [CopyWatch.takeover, hdue, hquiet, ← ht]
    rw [hw]
    exact h.of_sameBudget hsame _
  · have hintact : w.intact = true := hfresh hdue
    have hids := h.ids hintact
    rcases step_due rdpFormatToMime mimeToRdpFormats hdue with
      ⟨hspent, hsame⟩ | ⟨hempty, hformats, hlast⟩ | ⟨hleft, hne, hformats, hlast, hcount⟩
    · -- the count is used up: this is not one of the first two takeovers
      have hquiet : w.owner.reannounces rdpFormatToMime mimeToRdpFormats e = false := by
        rw [reannounces, ← ht, hsame.lastReannounce, bne_self_eq_false]
      rw [hids] at hspent
      have hlate : w.copied ≠ [] → 2 ≤ w.due := by
        intro hcopied
        have := (h.count hintact hcopied).1
        omega
      have hmissed : decide (w.due < 2 ∧ w.copied ≠ []) = false :=
        decide_eq_false fun hlt => absurd (hlate hlt.2) (Nat.not_le_of_lt hlt.1)
      have hw : w.takeover rdpFormatToMime mimeToRdpFormats e now =
          { w with owner := t, now, due := w.due + 1 } := by
        simp only [CopyWatch.takeover, hdue, hquiet, hmissed, ← ht, Bool.toNat_true,
          Bool.toNat_false, Bool.and_false, Bool.or_false, Nat.add_zero]
      rw [hw]
      have hnext := h.of_sameBudget hsame now
      refine { hnext with count := fun _ hcopied => ?_ }
      obtain ⟨hcount, hmade⟩ := hnext.count hintact hcopied
      have hmin : min (w.due + 1) 2 = min w.due 2 := by
        have := hlate hcopied
        omega
      exact ⟨hcount.trans hmin.symm, hmade.trans hmin.symm⟩
    · -- there is nothing to announce
      have hcopied : w.copied = [] := by
        rw [hempty] at hids
        exact formatIds_eq_nil.mp (hids.symm.trans (formatIds_eq_nil.mpr rfl))
      have hquiet : w.owner.reannounces rdpFormatToMime mimeToRdpFormats e = false := by
        rw [reannounces, ← ht, hlast, bne_self_eq_false]
      have hw : w.takeover rdpFormatToMime mimeToRdpFormats e now =
          { w with owner := t, now, due := w.due + 1 } := by
        simp [CopyWatch.takeover, hdue, hquiet, hcopied, ← ht]
      rw [hw]
      exact {
        made_le := h.made_le
        not_missed := h.not_missed
        ids := fun _ => (congrArg formatIds hformats).trans hids
        nothing := h.nothing
        count := fun _ hne => absurd hcopied hne }
    · -- the copy is announced again
      have hcopied : w.copied ≠ [] := by
        intro hnil
        rw [hnil] at hids
        exact hne (formatIds_eq_nil.mp (hids.trans (formatIds_eq_nil.mpr rfl)))
      have hanswered : w.owner.reannounces rdpFormatToMime mimeToRdpFormats e = true := by
        rw [reannounces, ← ht, hlast, bne_iff_ne]
        exact ne_lastReannounce (not_recent_of_due hdue)
      have hw : w.takeover rdpFormatToMime mimeToRdpFormats e now =
          { w with owner := t, now, due := w.due + 1, made := w.made + 1 } := by
        simp [CopyWatch.takeover, hdue, hanswered, ← ht]
      obtain ⟨hdone, hmade⟩ := h.count hintact hcopied
      rw [hids] at hleft hcount
      have hmin : min (w.due + 1) 2 = min w.due 2 + 1 := by omega
      rw [hw]
      exact {
        made_le := by
          show w.made + 1 ≤ 2
          omega
        not_missed := h.not_missed
        ids := fun _ => (congrArg formatIds hformats).trans hids
        nothing := fun _ hnil => absurd hnil hcopied
        count := fun _ _ => by
          refine ⟨?_, ?_⟩
          · show t.reannounceCount (formatIds w.copied) = min (w.due + 1) 2
            rw [hcount, Function.update_self, hdone, hmin]
          · show w.made + 1 = min (w.due + 1) 2
            rw [hmade, hmin] }

/-- A copy that is accepted, and finds its count at zero. -/
theorem Inv.accept (h : w.Inv) {formats : List ClipboardFormat} {hint announces : Bool}
    (hfresh : w.Fresh (.rdpFormatList formats false now hint announces)) :
    (w.next rdpFormatToMime mimeToRdpFormats
      (.rdpFormatList formats false now hint announces)).Inv := by
  obtain ⟨hformats, hcount, hlast⟩ := step_formatList rdpFormatToMime mimeToRdpFormats w.owner
    formats false now hint announces
  exact {
    made_le := Nat.zero_le 2
    not_missed := h.not_missed
    ids := fun _ => congrArg formatIds hformats
    nothing := fun _ _ => rfl
    count := fun _ hne => ⟨(congrFun hcount _).trans (hfresh.resolve_left hne), rfl⟩ }

/-- A list that the loop detector holds back. -/
theorem Inv.reject (h : w.Inv) {formats : List ClipboardFormat} {hint announces : Bool} :
    (w.next rdpFormatToMime mimeToRdpFormats
      (.rdpFormatList formats true now hint announces)).Inv := by
  obtain ⟨hformats, hcount, hlast⟩ := step_formatList rdpFormatToMime mimeToRdpFormats w.owner
    formats true now hint announces
  have hintact : ∀ {b : Bool} {p : Prop} [Decidable p], (b && decide p) = true → b = true ∧ p := by
    intro b p _ hand
    rwa [Bool.and_eq_true, decide_eq_true_eq] at hand
  exact {
    made_le := h.made_le
    not_missed := h.not_missed
    ids := fun hand => ((congrArg formatIds hformats).trans (hintact hand).2).trans
      (h.ids (hintact hand).1)
    nothing := fun hand => h.nothing (hintact hand).1
    count := fun hand hne => by
      obtain ⟨hdone, hmade⟩ := h.count (hintact hand).1 hne
      exact ⟨(congrFun hcount _).trans hdone, hmade⟩ }

/-- A teardown clears the count, and the formats with it. -/
theorem Inv.disconnect (h : w.Inv) :
    (w.next rdpFormatToMime mimeToRdpFormats .rdpDisconnect).Inv := by
  rcases hready : w.owner.rdpReady with - | -
  · have hsame := step_sameBudget_other rdpFormatToMime mimeToRdpFormats
      (.inr (.inr (.inr ⟨rfl, hready⟩)))
    have hw : w.next rdpFormatToMime mimeToRdpFormats .rdpDisconnect =
        { w with owner := step rdpFormatToMime mimeToRdpFormats w.owner .rdpDisconnect } := by
      simp [next, hready]
    rw [hw]
    exact h.of_sameBudget hsame _
  · have hgone : (w.intact && !w.owner.rdpReady) ≠ true := by simp [hready]
    exact {
      made_le := h.made_le
      not_missed := h.not_missed
      ids := fun hand => absurd hand hgone
      nothing := fun hand => absurd hand hgone
      count := fun hand => absurd hand hgone }

theorem Inv.step (h : w.Inv) (hstep : Step rdpFormatToMime mimeToRdpFormats w e v)
    (hfresh : w.Fresh e) : v.Inv := by
  obtain ⟨hfair, rfl⟩ := hstep
  cases e with
  | rdpReady files =>
      exact h.of_sameBudget (step_sameBudget_other _ _ (.inl ⟨files, rfl⟩)) _
  | rdpDisconnect => exact h.disconnect
  | rdpFormatList formats loop now hint announces =>
      cases loop with
      | false => exact h.accept hfresh
      | true => exact h.reject
  | portalFormatsAvailable mimeTypes force loop now announces files =>
      obtain ⟨-, rfl⟩ := hfair
      exact h.takeover hfresh
  | klipperContentUpdated now =>
      exact h.of_sameBudget (step_sameBudget_other rdpFormatToMime mimeToRdpFormats
        (.inr (.inl ⟨now, rfl⟩))) now
  | other => exact h.of_sameBudget (step_sameBudget_other _ _ (.inr (.inr (.inl rfl)))) _

theorem inv_run {klipperPresent : Bool} {es : List OwnershipEvent}
    (h : Run (Guarded (Step rdpFormatToMime mimeToRdpFormats) Fresh) (start klipperPresent) es w) :
    w.Inv :=
  h.invariant (inv_start klipperPresent) fun hinv hstep => hinv.step hstep.1 hstep.2

/-! ### A copy that finds its count used -/

/-- What Klipper announces when it takes a copy over. -/
def klipperMimes : List Mime := ["application/x-kde-cutselection"]

theorem hasKlipperSignature_klipperMimes : hasKlipperSignature klipperMimes = true := by
  rw [hasKlipperSignature, List.any_eq_true]
  refine ⟨_, List.mem_cons_self, ?_⟩
  rw [List.any_eq_true]
  refine ⟨"application/x-kde-cutselection", List.mem_cons_of_mem _ List.mem_cons_self, ?_⟩
  exact decide_eq_true (List.infix_refl _)

/-- Klipper takes the copy over at the time `now`. -/
def takeoverAt (now : ℕ) : OwnershipEvent :=
  .portalFormatsAvailable klipperMimes true false now true none

/-- The client's copy is less than two seconds old. -/
def Owned (s : Ownership) (now : ℕ) : Prop :=
  ∃ formats since, s.sync.state = .rdpOwned formats since ∧ now - since < echoProtectionWindowMs

theorem handlePortalFormats_of_owned {s : Ownership} (h : Owned s now) :
    s.sync.handlePortalFormats klipperMimes true false now = (.klipperReannounce, s.sync) := by
  obtain ⟨formats, since, hstate, hlt⟩ := h
  simp only [SyncManager.handlePortalFormats, hstate]
  rw [if_neg (by simp), if_pos hlt, if_pos hasKlipperSignature_klipperMimes]

/-- No time that is stored is later than the last event. -/
theorem lastReannounce_le {klipperPresent : Bool} {es : List OwnershipEvent}
    (h : Run (Step rdpFormatToMime mimeToRdpFormats) (start klipperPresent) es w) :
    ∀ t ∈ w.owner.lastReannounce, t ≤ w.now := by
  refine h.invariant (P := fun w => ∀ t ∈ w.owner.lastReannounce, t ≤ w.now)
    (fun t ht => by cases ht) ?_
  rintro w e v hw ⟨hfair, rfl⟩ t ht
  -- where the time of the last announcement stays, the clock has not gone back
  have hkeep : ∀ {owner : Ownership} {now : ℕ}, owner.lastReannounce = w.owner.lastReannounce →
      w.now ≤ now → t ∈ owner.lastReannounce → t ≤ now :=
    fun hlast hnow ht => (hw t (hlast ▸ ht)).trans hnow
  cases e with
  | rdpReady files =>
      exact hkeep (step_sameBudget_other rdpFormatToMime mimeToRdpFormats
        (.inl ⟨files, rfl⟩)).lastReannounce le_rfl ht
  | rdpDisconnect =>
      refine hkeep ?_ le_rfl ht
      show (step rdpFormatToMime mimeToRdpFormats w.owner .rdpDisconnect).lastReannounce = _
      rw [Ownership.step]
      split <;> rfl
  | rdpFormatList formats loop now hint announces =>
      have hlast := (step_formatList rdpFormatToMime mimeToRdpFormats w.owner formats loop now hint
        announces).lastReannounce
      cases loop <;> exact hkeep hlast hfair.1 ht
  | portalFormatsAvailable mimeTypes force loop now announces files =>
      obtain ⟨hnow, rfl⟩ := hfair
      rcases hdue : w.owner.dueTakeover
        (.portalFormatsAvailable mimeTypes force loop now true files) with - | -
      · exact hkeep (step_sameBudget rdpFormatToMime mimeToRdpFormats hdue).lastReannounce hnow ht
      · -- a takeover that is due is dropped, finds nothing, or is announced now
        rcases step_due rdpFormatToMime mimeToRdpFormats hdue with
          ⟨-, hsame⟩ | ⟨-, -, hlast⟩ | ⟨-, -, -, hlast, -⟩
        · exact hkeep hsame.lastReannounce hnow ht
        · exact hkeep hlast hnow ht
        · obtain rfl : now = t := Option.some.inj (hlast.symm.trans ht)
          exact le_rfl
  | klipperContentUpdated now =>
      exact hkeep (step_sameBudget_other rdpFormatToMime mimeToRdpFormats
        (.inr (.inl ⟨now, rfl⟩))).lastReannounce hfair ht
  | other =>
      exact hkeep (step_sameBudget_other rdpFormatToMime mimeToRdpFormats
        (.inr (.inr (.inl rfl)))).lastReannounce le_rfl ht

/-- A takeover half a second after the last re-announcement is due an answer. -/
theorem dueTakeover_takeoverAt {s : Ownership} (hs : Owned s (now + 500))
    (hlast : ∀ t ∈ s.lastReannounce, t ≤ now) : s.dueTakeover (takeoverAt (now + 500)) = true := by
  have hrecent : s.recentlyReannounced (now + 500) = false := by
    rw [recentlyReannounced]
    rcases hstored : s.lastReannounce with - | t
    · rfl
    · have := hlast t hstored
      exact decide_eq_false (by omega)
  rw [takeoverAt, dueTakeover, handlePortalFormats_of_owned hs, hrecent]
  rfl

section

variable (rdpFormatToMime) (mimeToRdpFormats)

/-- One takeover of a copy that finds its count used leaves none for the next. -/
theorem spent_after_takeover {s : Ownership} (hs : Owned s (now + 500))
    (hlast : ∀ t ∈ s.lastReannounce, t ≤ now) (hformats : s.formats ≠ [])
    (hcount : s.reannounceCount (formatIds s.formats) ≠ 0) :
    let t := step rdpFormatToMime mimeToRdpFormats s (takeoverAt (now + 500))
    t.sync = s.sync ∧ t.formats = s.formats ∧ 2 ≤ t.reannounceCount (formatIds t.formats) ∧
      ∀ u ∈ t.lastReannounce, u ≤ now + 500 := by
  intro t
  -- the takeover leaves the ownership where it is
  have hsync : t.sync = s.sync := by
    have h := handlePortalFormats_sync rdpFormatToMime mimeToRdpFormats s klipperMimes true false
      (now + 500) true none
    rw [handlePortalFormats_of_owned hs] at h
    exact h
  rcases step_due rdpFormatToMime mimeToRdpFormats (dueTakeover_takeoverAt hs hlast) with
    ⟨hspent, hsame⟩ | ⟨hempty, -⟩ | ⟨-, -, hkept, hnow, hcounted⟩
  · -- nothing is announced: the count was used up before
    have hsame : SameBudget s t := hsame
    refine ⟨hsync, hsame.formats, ?_, ?_⟩
    · show 2 ≤ t.reannounceCount (formatIds t.formats)
      rw [hsame.formats, hsame.reannounceCount]
      exact hspent
    · intro u hu
      exact (hlast u (hsame.lastReannounce ▸ hu)).trans (Nat.le_add_right now 500)
  · exact absurd hempty hformats
  · -- or it is announced, which uses the count up
    have hkept : t.formats = s.formats := hkept
    have hcounted : t.reannounceCount = _ := hcounted
    refine ⟨hsync, hkept, ?_, ?_⟩
    · show 2 ≤ t.reannounceCount (formatIds t.formats)
      rw [hkept, hcounted, Function.update_self]
      omega
    · intro u hu
      obtain rfl : now + 500 = u := Option.some.inj (hnow.symm.trans hu)
      exact le_rfl

/-- A takeover of a copy whose count is used up is not answered. -/
theorem not_reannounces_of_spent {s : Ownership} (hs : Owned s (now + 500))
    (hlast : ∀ t ∈ s.lastReannounce, t ≤ now)
    (hspent : 2 ≤ s.reannounceCount (formatIds s.formats)) :
    s.reannounces rdpFormatToMime mimeToRdpFormats (takeoverAt (now + 500)) = false := by
  rcases step_due rdpFormatToMime mimeToRdpFormats (dueTakeover_takeoverAt hs hlast) with
    ⟨-, hsame⟩ | ⟨-, -, hsame⟩ | ⟨hleft, -⟩
  · rw [reannounces, takeoverAt, hsame.lastReannounce, bne_self_eq_false]
  · rw [reannounces, takeoverAt, hsame, bne_self_eq_false]
  · exact absurd hspent (Nat.not_le_of_lt hleft)

end

/-- A copy that finds its count above zero goes without an answer as soon as it is taken
over twice. -/
theorem spent_copy_missed {klipperPresent : Bool} {es : List OwnershipEvent}
    (h : Run (Step rdpFormatToMime mimeToRdpFormats) (start klipperPresent) es w)
    {formats : List ClipboardFormat} (hformats : formats ≠ []) (hnow : w.now ≤ now)
    (hcount : w.owner.reannounceCount (formatIds formats) ≠ 0) (hint : Bool) :
    ∃ later v, Run (Step rdpFormatToMime mimeToRdpFormats) (start klipperPresent)
      (es ++ .rdpFormatList formats false now hint true :: later) v ∧ ¬ v.Sound := by
  set copy : OwnershipEvent := .rdpFormatList formats false now hint true with hcopy
  set w₁ := w.next rdpFormatToMime mimeToRdpFormats copy with hw₁
  obtain ⟨hkept, hcounted, hlast⟩ := step_formatList rdpFormatToMime mimeToRdpFormats w.owner
    formats false now hint true
  have hsince : ∀ later, later < echoProtectionWindowMs → Owned w₁.owner (now + later) := by
    intro later hlt
    refine ⟨formats, now, ?_, by omega⟩
    show (step rdpFormatToMime mimeToRdpFormats w.owner copy).sync.state = _
    rw [hcopy, step, handleRdpFormatList]
    dsimp only
    split
    · next hno => cases hno
    · split
      · rfl
      · split <;> rfl
  have hformats₁ : w₁.owner.formats = formats := hkept
  have hlast₁ : ∀ t ∈ w₁.owner.lastReannounce, t ≤ now := fun t ht =>
    (lastReannounce_le h t (hlast ▸ ht)).trans hnow
  have hcount₁ : w₁.owner.reannounceCount (formatIds w₁.owner.formats) ≠ 0 := by
    rw [hformats₁]
    exact (congrFun hcounted _).trans_ne hcount
  have howned₁ := hsince 500 (by decide)
  -- the first takeover uses the count up
  obtain ⟨hsync₂, hformats₂, hspent₂, hlast₂⟩ := spent_after_takeover
    rdpFormatToMime mimeToRdpFormats howned₁ hlast₁ (hformats₁.trans_ne hformats) hcount₁
  set w₂ := w₁.next rdpFormatToMime mimeToRdpFormats (takeoverAt (now + 500)) with hw₂
  have howned₂ : Owned w₂.owner (now + 500 + 500) := by
    obtain ⟨formats, since, hstate, hlt⟩ := hsince 1000 (by decide)
    exact ⟨formats, since, (congrArg SyncManager.state hsync₂).trans hstate, hlt⟩
  have hdue₂ : w₂.due = 1 := by
    show 0 + (w₁.owner.dueTakeover (takeoverAt (now + 500))).toNat = 1
    rw [dueTakeover_takeoverAt howned₁ hlast₁]
    rfl
  -- the second one goes without an answer
  refine ⟨[takeoverAt (now + 500), takeoverAt (now + 500 + 500)],
    w₂.next rdpFormatToMime mimeToRdpFormats (takeoverAt (now + 500 + 500)), ?_, ?_⟩
  · have hrun := ((h.snoc (e := copy) ⟨⟨hnow, rfl⟩, rfl⟩).snoc (e := takeoverAt (now + 500))
      ⟨⟨Nat.le_add_right now 500, rfl⟩, rfl⟩).snoc (e := takeoverAt (now + 500 + 500))
      ⟨⟨Nat.le_add_right (now + 500) 500, rfl⟩, rfl⟩
    rw [List.append_assoc, List.append_assoc] at hrun
    exact hrun
  · rintro ⟨-, hmissed⟩
    have hnone := not_reannounces_of_spent rdpFormatToMime mimeToRdpFormats howned₂ hlast₂ hspent₂
    have hmiss : (w₂.missed || (w₂.owner.dueTakeover (takeoverAt (now + 500 + 500)) &&
        !w₂.owner.reannounces rdpFormatToMime mimeToRdpFormats (takeoverAt (now + 500 + 500)) &&
        decide (w₂.due < 2 ∧ w₂.copied ≠ []))) = false := hmissed
    rw [hnone, dueTakeover_takeoverAt howned₂ hlast₂, hdue₂] at hmiss
    have hcopied : w₂.copied ≠ [] := hformats
    simp [hcopied] at hmiss

/-- Each copy that finds its count at zero, and whose formats stay, is announced again for the
first two takeovers and for no more; a copy that finds it above zero may go without. -/
theorem reannouncements_per_copy (rdpFormatToMime : UInt32 → Option Mime)
    (mimeToRdpFormats : List Mime → List ClipboardFormat) (klipperPresent : Bool)
    (es : List OwnershipEvent) (w : CopyWatch) :
    (Run (Guarded (Step rdpFormatToMime mimeToRdpFormats) Fresh) (start klipperPresent) es w →
      w.Sound) ∧
    (Run (Step rdpFormatToMime mimeToRdpFormats) (start klipperPresent) es w →
      ∀ formats now, formats ≠ [] → w.now ≤ now →
        w.owner.reannounceCount (formatIds formats) ≠ 0 → ∀ hint, ∃ later v,
          Run (Step rdpFormatToMime mimeToRdpFormats) (start klipperPresent)
            (es ++ .rdpFormatList formats false now hint true :: later) v ∧ ¬ v.Sound) := by
  constructor
  · intro h
    exact ⟨(inv_run h).made_le, (inv_run h).not_missed⟩
  · intro h formats now hformats hnow hcount hint
    exact spent_copy_missed h hformats hnow hcount hint

/-- A copy of one format, at the time `now`. -/
def copyAt (format : UInt32) (now : ℕ) : OwnershipEvent :=
  .rdpFormatList [⟨format, none⟩] false now false true

/-- A copy of text that is taken over twice, another one, and a takeover of that. -/
def twoCopies (format : UInt32) : List OwnershipEvent :=
  [copyAt cfUnicodeText 0, takeoverAt 100, takeoverAt 600, copyAt format 700, takeoverAt 1200]

/-- A copy of another format finds its count at zero. -/
theorem reannouncements_per_copy_fresh :
    ∃ w, Run (Guarded (Step textMime textFormats) Fresh) (start false) (twoCopies cfText) w ∧
      w.Sound := by
  have hstart : Run (Guarded (Step textMime textFormats) Fresh) (start false) [] (start false) :=
    Run.nil
  have hrun := (((hstart.snoc (e := copyAt cfUnicodeText 0)
      ⟨⟨⟨le_rfl, rfl⟩, rfl⟩, .inr rfl⟩).snoc (e := takeoverAt 100)
      ⟨⟨⟨by decide, rfl⟩, rfl⟩, fun _ => rfl⟩).snoc (e := takeoverAt 600)
      ⟨⟨⟨by decide, rfl⟩, rfl⟩, fun _ => rfl⟩).snoc (e := copyAt cfText 700)
      ⟨⟨⟨by decide, rfl⟩, rfl⟩, .inr (by decide +kernel)⟩ |>.snoc (e := takeoverAt 1200)
      ⟨⟨⟨by decide, rfl⟩, rfl⟩, fun _ => rfl⟩
  exact ⟨_, hrun, (reannouncements_per_copy textMime textFormats false _ _).1 hrun⟩

/-- A copy of text again finds it used up. -/
theorem spent_copy_not_answered :
    ∃ w, Run (Step textMime textFormats) (start false) (twoCopies cfUnicodeText) w ∧
      ¬ w.Sound := by
  have hstart : Run (Step textMime textFormats) (start false) [] (start false) := Run.nil
  have hrun := (((hstart.snoc (e := copyAt cfUnicodeText 0) ⟨⟨le_rfl, rfl⟩, rfl⟩).snoc
      (e := takeoverAt 100) ⟨⟨by decide, rfl⟩, rfl⟩).snoc
      (e := takeoverAt 600) ⟨⟨by decide, rfl⟩, rfl⟩).snoc
      (e := copyAt cfUnicodeText 700) ⟨⟨by decide, rfl⟩, rfl⟩ |>.snoc
      (e := takeoverAt 1200) ⟨⟨by decide, rfl⟩, rfl⟩
  refine ⟨_, hrun, fun h => ?_⟩
  have hmissed : ((twoCopies cfUnicodeText).foldl (next textMime textFormats)
      (start false)).missed = true := by decide +kernel
  exact absurd (hmissed.symm.trans h.2) Bool.noConfusion

end CopyWatch

end LamcoRdp
