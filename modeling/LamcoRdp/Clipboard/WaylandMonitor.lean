/-
LamcoRdp/Clipboard/WaylandMonitor.lean

The monitor of the Wayland selection (`clipboard_monitor_loop` and
`clipboard_poll_loop_ephemeral`, `clipboard/providers/wl_clipboard.rs`).

Two loops do the same work: one is told of each new selection and looks at what it was told at
every turn, the other asks for the types of the selection at every turn.  Both know a selection
by its MIME types alone.  They take it for the old one if it has the types seen last, and for
our own if it has the types of `our_mime_types`, which `announce_formats`, `complete_transfer`
and `on_remote_gone` change on another thread.

Either loop `Compares`: it reports what it sees, unless these are the types seen at the previous
turn, or our types, or none (`report`).  From this, `reports_iff_distinct_types` says in which
runs every local copy is reported and no copy of our own.
-/
import LamcoRdp.Clipboard.WlClipboard
import LamcoRdp.Lib.Runs

namespace LamcoRdp

open Runs

/-! ### The two loops -/

/-- The types that go out with `SelectionChanged`, for a selection with other types than the last
one. -/
def selectionChanged (current ours : Finset Mime) : Option (Finset Mime) :=
  if ours ≠ ∅ ∧ current = ours then none
  else if current ≠ ∅ then some current
  else none

/-- `MonitorState`, with the `last_emitted` of `clipboard_monitor_loop`. -/
structure PersistentMonitor where
  currentMimeTypes : Finset Mime
  selectionChanged : Bool
  lastEmitted : Finset Mime

namespace PersistentMonitor

/-- `MonitorState::new`. -/
def new : PersistentMonitor := ⟨∅, false, ∅⟩

/-- The event `Selection`. -/
def selection (m : PersistentMonitor) (newTypes : Finset Mime) : PersistentMonitor :=
  if newTypes ≠ m.currentMimeTypes then
    { m with currentMimeTypes := newTypes, selectionChanged := true }
  else m

/-- A turn of `clipboard_monitor_loop`, behind its roundtrip. -/
def turn (m : PersistentMonitor) (ours : Finset Mime) :
    PersistentMonitor × Option (Finset Mime) :=
  if !m.selectionChanged then (m, none)
  else
    let m := { m with selectionChanged := false }
    if m.currentMimeTypes = m.lastEmitted then (m, none)
    else
      ({ m with lastEmitted := m.currentMimeTypes },
        LamcoRdp.selectionChanged m.currentMimeTypes ours)

end PersistentMonitor

/-- What comes of `get_mime_types`. -/
inductive MimeTypesAnswer
  /-- the types of the selection, or `ClipboardEmpty` -/
  | types
  | noSeats
  | error
  deriving DecidableEq, Repr

/-- The `current` of `clipboard_poll_loop_ephemeral`, for a selection offered under some types. -/
def MimeTypesAnswer.current (offered : Finset Mime) : MimeTypesAnswer → Option (Finset Mime)
  | .types => some offered
  | .noSeats => some ∅
  | .error => none

/-- A turn of `clipboard_poll_loop_ephemeral`, with its `last_mime_types`. -/
def ephemeralTurn (lastMimeTypes ours : Finset Mime) :
    Option (Finset Mime) → Finset Mime × Option (Finset Mime)
  | none => (lastMimeTypes, none)
  | some current =>
      if current ≠ lastMimeTypes then (current, selectionChanged current ours)
      else (lastMimeTypes, none)

/-- A loop that monitors the selection, with state `M` and answers `A` of the compositor. -/
structure MonitorLoop (M A : Type) where
  start : M
  /-- the compositor tells of a selection with some types -/
  selection : M → Finset Mime → M
  /-- a turn, for a selection with some types and with `our_mime_types`, and what it reports -/
  poll : M → A → Finset Mime → Finset Mime → M × Option (Finset Mime)
  /-- what a turn sees of the selection -/
  sees : M → A → Finset Mime → Option (Finset Mime)

/-- `clipboard_monitor_loop`: a roundtrip that fails ends it. -/
def persistentLoop : MonitorLoop (Option PersistentMonitor) Bool where
  start := some PersistentMonitor.new
  selection m newTypes := m.map fun m => m.selection newTypes
  poll
    | some m, true, _, ours => (some (m.turn ours).1, (m.turn ours).2)
    | _, _, _, _ => (none, none)
  sees
    | some _, true, offered => some offered
    | _, _, _ => none

/-- `clipboard_poll_loop_ephemeral`. -/
def ephemeralLoop : MonitorLoop (Finset Mime) MimeTypesAnswer where
  start := ∅
  selection lastMimeTypes _ := lastMimeTypes
  poll lastMimeTypes answer offered ours :=
    ephemeralTurn lastMimeTypes ours (answer.current offered)
  sees _ answer offered := answer.current offered

/-! ### What they have in common -/

/-- A selection that is not reported: it looks like the previous one, like ours, or like none. -/
def Overlooked (previous ours seen : Finset Mime) : Prop :=
  seen = previous ∨ seen = ours ∨ seen = ∅

instance (previous ours seen : Finset Mime) : Decidable (Overlooked previous ours seen) := by
  unfold Overlooked; infer_instance

/-- What is reported of what is seen. -/
def report (previous ours seen : Finset Mime) : Option (Finset Mime) :=
  if Overlooked previous ours seen then none else some seen

variable {M A : Type} {L : MonitorLoop M A} {previous ours seen types : Finset Mime}

theorem report_eq_none_iff : report previous ours seen = none ↔ Overlooked previous ours seen := by
  unfold report
  split
  · rename_i h
    exact ⟨fun _ => h, fun _ => rfl⟩
  · rename_i h
    exact ⟨fun hsome => absurd hsome (Option.some_ne_none _), fun hover => absurd hover h⟩

theorem report_eq_some_iff :
    report previous ours seen = some types ↔ seen = types ∧ ¬ Overlooked previous ours types := by
  unfold report
  split
  · rename_i h
    constructor
    · intro hnone
      cases hnone
    · rintro ⟨rfl, hnot⟩
      exact absurd h hnot
  · rename_i h
    constructor
    · intro hsome
      obtain rfl := Option.some.inj hsome
      exact ⟨rfl, h⟩
    · rintro ⟨rfl, -⟩
      rfl

/-- With types that are not the previous ones, that is what the loops report. -/
theorem selectionChanged_eq_report (h : seen ≠ previous) :
    selectionChanged seen ours = report previous ours seen := by
  unfold selectionChanged
  split
  · rename_i hours
    exact (report_eq_none_iff.mpr (Or.inr (Or.inl hours.2))).symm
  · rename_i hnot
    split
    · rename_i hsome
      symm
      rw [report_eq_some_iff]
      refine ⟨rfl, ?_⟩
      rintro (hprev | rfl | hnone)
      · exact h hprev
      · exact hnot ⟨hsome, rfl⟩
      · exact hsome hnone
    · rename_i hnone
      exact (report_eq_none_iff.mpr (Or.inr (Or.inr (not_not.mp hnone)))).symm

/-- A loop that reports what it sees by comparing it with what it saw before.  `Inv` relates its
state to what it saw last and to the types of the selection. -/
structure MonitorLoop.Compares (L : MonitorLoop M A)
    (Inv : M → Finset Mime → Finset Mime → Prop) : Prop where
  start : Inv L.start ∅ ∅
  selection : ∀ {m previous current} (types), Inv m previous current →
    Inv (L.selection m types) previous types
  keeps : ∀ {m previous current} (a ours), Inv m previous current →
    Inv (L.poll m a current ours).1 ((L.sees m a current).getD previous) current
  reports : ∀ {m previous current} (a ours), Inv m previous current →
    (L.poll m a current ours).2 = (L.sees m a current).bind (report previous ours)

/-- The persistent monitor has been told the types, and has seen them unless the flag is up. -/
structure PersistentMonitor.Told (m : PersistentMonitor) (previous current : Finset Mime) :
    Prop where
  told : m.currentMimeTypes = current
  last : m.lastEmitted = previous
  seen : m.selectionChanged = false → current = previous

theorem PersistentMonitor.Told.selection {m : PersistentMonitor} {current : Finset Mime}
    (h : m.Told previous current) (types : Finset Mime) :
    (m.selection types).Told previous types := by
  unfold PersistentMonitor.selection
  split
  · exact ⟨rfl, h.last, fun hdown => by cases hdown⟩
  · rename_i hsame
    have heq : types = current := (not_not.mp hsame).trans h.told
    exact ⟨h.told.trans heq.symm, h.last, fun hdown => heq.trans (h.seen hdown)⟩

/-- A turn, in all its cases. -/
theorem PersistentMonitor.Told.turn {m : PersistentMonitor} {current : Finset Mime}
    (h : m.Told previous current) (ours : Finset Mime) :
    (m.turn ours).1.Told current current ∧ (m.turn ours).2 = report previous ours current := by
  cases hchanged : m.selectionChanged with
  | false =>
      -- nothing has come in, or only what was there before
      have hturn : m.turn ours = (m, none) := by
        unfold PersistentMonitor.turn
        rw [hchanged]
        rfl
      have hseen : current = previous := h.seen hchanged
      rw [hturn]
      refine ⟨⟨h.told, h.last.trans hseen.symm, fun _ => rfl⟩, ?_⟩
      exact (report_eq_none_iff.mpr (Or.inl hseen)).symm
  | true =>
      have hturn : m.turn ours =
          if m.currentMimeTypes = m.lastEmitted then ({ m with selectionChanged := false }, none)
          else
            ({ m with selectionChanged := false, lastEmitted := m.currentMimeTypes },
              LamcoRdp.selectionChanged m.currentMimeTypes ours) := by
        unfold PersistentMonitor.turn
        rw [hchanged]
        rfl
      rw [hturn]
      by_cases hsame : m.currentMimeTypes = m.lastEmitted
      · -- another selection, and then again one with the types of before
        have hseen : current = previous := h.told.symm.trans (hsame.trans h.last)
        rw [if_pos hsame]
        refine ⟨⟨h.told, h.last.trans hseen.symm, fun _ => rfl⟩, ?_⟩
        exact (report_eq_none_iff.mpr (Or.inl hseen)).symm
      · -- `last_emitted` follows, whether the types go out or are taken for ours
        rw [if_neg hsame]
        refine ⟨⟨h.told, h.told, fun _ => rfl⟩, ?_⟩
        rw [h.told]
        apply selectionChanged_eq_report
        intro hseen
        apply hsame
        rw [h.told, h.last, hseen]

theorem persistentLoop_compares :
    persistentLoop.Compares fun m previous current => ∀ m' ∈ m, m'.Told previous current where
  start := by
    rintro m' hm
    obtain rfl := Option.some.inj hm
    exact ⟨rfl, rfl, fun _ => rfl⟩
  selection := by
    intro m previous current types h m' hm
    obtain ⟨told, htold, rfl⟩ := Option.map_eq_some_iff.mp hm
    exact (h told htold).selection types
  -- a round trip that fails ends the loop
  keeps := by
    intro m previous current roundtrip ours h m' hm
    cases m with
    | none => cases hm
    | some m =>
        cases roundtrip with
        | false => cases hm
        | true =>
            obtain rfl := Option.some.inj hm
            exact ((h m rfl).turn ours).1
  reports := by
    intro m previous current roundtrip ours h
    cases m with
    | none => rfl
    | some m =>
        cases roundtrip with
        | false => rfl
        | true => exact ((h m rfl).turn ours).2

/-- A turn of the other loop, in all its cases. -/
theorem ephemeralTurn_some (lastMimeTypes ours seen : Finset Mime) :
    ephemeralTurn lastMimeTypes ours (some seen) = (seen, report lastMimeTypes ours seen) := by
  show (if seen ≠ lastMimeTypes then _ else _) = _
  by_cases hsame : seen = lastMimeTypes
  · rw [if_neg (not_not.mpr hsame), report_eq_none_iff.mpr (Or.inl hsame), hsame]
  · rw [if_pos hsame, selectionChanged_eq_report hsame]

theorem ephemeralLoop_compares :
    ephemeralLoop.Compares fun lastMimeTypes previous _ => lastMimeTypes = previous where
  start := rfl
  selection := fun _ h => h
  keeps := by
    rintro lastMimeTypes _ current answer ours rfl
    show (ephemeralTurn lastMimeTypes ours (answer.current current)).1 =
      (answer.current current).getD lastMimeTypes
    rcases answer.current current with - | seen
    · rfl
    · rw [ephemeralTurn_some]
      rfl
  reports := by
    rintro lastMimeTypes _ current answer ours rfl
    show (ephemeralTurn lastMimeTypes ours (answer.current current)).2 =
      (answer.current current).bind (report lastMimeTypes ours)
    rcases answer.current current with - | seen
    · rfl
    · rw [ephemeralTurn_some]
      rfl

/-! ### The clipboard under watch -/

/-- The selection, by who set it. -/
inductive Selection
  | cleared
  | other (mimeTypes : Finset Mime)
  | ours (mimeTypes : Finset Mime)
  deriving DecidableEq

/-- The types under which it is offered. -/
def Selection.mimeTypes : Selection → Finset Mime
  | .cleared => ∅
  | .other mimeTypes | .ours mimeTypes => mimeTypes

/-- What happens at the compositor, to the provider and in the loop. -/
inductive WatchEvent (A : Type)
  /-- another client sets the selection -/
  | select (mimeTypes : Finset Mime)
  | clear
  | announceFormats (mimeTypes : List Mime)
  /-- `complete_transfer`, up to the task that it spawns -/
  | completeTransfer (serial : UInt32) (mimeType : Mime) (data : ClipboardBytes) (success : Bool)
  | onRemoteGone
  /-- a task calls `copy_multi` -/
  | copyMulti (task : ℕ)
  /-- a turn of the loop -/
  | poll (answer : A)

/-- The provider, its loop, and the selection. -/
structure Watched (M : Type) where
  provider : WlClipboardProvider
  /-- the sources of the tasks that have not called `copy_multi` yet -/
  tasks : List (List MimeSource)
  selection : Selection
  /-- whether another client has set a selection since the previous poll -/
  fresh : Bool
  /-- the types that were seen last -/
  previous : Finset Mime
  monitor : M

namespace Watched

/-- No selection so far. -/
def start (L : MonitorLoop M A) : Watched M where
  provider := WlClipboardProvider.new
  tasks := []
  selection := .cleared
  fresh := false
  previous := ∅
  monitor := L.start

/-- A new selection, of which the loop is told. -/
def setSelection (L : MonitorLoop M A) (s : Watched M) (selection : Selection) : Watched M :=
  { s with selection, monitor := L.selection s.monitor selection.mimeTypes }

/-- What a turn of the loop does, and what it reports. -/
def pollWith (L : MonitorLoop M A) (s : Watched M) (answer : A) : M × Option (Finset Mime) :=
  L.poll s.monitor answer s.selection.mimeTypes s.provider.ourMimeTypes

/-- What it sees. -/
def sees (L : MonitorLoop M A) (s : Watched M) (answer : A) : Option (Finset Mime) :=
  L.sees s.monitor answer s.selection.mimeTypes

/-- One event, where `copy_multi` offers sources under the types `offered`. -/
def step (offered : List MimeSource → Finset Mime) (L : MonitorLoop M A) (s : Watched M) :
    WatchEvent A → Watched M
  | .select mimeTypes => { s.setSelection L (.other mimeTypes) with fresh := true }
  | .clear => s.setSelection L .cleared
  | .announceFormats mimeTypes =>
      { s with provider := (s.provider.announceFormats mimeTypes).1 }
  | .completeTransfer serial mimeType data success =>
      let (provider, sources) := s.provider.completeTransfer serial mimeType data success
      { s with provider, tasks := s.tasks ++ sources.toList }
  | .onRemoteGone => { s with provider := s.provider.onRemoteGone }
  | .copyMulti task =>
      match s.tasks[task]? with
      | none => s
      | some sources =>
          { s.setSelection L (.ours (offered sources)) with tasks := s.tasks.eraseIdx task }
  | .poll answer =>
      { s with
        fresh := false
        previous := (s.sees L answer).getD s.previous
        monitor := (s.pollWith L answer).1 }

/-- A poll reports a selection that another client has set since the previous one, and none that
is ours. -/
def Reports (L : MonitorLoop M A) (s : Watched M) (answer : A) : Prop :=
  match s.selection with
  | .cleared => True
  | .other mimeTypes => s.fresh = true → (s.pollWith L answer).2 = some mimeTypes
  | .ours _ => (s.pollWith L answer).2 = none

/-- The types of the selection set it apart as they should.  A new selection of another client is
seen, and does not look like the previous one, like ours or like none.  What is seen of our own
looks like one of these. -/
def SetApart (L : MonitorLoop M A) (s : Watched M) (answer : A) : Prop :=
  match s.selection with
  | .cleared => True
  | .other mimeTypes =>
      s.fresh = true → s.sees L answer = some mimeTypes ∧
        ¬ Overlooked s.previous s.provider.ourMimeTypes mimeTypes
  | .ours _ =>
      ∀ seen ∈ s.sees L answer, Overlooked s.previous s.provider.ourMimeTypes seen

instance (L : MonitorLoop M A) (s : Watched M) (answer : A) : Decidable (s.Reports L answer) := by
  unfold Reports; split <;> infer_instance

variable {Inv : M → Finset Mime → Finset Mime → Prop} {s : Watched M}
  {offered : List MimeSource → Finset Mime}

/-- The loop keeps up with the selection. -/
theorem inv_step (hL : L.Compares Inv)
    (hs : Inv s.monitor s.previous s.selection.mimeTypes) (e : WatchEvent A) :
    Inv (s.step offered L e).monitor (s.step offered L e).previous
      (s.step offered L e).selection.mimeTypes := by
  cases e with
  | select mimeTypes => exact hL.selection mimeTypes hs
  | clear => exact hL.selection ∅ hs
  | announceFormats mimeTypes => exact hs
  | completeTransfer serial mimeType data success => exact hs
  | onRemoteGone => exact hs
  | copyMulti task =>
      rcases htask : s.tasks[task]? with - | sources
      · simp only [step, htask]
        exact hs
      · simp only [step, htask]
        exact hL.selection (offered sources) hs
  | poll answer => exact hL.keeps answer _ hs

/-- It does so in every state of a run. -/
theorem inv_after (hL : L.Compares Inv) (es : List (WatchEvent A)) (n : ℕ) :
    Inv (after (step offered L) (start L) es n).monitor
      (after (step offered L) (start L) es n).previous
      (after (step offered L) (start L) es n).selection.mimeTypes := by
  unfold after
  generalize es.take n = l
  induction l using List.reverseRecOn with
  | nil => exact hL.start
  | append_singleton l e ih =>
      rw [List.foldl_append]
      exact inv_step hL ih e

/-- One poll. -/
theorem reports_iff (hL : L.Compares Inv)
    (hs : Inv s.monitor s.previous s.selection.mimeTypes) (answer : A) :
    s.Reports L answer ↔ s.SetApart L answer := by
  have hpoll : (s.pollWith L answer).2 =
      (s.sees L answer).bind (report s.previous s.provider.ourMimeTypes) :=
    hL.reports answer _ hs
  unfold Reports SetApart
  rw [hpoll]
  cases s.selection with
  | cleared => exact Iff.rfl
  | other mimeTypes =>
      refine imp_congr_right fun _ => ?_
      rw [Option.bind_eq_some_iff]
      constructor
      · rintro ⟨seen, hseen, hreport⟩
        obtain ⟨rfl, hnot⟩ := report_eq_some_iff.mp hreport
        exact ⟨hseen, hnot⟩
      · rintro ⟨hseen, hnot⟩
        exact ⟨mimeTypes, hseen, report_eq_some_iff.mpr ⟨rfl, hnot⟩⟩
  | ours mimeTypes =>
      show Option.bind _ _ = none ↔ _
      rw [Option.bind_eq_none_iff]
      exact forall₂_congr fun seen _ => report_eq_none_iff

theorem reports_iff_of_compares (hL : L.Compares Inv) (es : List (WatchEvent A)) :
    (∀ n answer, es[n]? = some (.poll answer) →
        (after (step offered L) (start L) es n).Reports L answer) ↔
      ∀ n answer, es[n]? = some (.poll answer) →
        (after (step offered L) (start L) es n).SetApart L answer :=
  forall₃_congr fun n answer _ => reports_iff hL (inv_after hL es n) answer

/-- **Every local copy is reported, and none of ours,** in exactly the runs in which the types
set each selection apart, with either loop and whatever types `copy_multi` adds. -/
theorem reports_iff_distinct_types (offered : List MimeSource → Finset Mime)
    (es : List (WatchEvent Bool)) (es' : List (WatchEvent MimeTypesAnswer)) :
    ((∀ n answer, es[n]? = some (.poll answer) →
        (after (step offered persistentLoop) (start persistentLoop) es n).Reports
          persistentLoop answer) ↔
      ∀ n answer, es[n]? = some (.poll answer) →
        (after (step offered persistentLoop) (start persistentLoop) es n).SetApart
          persistentLoop answer) ∧
    ((∀ n answer, es'[n]? = some (.poll answer) →
        (after (step offered ephemeralLoop) (start ephemeralLoop) es' n).Reports
          ephemeralLoop answer) ↔
      ∀ n answer, es'[n]? = some (.poll answer) →
        (after (step offered ephemeralLoop) (start ephemeralLoop) es' n).SetApart
          ephemeralLoop answer) :=
  ⟨reports_iff_of_compares persistentLoop_compares es,
    reports_iff_of_compares ephemeralLoop_compares es'⟩

/-- Two texts in a row, of which the second is not reported, and a text of our own that is, since
the remote has gone. -/
theorem looks_alike :
    (¬ ∀ n answer, ([.select {"text/plain"}, .poll true, .select {"text/plain"}, .poll true] :
          List (WatchEvent Bool))[n]? = some (.poll answer) →
        (after (step (fun sources => expectedTypes (sources.map MimeSource.mimeType).toFinset)
          persistentLoop) (start persistentLoop) [.select {"text/plain"}, .poll true,
          .select {"text/plain"}, .poll true] n).Reports persistentLoop answer) ∧
      ¬ ∀ n answer, ([.announceFormats ["text/plain"],
          .completeTransfer 1 "text/plain" ⟨1, [97]⟩ true, .copyMulti 0, .onRemoteGone,
          .poll .types] : List (WatchEvent MimeTypesAnswer))[n]? = some (.poll answer) →
        (after (step (fun sources => expectedTypes (sources.map MimeSource.mimeType).toFinset)
          ephemeralLoop) (start ephemeralLoop) [.announceFormats ["text/plain"],
          .completeTransfer 1 "text/plain" ⟨1, [97]⟩ true, .copyMulti 0, .onRemoteGone,
          .poll .types] n).Reports ephemeralLoop answer := by
  constructor
  · intro h
    exact absurd (h 3 true rfl) (by decide +kernel)
  · intro h
    exact absurd (h 4 .types rfl) (by decide +kernel)

end Watched

end LamcoRdp
