/-
LamcoRdp/Clipboard/RemoteCopies.lean

Whether what is published is of the latest remote copy (`clipboard/providers/wl_clipboard.rs`,
`clipboard/providers/data_control.rs`).

Each call of `announce_formats` is a remote copy, and every answer of the client is tagged with
the copy at which it was asked for.  Both providers collect answers in a map by MIME type and
publish from the map, in a task of its own.  Neither looks at the copy of an answer:

* the wl-clipboard provider drops the map at the next copy, but takes a late answer as one to
  the newer copy, and a task may publish after the next copy has been announced;
* the data-control provider never drops it, so a type that has once been given data is
  published with that data at every copy that has it.

`published_current_iff` says in which runs nothing old is published.
-/
import LamcoRdp.Clipboard.WlClipboard
import LamcoRdp.Lib.Publishing
import LamcoRdp.Lib.Runs

namespace LamcoRdp

open Publishing Runs

/-! ### wl-clipboard -/

/-- What happens to the wl-clipboard provider. -/
inductive WlTransferEvent
  | announceFormats (mimeTypes : List Mime)
  /-- `complete_transfer`, up to the task that it spawns -/
  | completeTransfer (serial : UInt32) (mimeType : Mime) (data : ClipboardBytes) (success : Bool)
  | onRemoteGone
  /-- a task calls `copy_multi` -/
  | copyMulti (task : ℕ)
  deriving DecidableEq, Repr

/-- The wl-clipboard provider with the serials it issued and what it publishes. -/
structure WlTransfers where
  provider : WlClipboardProvider
  /-- each serial with the copy whose `announce_formats` issued it -/
  issued : List (UInt32 × ℕ)
  publisher : Publisher (List MimeSource)

namespace WlTransfers

/-- A provider that has taken no copy, with its transfers. -/
def new : WlTransfers := ⟨WlClipboardProvider.new, [], init⟩

/-- One event.  An answer is to a serial that was issued, and of the copy that issued it. -/
def step (s : WlTransfers) : WlTransferEvent → Option WlTransfers
  | .announceFormats mimeTypes =>
      let (provider, transfers) := s.provider.announceFormats mimeTypes
      some
        { provider
          issued := s.issued ++ transfers.map fun t => (t.1, s.publisher.latest + 1)
          publisher := s.publisher.announce }
  | .completeTransfer serial mimeType data success =>
      if (serial, data.copy) ∈ s.issued then
        match s.provider.completeTransfer serial mimeType data success with
        | (provider, none) => some { s with provider }
        | (provider, some sources) =>
            some { s with provider, publisher := s.publisher.spawn sources }
      else none
  | .onRemoteGone => some { s with provider := s.provider.onRemoteGone }
  | .copyMulti task => (s.publisher.perform task).map fun publisher => { s with publisher }

/-- An answer with data is to the latest copy, and `copy_multi` is called before the next. -/
def Ok (s : WlTransfers) : WlTransferEvent → Prop
  | .completeTransfer _ _ data success =>
      success = true → data.bytes ≠ [] → data.copy = s.publisher.latest
  | .copyMulti task => ∀ t ∈ s.publisher.tasks[task]?, t.1 = s.publisher.latest
  | _ => True

instance (s : WlTransfers) (e : WlTransferEvent) : Decidable (s.Ok e) := by
  cases e <;> (unfold Ok; infer_instance)

/-- All the bytes are of one copy. -/
def Of (copy : ℕ) (sources : List MimeSource) : Prop := ∀ s ∈ sources, s.source.copy = copy

/-- What holds as long as the events are as they should. -/
structure Kept (s : WlTransfers) : Prop where
  current : Current Of s.publisher
  honest : Honest Of s.publisher
  nonempty : ∀ task ∈ s.publisher.tasks, task.2 ≠ []
  issued : ∀ x ∈ s.issued, x.2 ≤ s.publisher.latest
  /-- the map is of the latest copy, unless that one asked for nothing -/
  pending : (∀ entry ∈ s.provider.pendingData.entries, entry.2.copy = s.publisher.latest) ∨
    ∀ x ∈ s.issued, x.2 ≠ s.publisher.latest

theorem kept_new : Kept new where
  current := current_init
  honest := honest_init
  nonempty := fun _ h => absurd h List.not_mem_nil
  issued := fun _ h => absurd h List.not_mem_nil
  pending := Or.inl fun _ h => absurd h List.not_mem_nil

variable {s t : WlTransfers} {mimeTypes : List Mime} {serial : UInt32} {mimeType : Mime}
  {data : ClipboardBytes} {success : Bool} {task : ℕ} {e : WlTransferEvent}

/-- An answer with data: it was asked for, and is published with the answers so far. -/
theorem step_completeTransfer (hsuccess : success = true) (hdata : data.bytes ≠ [])
    (h : s.step (.completeTransfer serial mimeType data success) = some t) :
    (serial, data.copy) ∈ s.issued ∧ t.issued = s.issued ∧
      t.provider.pendingData = s.provider.pendingData.insert mimeType data ∧
      t.publisher = s.publisher.spawn (s.provider.sourcesWith mimeType data) := by
  obtain ⟨hissued, h⟩ := Option.ite_none_right_eq_some.mp h
  rw [WlClipboardProvider.completeTransfer_of hsuccess hdata] at h
  obtain rfl := Option.some.inj h
  exact ⟨hissued, rfl, rfl, rfl⟩

/-- One without changes nothing. -/
theorem step_completeTransfer_of_not (hnot : ¬(success = true ∧ data.bytes ≠ []))
    (h : s.step (.completeTransfer serial mimeType data success) = some t) : t = s := by
  obtain ⟨-, h⟩ := Option.ite_none_right_eq_some.mp h
  rw [WlClipboardProvider.completeTransfer_of_not hnot] at h
  exact (Option.some.inj h).symm

theorem step_copyMulti (h : s.step (.copyMulti task) = some t) :
    ∃ publisher, s.publisher.perform task = some publisher ∧ t = { s with publisher } := by
  obtain ⟨publisher, hperform, heq⟩ := Option.map_eq_some_iff.mp h
  exact ⟨publisher, hperform, heq.symm⟩

/-- A new copy: the map is dropped, or nothing is asked for. -/
theorem kept_announceFormats (hs : Kept s) (h : s.step (.announceFormats mimeTypes) = some t) :
    Kept t := by
  obtain rfl := Option.some.inj h
  have hlate : ∀ x ∈ s.issued, x.2 ≤ s.publisher.latest + 1 :=
    fun x hx => (hs.issued x hx).trans (Nat.le_succ _)
  refine
    { current := hs.current, honest := hs.honest, nonempty := hs.nonempty
      issued := ?_, pending := ?_ }
  · intro x hx
    rcases List.mem_append.mp hx with hold | hnew
    · exact hlate x hold
    · obtain ⟨transfer, -, rfl⟩ := List.mem_map.mp hnew
      exact Nat.le_refl _
  · by_cases hempty : mimeTypes = []
    · -- the call returns at once, and no serial is of this copy
      subst hempty
      refine Or.inr fun x hx => ?_
      have hold : x ∈ s.issued := (List.append_nil s.issued) ▸ hx
      exact Nat.ne_of_lt (Nat.lt_succ_of_le (hs.issued x hold))
    · -- the map is dropped
      refine Or.inl fun entry hentry => ?_
      have hdropped := (WlClipboardProvider.announceFormats_of_ne_nil (p := s.provider) hempty).1
      have hnone : entry ∈ (∅ : AList fun _ : Mime => ClipboardBytes).entries := hdropped ▸ hentry
      exact absurd hnone List.not_mem_nil

/-- An answer to the latest copy. -/
theorem kept_completeTransfer (hs : Kept s)
    (hok : s.Ok (.completeTransfer serial mimeType data success))
    (h : s.step (.completeTransfer serial mimeType data success) = some t) : Kept t := by
  by_cases hdo : success = true ∧ data.bytes ≠ []
  · obtain ⟨hasked, hissued, hmap, hpublisher⟩ := step_completeTransfer hdo.1 hdo.2 h
    have hcopy : data.copy = s.publisher.latest := hok hdo.1 hdo.2
    have hlatest : t.publisher.latest = s.publisher.latest := by rw [hpublisher]; rfl
    -- the latest copy has asked for something
    have hpending := hs.pending.resolve_right fun hnone => hnone _ hasked hcopy
    have hall : ∀ entry ∈ (s.provider.pendingData.insert mimeType data).entries,
        entry.2.copy = s.publisher.latest := by
      intro entry hentry
      rcases ClipboardBytes.of_mem_insert hentry with rfl | hold
      · exact hcopy
      · exact hpending entry hold
    have hof : Of s.publisher.latest (s.provider.sourcesWith mimeType data) := by
      intro source hsource
      obtain ⟨entry, hentry, rfl⟩ := List.mem_map.mp hsource
      exact hall entry hentry
    refine
      { current := ?_, honest := ?_, nonempty := ?_, issued := ?_, pending := ?_ }
    · rw [hpublisher]
      exact hs.current
    · rw [hpublisher]
      exact hs.honest.spawn hof
    · rw [hpublisher]
      intro task htask
      rcases List.mem_append.mp htask with hold | hnew
      · exact hs.nonempty task hold
      · rw [List.mem_singleton.mp hnew]
        exact List.ne_nil_of_mem (s.provider.mem_sourcesWith mimeType data)
    · rw [hissued, hlatest]
      exact hs.issued
    · rw [hmap, hlatest]
      exact Or.inl hall
  · rw [step_completeTransfer_of_not hdo h]
    exact hs

/-- `copy_multi` before the next copy. -/
theorem kept_copyMulti (hs : Kept s) (hok : s.Ok (.copyMulti task))
    (h : s.step (.copyMulti task) = some t) : Kept t := by
  obtain ⟨publisher, hperform, rfl⟩ := step_copyMulti h
  obtain ⟨done, hi, rfl⟩ := Publisher.perform_inv hperform
  exact
    { current := hs.current.perform hs.honest hi (hok done hi) hperform
      honest := hs.honest.perform hperform
      nonempty := fun task' hmem => hs.nonempty task' (List.mem_of_mem_eraseIdx hmem)
      issued := hs.issued
      pending := hs.pending }

theorem kept_step (hs : Kept s) (h : Guarded (StepOf step) Ok s e t) : Kept t := by
  obtain ⟨h, hok⟩ := h
  cases e with
  | announceFormats mimeTypes => exact kept_announceFormats hs h
  | completeTransfer serial mimeType data success => exact kept_completeTransfer hs hok h
  | onRemoteGone =>
      obtain rfl := Option.some.inj h
      exact { hs with pending := Or.inl fun _ hentry => absurd hentry List.not_mem_nil }
  | copyMulti task => exact kept_copyMulti hs hok h

/-- Any other event does damage. -/
theorem spoilt_of_not_ok (hs : Kept s) (h : s.step e = some t) (hnot : ¬ s.Ok e) :
    Spoilt Of t.publisher := by
  cases e with
  | announceFormats mimeTypes => exact absurd trivial hnot
  | completeTransfer serial mimeType data success =>
      unfold Ok at hnot
      push Not at hnot
      obtain ⟨hsuccess, hdata, hcopy⟩ := hnot
      obtain ⟨hasked, -, -, hpublisher⟩ := step_completeTransfer hsuccess hdata h
      have hold : data.copy < s.publisher.latest :=
        lt_of_le_of_ne (hs.issued _ hasked) hcopy
      rw [hpublisher]
      -- the answer belongs to an older copy than any to come
      apply spoilt_spawn
      intro m hm hof
      exact (Nat.ne_of_lt (hold.trans_le hm)) (hof _ (s.provider.mem_sourcesWith mimeType data))
  | onRemoteGone => exact absurd trivial hnot
  | copyMulti task =>
      unfold Ok at hnot
      push Not at hnot
      obtain ⟨done, hi, hlate⟩ := hnot
      obtain ⟨publisher, hperform, rfl⟩ := step_copyMulti h
      have hmem : done ∈ s.publisher.tasks := List.mem_of_getElem? hi
      -- what it was handed over belongs to one copy alone
      obtain ⟨source, hsource⟩ := List.exists_mem_of_ne_nil _ (hs.nonempty done hmem)
      refine spoilt_perform hi hperform fun hof => hlate ?_
      exact (hs.honest done hmem source hsource).symm.trans (hof source hsource)

/-- And damage lasts. -/
theorem spoilt_step (hs : Spoilt Of s.publisher) (h : s.step e = some t) :
    Spoilt Of t.publisher := by
  cases e with
  | announceFormats mimeTypes =>
      obtain rfl := Option.some.inj h
      exact hs.announce
  | completeTransfer serial mimeType data success =>
      by_cases hdo : success = true ∧ data.bytes ≠ []
      · obtain ⟨-, -, -, hpublisher⟩ := step_completeTransfer hdo.1 hdo.2 h
        rw [hpublisher]
        exact hs.spawn _
      · rw [step_completeTransfer_of_not hdo h]
        exact hs
  | onRemoteGone =>
      obtain rfl := Option.some.inj h
      exact hs
  | copyMulti task =>
      obtain ⟨publisher, hperform, rfl⟩ := step_copyMulti h
      exact hs.perform hperform

theorem kept_of_run {es : List WlTransferEvent}
    (h : Run (Guarded (StepOf step) Ok) new es s) : Kept s :=
  h.invariant kept_new fun hs hst => kept_step hs hst

end WlTransfers

/-! ### Data-control -/

/-- `ClipboardData`, as it is given to `set_clipboard`. -/
structure ClipboardData where
  mimeTypes : List Mime
  data : AList fun _ : Mime => ClipboardBytes

/-- `DataControlClipboardProvider`: the data of our own source, by MIME type. -/
structure DataControlClipboardProvider where
  sourceData : AList fun _ : Mime => ClipboardBytes

namespace DataControlClipboardProvider

/-- `new`. -/
def new : DataControlClipboardProvider := ⟨∅⟩

/-- What `announce_formats` hands to `set_clipboard`: the types, with the data that some of them
have. -/
def announceFormats (p : DataControlClipboardProvider) (mimeTypes : List Mime) :
    ClipboardData where
  mimeTypes
  data := (mimeTypes.filterMap fun mime =>
    (p.sourceData.lookup mime).map fun data => (⟨mime, data⟩ : Sigma fun _ => _)).toAList

/-- What `on_remote_gone` hands to `set_clipboard`. -/
def onRemoteGone : ClipboardData := ⟨[], ∅⟩

/-- `provide_data`, apart from the update of a selection that is published already. -/
def provideData (p : DataControlClipboardProvider) (mimeType : Mime) (data : ClipboardBytes) :
    DataControlClipboardProvider :=
  ⟨p.sourceData.insert mimeType data⟩

variable {p : DataControlClipboardProvider} {mimeTypes : List Mime} {mime : Mime}
  {data : ClipboardBytes}

/-- A type is announced with the data it has. -/
theorem lookup_announceFormats (p : DataControlClipboardProvider) (h : mime ∈ mimeTypes) :
    (p.announceFormats mimeTypes).data.lookup mime = p.sourceData.lookup mime := by
  show AList.lookup mime (List.toAList _) = _
  rw [AList.lookup_to_alist]
  induction mimeTypes with
  | nil => cases h
  | cons first mimeTypes ih =>
      rw [List.filterMap_cons]
      by_cases hmime : first = mime
      · subst hmime
        cases hfirst : p.sourceData.lookup first with
        | none =>
            show List.dlookup first (mimeTypes.filterMap _) = none
            by_cases hagain : first ∈ mimeTypes
            · exact (ih hagain).trans hfirst
            · refine List.dlookup_eq_none.mpr fun hkey => ?_
              obtain ⟨entry, hentry, heq⟩ := List.mem_map.mp hkey
              obtain ⟨other, hother, hdata⟩ := List.mem_filterMap.mp hentry
              obtain ⟨bytes, -, rfl⟩ := Option.map_eq_some_iff.mp hdata
              exact hagain (heq ▸ hother)
        | some bytes => exact List.dlookup_cons_eq _ _ _
      · have hrest := ih ((List.mem_cons.mp h).resolve_left fun heq => hmime heq.symm)
        cases p.sourceData.lookup first with
        | none => exact hrest
        | some bytes => exact (List.dlookup_cons_ne _ _ fun heq => hmime heq.symm).trans hrest

/-- If none has data, there is none. -/
theorem announceFormats_entries (h : ∀ mime ∈ mimeTypes, mime ∉ p.sourceData) :
    (p.announceFormats mimeTypes).data.entries = [] := by
  have hnone : (mimeTypes.filterMap fun mime =>
      (p.sourceData.lookup mime).map fun data => (⟨mime, data⟩ : Sigma fun _ => _)) = [] := by
    refine List.filterMap_eq_nil_iff.mpr fun mime hmime => ?_
    rw [AList.lookup_eq_none.mpr (h mime hmime)]
    rfl
  unfold announceFormats
  rw [hnone]
  rfl

end DataControlClipboardProvider

/-- What happens to the data-control provider. -/
inductive DataControlEvent
  /-- `announce_formats`, up to the task that it spawns -/
  | announceFormats (mimeTypes : List Mime)
  | provideData (mimeType : Mime) (data : ClipboardBytes)
  /-- `on_remote_gone`, up to the task that it spawns -/
  | onRemoteGone
  /-- a task calls `set_clipboard` -/
  | setClipboard (task : ℕ)
  deriving DecidableEq, Repr

/-- The data-control provider with what it publishes. -/
structure DataControlTransfers where
  provider : DataControlClipboardProvider
  publisher : Publisher ClipboardData

namespace DataControlTransfers

/-- A provider that offers nothing, with its transfers. -/
def new : DataControlTransfers := ⟨DataControlClipboardProvider.new, init⟩

/-- One event.  Data is of a copy that has been announced. -/
def step (s : DataControlTransfers) : DataControlEvent → Option DataControlTransfers
  | .announceFormats mimeTypes =>
      some
        { s with publisher := s.publisher.announce.spawn (s.provider.announceFormats mimeTypes) }
  | .provideData mimeType data =>
      if 0 < data.copy ∧ data.copy ≤ s.publisher.latest then
        some { s with provider := s.provider.provideData mimeType data }
      else none
  | .onRemoteGone =>
      some { s with publisher := s.publisher.spawn DataControlClipboardProvider.onRemoteGone }
  | .setClipboard task => (s.publisher.perform task).map fun publisher => { s with publisher }

/-- No type that is announced has been given data before. -/
def Ok (s : DataControlTransfers) : DataControlEvent → Prop
  | .announceFormats mimeTypes => ∀ mime ∈ mimeTypes, mime ∉ s.provider.sourceData
  | _ => True

instance (s : DataControlTransfers) (e : DataControlEvent) : Decidable (s.Ok e) := by
  cases e <;> (unfold Ok; infer_instance)

/-- All the bytes are of one copy. -/
def Of (copy : ℕ) (d : ClipboardData) : Prop := ∀ entry ∈ d.data.entries, entry.2.copy = copy

/-- What holds as long as the events are as they should. -/
structure Kept (s : DataControlTransfers) : Prop where
  current : Current Of s.publisher
  bare : ∀ task ∈ s.publisher.tasks, task.2.data.entries = []
  source : ∀ entry ∈ s.provider.sourceData.entries, entry.2.copy ≤ s.publisher.latest

theorem kept_new : Kept new where
  current := current_init
  bare := fun _ h => absurd h List.not_mem_nil
  source := fun _ h => absurd h List.not_mem_nil

variable {s t : DataControlTransfers} {mimeTypes : List Mime} {mimeType : Mime}
  {data : ClipboardBytes} {task : ℕ} {e : DataControlEvent}

theorem step_provideData (h : s.step (.provideData mimeType data) = some t) :
    data.copy ≤ s.publisher.latest ∧
      t = { s with provider := s.provider.provideData mimeType data } := by
  obtain ⟨hcopy, h⟩ := Option.ite_none_right_eq_some.mp h
  exact ⟨hcopy.2, (Option.some.inj h).symm⟩

theorem step_setClipboard (h : s.step (.setClipboard task) = some t) :
    ∃ publisher, s.publisher.perform task = some publisher ∧ t = { s with publisher } := by
  obtain ⟨publisher, hperform, heq⟩ := Option.map_eq_some_iff.mp h
  exact ⟨publisher, hperform, heq.symm⟩

/-- One task more, without data. -/
theorem bare_spawn {p : Publisher ClipboardData} {d : ClipboardData}
    (hp : ∀ task ∈ p.tasks, task.2.data.entries = []) (hd : d.data.entries = []) :
    ∀ task ∈ (p.spawn d).tasks, task.2.data.entries = [] := by
  intro task htask
  rcases List.mem_append.mp htask with hold | hnew
  · exact hp task hold
  · rw [List.mem_singleton.mp hnew]
    exact hd

theorem kept_step (hs : Kept s) (h : Guarded (StepOf step) Ok s e t) : Kept t := by
  obtain ⟨h, hok⟩ := h
  cases e with
  | announceFormats mimeTypes =>
      -- the task that is spawned publishes nothing until it is told to
      obtain rfl := Option.some.inj h
      exact
        { current := hs.current
          bare := bare_spawn hs.bare (DataControlClipboardProvider.announceFormats_entries hok)
          source := fun entry hentry => (hs.source entry hentry).trans (Nat.le_succ _) }
  | provideData mimeType data =>
      obtain ⟨hcopy, rfl⟩ := step_provideData h
      refine { current := hs.current, bare := hs.bare, source := fun entry hentry => ?_ }
      rcases ClipboardBytes.of_mem_insert hentry with rfl | hold
      · exact hcopy
      · exact hs.source entry hold
  | onRemoteGone =>
      obtain rfl := Option.some.inj h
      exact { current := hs.current, bare := bare_spawn hs.bare rfl, source := hs.source }
  | setClipboard task =>
      obtain ⟨publisher, hperform, rfl⟩ := step_setClipboard h
      -- a publication is current only where its task has no copy of its own to show
      obtain ⟨done, hi, rfl⟩ := Publisher.perform_inv hperform
      have hnone : done.2.data.entries = [] := hs.bare done (List.mem_of_getElem? hi)
      have hof : Of s.publisher.latest done.2 := by
        intro entry hentry
        rw [hnone] at hentry
        cases hentry
      exact
        { current := (current_perform_iff hi hperform).mpr ⟨hs.current, hof⟩
          bare := fun task' hmem => hs.bare task' (List.mem_of_mem_eraseIdx hmem)
          source := hs.source }

/-- A type that has data already is announced with it. -/
theorem spoilt_of_not_ok (hs : Kept s) (h : s.step e = some t) (hnot : ¬ s.Ok e) :
    Spoilt Of t.publisher := by
  cases e with
  | announceFormats mimeTypes =>
      unfold Ok at hnot
      push Not at hnot
      obtain ⟨mime, hmime, hmem⟩ := hnot
      obtain ⟨data, hdata⟩ := Option.isSome_iff_exists.mp (AList.lookup_isSome.mpr hmem)
      have hpublished := (s.provider.lookup_announceFormats hmime).trans hdata
      have hold : data.copy ≤ s.publisher.latest := hs.source _ (AList.mem_lookup_iff.mp hdata)
      obtain rfl := Option.some.inj h
      -- it was given at an earlier copy, since this one is new
      apply spoilt_spawn
      intro m hm hof
      replace hm : s.publisher.latest + 1 ≤ m := hm
      exact (Nat.ne_of_lt (hold.trans_lt hm)) (hof _ (AList.mem_lookup_iff.mp hpublished))
  | provideData mimeType data => exact absurd trivial hnot
  | onRemoteGone => exact absurd trivial hnot
  | setClipboard task => exact absurd trivial hnot

theorem spoilt_step (hs : Spoilt Of s.publisher) (h : s.step e = some t) :
    Spoilt Of t.publisher := by
  cases e with
  | announceFormats mimeTypes =>
      obtain rfl := Option.some.inj h
      exact hs.announce.spawn _
  | provideData mimeType data =>
      obtain ⟨-, rfl⟩ := step_provideData h
      exact hs
  | onRemoteGone =>
      obtain rfl := Option.some.inj h
      exact hs.spawn _
  | setClipboard task =>
      obtain ⟨publisher, hperform, rfl⟩ := step_setClipboard h
      exact hs.perform hperform

theorem kept_of_run {es : List DataControlEvent}
    (h : Run (Guarded (StepOf step) Ok) new es s) : Kept s :=
  h.invariant kept_new fun hs hst => kept_step hs hst

end DataControlTransfers

/-! ### Both -/

/-- **What the providers publish is of the latest copy** if every event is as it should be, and
once all tasks have published, only then. -/
theorem published_current_iff {es : List WlTransferEvent} {s : WlTransfers}
    {es' : List DataControlEvent} {s' : DataControlTransfers}
    (h : Run (StepOf WlTransfers.step) WlTransfers.new es s)
    (h' : Run (StepOf DataControlTransfers.step) DataControlTransfers.new es' s') :
    ((Run (Guarded (StepOf WlTransfers.step) WlTransfers.Ok) WlTransfers.new es s →
        Current WlTransfers.Of s.publisher) ∧
      (s.publisher.tasks = [] → Current WlTransfers.Of s.publisher →
        Run (Guarded (StepOf WlTransfers.step) WlTransfers.Ok) WlTransfers.new es s)) ∧
    (Run (Guarded (StepOf DataControlTransfers.step) DataControlTransfers.Ok)
          DataControlTransfers.new es' s' →
        Current DataControlTransfers.Of s'.publisher) ∧
      (s'.publisher.tasks = [] → Current DataControlTransfers.Of s'.publisher →
        Run (Guarded (StepOf DataControlTransfers.step) DataControlTransfers.Ok)
          DataControlTransfers.new es' s') := by
  refine ⟨⟨fun hok => (WlTransfers.kept_of_run hok).current, fun hdone hcur => ?_⟩,
    fun hok => (DataControlTransfers.kept_of_run hok).current, fun hdone hcur => ?_⟩
  · -- a step that is not allowed spoils a task, and the task stays spoilt until it publishes
    have hor : Run (Guarded (StepOf WlTransfers.step) WlTransfers.Ok) WlTransfers.new es s ∨
        Spoilt WlTransfers.Of s.publisher := by
      refine h.guarded_or_damaged (fun t => Spoilt WlTransfers.Of t.publisher)
        (fun hg hst hnot => ?_) fun hs hst => ?_
      · exact WlTransfers.spoilt_of_not_ok (WlTransfers.kept_of_run hg) hst hnot
      · exact WlTransfers.spoilt_step hs hst
    exact hor.resolve_right fun hspoilt => hspoilt.not_current hdone hcur
  · -- the other provider, likewise
    have hor : Run (Guarded (StepOf DataControlTransfers.step) DataControlTransfers.Ok)
          DataControlTransfers.new es' s' ∨
        Spoilt DataControlTransfers.Of s'.publisher := by
      refine h'.guarded_or_damaged (fun t => Spoilt DataControlTransfers.Of t.publisher)
        (fun hg hst hnot => ?_) fun hs hst => ?_
      · exact DataControlTransfers.spoilt_of_not_ok (DataControlTransfers.kept_of_run hg) hst hnot
      · exact DataControlTransfers.spoilt_step hs hst
    exact hor.resolve_right fun hspoilt => hspoilt.not_current hdone hcur

/-- One copy and its text, with each provider. -/
theorem published_current_one_copy :
    ∃ (s : WlTransfers) (s' : DataControlTransfers),
      Current WlTransfers.Of s.publisher ∧ Current DataControlTransfers.Of s'.publisher ∧
      s.publisher.published = [(1, [⟨"text/plain", ⟨1, [97]⟩⟩])] ∧
      s'.publisher.published.map Prod.fst = [1] := by
  have hend : (List.foldlM (guardStep WlTransfers.step WlTransfers.Ok) WlTransfers.new
      [.announceFormats ["text/plain"], .completeTransfer 1 "text/plain" ⟨1, [97]⟩ true,
        .copyMulti 0]).map (fun s => s.publisher.published) =
        some [(1, [⟨"text/plain", ⟨1, [97]⟩⟩])] := by decide +kernel
  have hend' : (List.foldlM (guardStep DataControlTransfers.step DataControlTransfers.Ok)
      DataControlTransfers.new [.announceFormats ["text/plain"],
        .provideData "text/plain" ⟨1, [97]⟩, .setClipboard 0]).map
      (fun s => s.publisher.published.map Prod.fst) = some [1] := by decide +kernel
  obtain ⟨s, h, hs⟩ := Run.exists_guarded_of_foldlM _ hend
  obtain ⟨s', h', hs'⟩ := Run.exists_guarded_of_foldlM _ hend'
  have hboth := published_current_iff h.unguard h'.unguard
  exact ⟨s, s', hboth.1.1 h, hboth.2.1 h', hs, hs'⟩

/-- Late text of the first copy as that of the second, and text that is never dropped. -/
theorem published_old_copy :
    (∃ s, Run (StepOf WlTransfers.step) WlTransfers.new
        [.announceFormats ["text/plain"], .announceFormats ["text/plain"],
          .completeTransfer 1 "text/plain" ⟨1, [112, 119]⟩ true, .copyMulti 0] s ∧
        ¬ Current WlTransfers.Of s.publisher) ∧
      ∃ s, Run (StepOf DataControlTransfers.step) DataControlTransfers.new
        [.announceFormats ["text/plain"], .provideData "text/plain" ⟨1, [112, 119]⟩,
          .announceFormats ["text/plain"], .setClipboard 1] s ∧
        ¬ Current DataControlTransfers.Of s.publisher := by
  constructor
  · -- the data of the first copy is completed after the second was announced
    have hend : (List.foldlM WlTransfers.step WlTransfers.new
        [.announceFormats ["text/plain"], .announceFormats ["text/plain"],
          .completeTransfer 1 "text/plain" ⟨1, [112, 119]⟩ true, .copyMulti 0]).map
        (fun s => s.publisher.published) =
          some [(2, [⟨"text/plain", ⟨1, [112, 119]⟩⟩])] := by decide +kernel
    obtain ⟨s, h, hs⟩ := Run.exists_of_foldlM _ hend
    refine ⟨s, h, fun hcur => ?_⟩
    unfold Current at hcur
    rw [hs] at hcur
    have hof := hcur _ (List.mem_singleton_self _) _ (List.mem_singleton_self _)
    exact absurd hof (by decide)
  · -- the source keeps the data of the first copy
    have hend : (List.foldlM DataControlTransfers.step DataControlTransfers.new
        [.announceFormats ["text/plain"], .provideData "text/plain" ⟨1, [112, 119]⟩,
          .announceFormats ["text/plain"], .setClipboard 1]).map
        (fun s => s.publisher.published.map fun x => (x.1, x.2.data.entries)) =
          some [(2, [⟨"text/plain", ⟨1, [112, 119]⟩⟩])] := by decide +kernel
    obtain ⟨s, h, hs⟩ := Run.exists_of_foldlM _ hend
    refine ⟨s, h, fun hcur => ?_⟩
    obtain ⟨x, hx, heq⟩ := List.map_eq_singleton_iff.mp hs
    obtain ⟨hlatest, hentries⟩ := Prod.mk.inj heq
    have hof := hcur x (hx ▸ List.mem_singleton_self _) _
      (hentries ▸ List.mem_singleton_self _)
    rw [hlatest] at hof
    exact absurd hof (by decide)

end LamcoRdp
