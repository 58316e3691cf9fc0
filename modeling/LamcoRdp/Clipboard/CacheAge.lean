/-
LamcoRdp/Clipboard/CacheAge.lean

How old the cached data is.

`transfer_data_cache` is cleared when a format list arrives, and filled when an answer
arrives.  The answer may be to a paste that was sent before the list.  Beside the state of
the orchestrator stands the account: how many format lists have been handled, and at which
of them each paste under way was sent and each cached entry was asked for.  Answers come in
the order of the pastes, so the account of the pastes is a queue as well.

As long as no answer is cached whose paste is older than the latest format list, whatever
is served from the cache is of the latest copy (`served_latest`).
-/
import LamcoRdp.Clipboard.Orchestrator

namespace LamcoRdp

open Runs

/-- The event is an answer of the client. -/
def ClipboardEvent.isAnswer : ClipboardEvent → Bool
  | .rdpDataResponse .. => true
  | .rdpDataError .. => true
  | .rdpRemoteFileList .. => true
  | _ => false

/-- A format list of the client, which opens a new copy. -/
def ClipboardEvent.isFormatList : ClipboardEvent → Bool
  | .rdpFormatList .. => true
  | _ => false

/-- The orchestrator with the account of its format lists. -/
structure AgedSystem where
  system : ClipboardSystem
  /-- the format lists handled so far -/
  lists : ℕ
  /-- for each paste under way, the format lists handled when it was sent -/
  tags : List ℕ
  /-- the same for the paste that a cached entry is the answer of -/
  cacheTags : Mime → ℕ
  /-- what was served from the cache: the format lists handled then, and the tag -/
  served : List (ℕ × ℕ)

namespace AgedSystem

variable (core : ClipboardCore) (config : ClipboardConfig)

/-- Nothing has been copied. -/
def init : AgedSystem where
  system := .init
  lists := 0
  tags := []
  cacheTags _ := 0
  served := []

/-- The MIME types under which files are kept that the backend has ready. -/
def keptFiles (env : Surroundings) (descriptors : List TransferFileDescriptor) : List Mime :=
  match config.backend.prepareFiles env.available descriptors with
  | .ready _ => [gnomeFilesMime, uriListMime]
  | .pending => []
  | .failed => []

/-- The MIME types under which an answer is kept that is taken for the request's. -/
def keptData (env : Surroundings) (request : PendingRequest) (data : Bytes) : List Mime :=
  match filesOf core request.mime data with
  | some files => keptFiles config env (transferDescriptors core files 1)
  | none => if (portalData core request.mime data).isSome then [request.mime] else []

/-- The MIME types under which an event is kept in the cache. -/
def kept (env : Surroundings) (s : ClipboardSystem) : ClipboardEvent → List Mime
  | .rdpDataResponse _ data =>
      match s.pending with
      | [] => []
      | request :: _ =>
          if env.checkContent = true ∧ request.serial ≠ eagerFetchSerial ∧ env.completes = true then
            keptData core config env request data
          else []
  | .rdpRemoteFileList _ files clipDataId =>
      if config.requiresUpfrontData = false ∨ files = [] then []
      else keptFiles config env (transferDescriptors core files (clipDataId.getD 1))
  | _ => []

/-- The entry that a request is served from. -/
def servedTag (t : AgedSystem) : ClipboardEvent → List (ℕ × ℕ)
  | .portalDataRequest mime =>
      if (t.system.cache mime).isSome ∧ t.system.pending ≠ [] then [(t.lists, t.cacheTags mime)]
      else []
  | _ => []

/-- The account of an event that the loop has handled. -/
def handled (t : AgedSystem) (env : Surroundings) (event : ClipboardEvent)
    (system : ClipboardSystem) : AgedSystem :=
  let lists := if event.isFormatList then t.lists + 1 else t.lists
  let sent := system.outstanding.length - t.system.outstanding.length
  { system, lists
    tags := (if event.isAnswer then t.tags.tail else t.tags) ++ List.replicate sent lists
    cacheTags := fun mime =>
      if mime ∈ kept core config env t.system event then t.tags.headD 0 else t.cacheTags mime
    served := t.served ++ t.servedTag event }

/-- A step, with the account of copies and of what is served kept beside it. -/
def step (t : AgedSystem) (e : ClipboardStep) : Option AgedSystem :=
  (t.system.step core config e).map fun system =>
    match e, t.system.events with
    | .handle env, event :: _ => t.handled core config env event system
    | _, _ => { t with system }

/-- An answer that is cached is to a paste sent since the latest format list. -/
def Timely (t : AgedSystem) : ClipboardStep → Prop
  | .handle env =>
      ∀ event ∈ t.system.events.head?, kept core config env t.system event ≠ [] →
        t.tags.headD 0 = t.lists
  | _ => True

/-- What is cached, and what was served, is of the latest copy. -/
structure Latest (t : AgedSystem) : Prop where
  cached : ∀ {mime}, (t.system.cache mime).isSome = true → t.cacheTags mime = t.lists
  served : ∀ p ∈ t.served, p.2 = p.1

variable {core config}

/-! ### What is cached -/

/-- Files go into the cache under both of their MIME types. -/
theorem cacheFiles_isSome (s : ClipboardSystem) (issuedFor : Mime) (paths : List String)
    (mime : Mime) :
    ((s.cacheFiles core issuedFor paths).cache mime).isSome = true ↔
      mime ∈ [gnomeFilesMime, uriListMime] ∨ (s.cache mime).isSome = true := by
  simp only [ClipboardSystem.cacheFiles, ClipboardSystem.cacheInsert, List.mem_cons,
    List.not_mem_nil, or_false]
  by_cases hu : mime = uriListMime
  · subst hu
    exact iff_of_true (by rw [Function.update_self]; rfl) (.inl (.inr rfl))
  rw [Function.update_of_ne hu]
  by_cases hg : mime = gnomeFilesMime
  · subst hg
    exact iff_of_true (by rw [Function.update_self]; rfl) (.inl (.inl rfl))
  · rw [Function.update_of_ne hg]
    exact (or_iff_right fun h => h.elim hg hu).symm

theorem deliverFiles_isSome (env : Surroundings) (s : ClipboardSystem) (request : PendingRequest)
    (issuedFor : Mime) (files : List RemoteFile) (mime : Mime) :
    ((s.deliverFiles core config env request issuedFor files).cache mime).isSome = true ↔
      (env.completes = true ∧
        mime ∈ keptFiles config env (transferDescriptors core files 1)) ∨
      (s.cache mime).isSome = true := by
  unfold ClipboardSystem.deliverFiles keptFiles
  cases config.backend.prepareFiles env.available (transferDescriptors core files 1) with
  | pending | failed => exact (or_iff_right fun h => List.not_mem_nil h.2).symm
  | ready paths =>
      simp only [ClipboardSystem.filesReady]
      by_cases hcompletes : env.completes = true
      · rw [if_pos hcompletes, cacheFiles_isSome, and_iff_right hcompletes]
        rfl
      · rw [if_neg hcompletes]
        exact (or_iff_right fun h => hcompletes h.1).symm

theorem deliverData_isSome (env : Surroundings) (s : ClipboardSystem) (request : PendingRequest)
    (issuedFor : Mime) (data : Bytes) (mime : Mime) :
    ((s.deliverData core env request issuedFor data).cache mime).isSome = true ↔
      (env.completes = true ∧
        mime ∈ if (portalData core request.mime data).isSome then [request.mime] else []) ∨
      (s.cache mime).isSome = true := by
  unfold ClipboardSystem.deliverData
  cases portalData core request.mime data with
  | none => exact (or_iff_right fun h => List.not_mem_nil h.2).symm
  | some bytes =>
      simp only [Option.isSome_some, if_true, List.mem_singleton]
      by_cases hcompletes : env.completes = true
      · rw [if_pos hcompletes, and_iff_right hcompletes]
        simp only [ClipboardSystem.cacheInsert]
        by_cases hm : mime = request.mime
        · subst hm
          exact iff_of_true (by rw [Function.update_self]; rfl) (.inl rfl)
        · rw [Function.update_of_ne hm]
          exact (or_iff_right hm).symm
      · rw [if_neg hcompletes]
        exact (or_iff_right fun h => hcompletes h.1).symm

/-- An answer leaves in the cache what is kept of it, and what was there. -/
theorem handleRdpDataResponse_isSome (env : Surroundings) (s : ClipboardSystem) (paste : Paste)
    (data : Bytes) (mime : Mime) :
    ((s.handleRdpDataResponse core config env paste data).cache mime).isSome = true ↔
      mime ∈ kept core config env s (.rdpDataResponse paste data) ∨
      (s.cache mime).isSome = true := by
  unfold ClipboardSystem.handleRdpDataResponse kept
  dsimp only
  cases s.pending with
  | nil =>
      refine Iff.trans ?_ (or_iff_right List.not_mem_nil).symm
      split <;> rfl
  | cons request rest =>
      dsimp only
      by_cases hcheck : env.checkContent = false
      · -- the loop detector takes the answer for an echo
        rw [if_pos hcheck, if_neg fun h => Bool.false_ne_true (hcheck.symm.trans h.1)]
        exact (or_iff_right List.not_mem_nil).symm
      rw [if_neg hcheck]
      by_cases hserial : request.serial = eagerFetchSerial
      · -- the provider keeps the text of an eager fetch itself
        rw [if_pos hserial, if_neg fun h => h.2.1 hserial]
        exact (or_iff_right List.not_mem_nil).symm
      rw [if_neg hserial]
      -- what is kept is kept if the provider takes it
      have hkept : (mime ∈ if env.checkContent = true ∧ request.serial ≠ eagerFetchSerial ∧
            env.completes = true then keptData core config env request data else []) ↔
          env.completes = true ∧ mime ∈ keptData core config env request data := by
        by_cases hcompletes : env.completes = true
        · rw [if_pos ⟨eq_true_of_ne_false hcheck, hserial, hcompletes⟩,
            and_iff_right hcompletes]
        · rw [if_neg fun h => hcompletes h.2.2]
          exact iff_of_false List.not_mem_nil fun h => hcompletes h.1
      rw [hkept, keptData]
      cases filesOf core request.mime data with
      | none => exact deliverData_isSome env _ request paste.mime data mime
      | some files => exact deliverFiles_isSome env _ request paste.mime files mime

theorem handleRdpRemoteFileList_isSome (env : Surroundings) (s : ClipboardSystem) (paste : Paste)
    (files : List RemoteFile) (clipDataId : Option ℕ) (mime : Mime) :
    ((s.handleRdpRemoteFileList core config env paste files clipDataId).cache mime).isSome = true ↔
      mime ∈ kept core config env s (.rdpRemoteFileList paste files clipDataId) ∨
      (s.cache mime).isSome = true := by
  unfold ClipboardSystem.handleRdpRemoteFileList kept
  dsimp only
  by_cases hskip : config.requiresUpfrontData = false ∨ files = []
  · rw [if_pos hskip, if_pos hskip]
    exact (or_iff_right List.not_mem_nil).symm
  · rw [if_neg hskip, if_neg hskip, keptFiles]
    cases config.backend.prepareFiles env.available
        (transferDescriptors core files (clipDataId.getD 1)) with
    | ready paths => exact cacheFiles_isSome s paste.mime paths mime
    | pending | failed => exact (or_iff_right List.not_mem_nil).symm

/-- What is cached after an event that is no format list is kept of it, or was cached
before. -/
theorem cache_handleEvent {env : Surroundings} {s : ClipboardSystem} {event : ClipboardEvent}
    {mime : Mime} (hlist : event.isFormatList = false)
    (h : ((s.handleEvent core config env event).cache mime).isSome = true) :
    mime ∈ kept core config env s event ∨ (s.cache mime).isSome = true := by
  cases event with
  | rdpReady => exact .inr h
  | rdpDisconnect =>
      simp only [ClipboardSystem.handleEvent, ClipboardSystem.handleRdpDisconnect] at h
      split at h
      · cases h
      · exact .inr h
  | rdpFormatList => cases hlist
  | rdpDataResponse paste data => exact (handleRdpDataResponse_isSome env s paste data mime).mp h
  | rdpDataError => exact .inr h
  | rdpRemoteFileList paste files clipDataId =>
      exact (handleRdpRemoteFileList_isSome env s paste files clipDataId mime).mp h
  | portalDataRequest requested =>
      have houtcome := @ClipboardSystem.handlePortalDataRequest_outcome core s requested
      have hsame : (s.handlePortalDataRequest core requested).cache = s.cache := by
        generalize s.handlePortalDataRequest core requested = u at houtcome
        cases houtcome <;> rfl
      exact .inr (by rwa [ClipboardSystem.handleEvent, hsame] at h)

/-- What is kept of an event is in the cache after it. -/
theorem kept_cached {env : Surroundings} {s : ClipboardSystem} {event : ClipboardEvent}
    {mime : Mime} (h : mime ∈ kept core config env s event) :
    ((s.handleEvent core config env event).cache mime).isSome = true := by
  cases event with
  | rdpDataResponse paste data =>
      exact (handleRdpDataResponse_isSome env s paste data mime).mpr (.inl h)
  | rdpRemoteFileList paste files clipDataId =>
      exact (handleRdpRemoteFileList_isSome env s paste files clipDataId mime).mpr (.inl h)
  | rdpReady | rdpDisconnect | rdpFormatList | rdpDataError | portalDataRequest =>
      exact absurd h List.not_mem_nil

/-- A format list leaves nothing in the cache. -/
theorem cache_formatList (env : Surroundings) (s : ClipboardSystem)
    (formats : List ClipboardFormat) (mime : Mime) :
    (s.handleRdpFormatList core config env formats).cache mime = none := by
  unfold ClipboardSystem.handleRdpFormatList
  split
  · rename_i mimeTypes _ _
    simp only [ClipboardSystem.prefetch]
    split <;> split <;> rfl
  · rfl

/-! ### The account of the pastes -/

/-- The pastes under way: those answered, and those not. -/
def underWay (s : ClipboardSystem) : ℕ :=
  (s.events.filter ClipboardEvent.isAnswer).length + s.outstanding.length

/-- Only the loop sends pastes, and takes answers. -/
theorem underWay_step {s u : ClipboardSystem} {e : ClipboardStep}
    (h : s.step core config e = some u) (he : ∀ env, e ≠ .handle env) :
    underWay u = underWay s := by
  cases ClipboardSystem.step_outcome h with
  | handled => exact absurd rfl (he _)
  | announced | cleared | downloaded => rfl
  | forwarded | ready | disconnect | formatList =>
      simp [underWay, ClipboardSystem.enqueue, ClipboardEvent.isAnswer]
  | answeredData houtstanding | answeredFiles houtstanding | answeredError houtstanding =>
      simp only [underWay, ClipboardSystem.enqueue, houtstanding, List.filter_append,
        List.length_append, List.length_cons]
      rw [List.filter_cons_of_pos rfl, List.filter_nil, List.length_singleton]
      omega

/-- Every paste under way has its tag, along every run. -/
theorem tags_length {es : List ClipboardStep} {t : AgedSystem}
    (hrun : Run (StepOf (step core config)) init es t) :
    t.tags.length = underWay t.system := by
  refine hrun.invariant (P := fun t => t.tags.length = underWay t.system) rfl
    fun {t e u} h hst => ?_
  obtain ⟨system, hsystem, rfl⟩ := Option.map_eq_some_iff.mp hst
  split
  · rename_i env event events hevents
    -- an event leaves the queue: an answer takes its tag along, any other leaves the tags alone
    cases ClipboardSystem.step_outcome hsystem with
    | @handled _ event' events' _ hevents' =>
        obtain ⟨rfl, rfl⟩ := List.cons.inj (hevents.symm.trans hevents')
        obtain ⟨hkept, pastes, hpastes, -⟩ :=
          @ClipboardSystem.handleEvent_pastes core config t.system.dequeued env event
        have hout : t.system.dequeued.outstanding = t.system.outstanding := rfl
        have hqueue : t.system.dequeued.events = events := by
          rw [ClipboardSystem.dequeued, hevents, List.tail_cons]
        rw [underWay, hevents] at h
        simp only [handled, underWay, hkept, hpastes, hout, hqueue, List.length_append,
          List.length_replicate]
        cases hanswer : event.isAnswer with
        | true =>
            rw [List.filter_cons_of_pos hanswer, List.length_cons] at h
            simp only [if_true, List.length_tail]
            omega
        | false =>
            rw [List.filter_cons_of_neg (by simp [hanswer])] at h
            simp only [Bool.false_eq_true, if_false]
            omega
  · rename_i hnot
    -- the other steps queue an event, and a tag with each answer
    refine h.trans (underWay_step hsystem fun env he => ?_).symm
    subst he
    cases ClipboardSystem.step_outcome hsystem with
    | handled _ hevents => exact hnot _ _ _ rfl hevents

/-! ### Runs -/

theorem latest_init : (init).Latest where
  cached h := absurd h (by simp [init, ClipboardSystem.init])
  served p hp := absurd hp List.not_mem_nil

/-- Whatever is not handled by the loop leaves the cache as it is. -/
theorem cache_step {s u : ClipboardSystem} {e : ClipboardStep} (h : s.step core config e = some u)
    (he : ∀ env, e ≠ .handle env) : u.cache = s.cache := by
  cases ClipboardSystem.step_outcome h with
  | handled => exact absurd rfl (he _)
  | announced | forwarded | ready | disconnect | formatList | answeredData | answeredFiles
  | answeredError | cleared | downloaded => rfl

/-- Handling an event keeps what is cached up to date, unless an old answer is cached. -/
theorem latest_handled {t : AgedSystem} {env : Surroundings} {event : ClipboardEvent}
    {events : List ClipboardEvent} (h : t.Latest) (hevents : t.system.events = event :: events)
    (hok : t.Timely core config (.handle env)) :
    (t.handled core config env event
      (t.system.dequeued.handleEvent core config env event)).Latest where
  cached {mime} hmime := by
    cases hlist : event.isFormatList with
    | true =>
        cases event with
        | rdpFormatList formats =>
            -- a new copy empties the cache
            have hnone := @cache_formatList core config env t.system.dequeued formats mime
            exact absurd hmime (by simp [handled, ClipboardSystem.handleEvent, hnone])
        | rdpReady | rdpDisconnect | rdpDataResponse | rdpDataError | rdpRemoteFileList
        | portalDataRequest => cases hlist
    | false =>
        have hlists : (t.handled core config env event
            (t.system.dequeued.handleEvent core config env event)).lists = t.lists := by
          simp [handled, hlist]
        rw [hlists]
        by_cases hkept : mime ∈ kept core config env t.system event
        · refine (if_pos hkept).trans ?_
          exact hok event (by simp [hevents]) (List.ne_nil_of_mem hkept)
        · refine (if_neg hkept).trans ?_
          rcases cache_handleEvent hlist hmime with hnew | hold
          · exact absurd hnew hkept
          · exact h.cached hold
  served p hp := by
    rcases List.mem_append.mp hp with hp | hp
    · exact h.served p hp
    · unfold servedTag at hp
      split at hp
      · split at hp
        · rename_i hcache
          obtain rfl := List.mem_singleton.mp hp
          exact h.cached hcache.1
        · cases hp
      · cases hp

theorem latest_step {t u : AgedSystem} {e : ClipboardStep} (h : t.Latest)
    (hst : t.step core config e = some u) (hok : t.Timely core config e) : u.Latest := by
  obtain ⟨system, hsystem, rfl⟩ := Option.map_eq_some_iff.mp hst
  split
  · rename_i env event events hevents
    cases ClipboardSystem.step_outcome hsystem with
    | @handled _ event' events' _ hevents' =>
        obtain ⟨rfl, rfl⟩ := List.cons.inj (hevents.symm.trans hevents')
        exact latest_handled h hevents hok
  · rename_i hnot
    have hcache : system.cache = t.system.cache := by
      refine cache_step hsystem fun env he => ?_
      subst he
      cases ClipboardSystem.step_outcome hsystem with
      | handled _ hevents => exact hnot _ _ _ rfl hevents
    refine ⟨fun hmime => h.cached ?_, h.served⟩
    rwa [← hcache]

/-- As long as no answer to an older paste is cached, whatever is served from the cache is
of the latest copy. -/
theorem served_latest {es : List ClipboardStep} {t : AgedSystem}
    (hrun : Run (Guarded (StepOf (step core config)) (Timely core config)) init es t) :
    ∀ p ∈ t.served, p.2 = p.1 := by
  have hlatest : t.Latest := hrun.invariant latest_init fun h hst => latest_step h hst.1 hst.2
  exact hlatest.served

/-- A clipboard library with text in it. -/
def textCore : ClipboardCore :=
  { ClipboardCore.plain with
    rdpFormatToMime id := if id = cfUnicodeText then some "text/plain" else none
    rdpToMimeTypes _ := some ["text/plain"] }

/-- Files are downloaded before they are pasted. -/
def stagingConfig : ClipboardConfig where
  backend := .staging
  requiresUpfrontData := false

/-- A paste, up to where the loop handles its request. -/
def pasteOf (serial : UInt32) : List ClipboardStep :=
  [.selectionTransfer ⟨serial, "text/plain"⟩, .forward, .handle .smooth]

/-- A format list, up to where the loop has handled it. -/
def copyOf : List ClipboardStep := [.formatList [⟨cfUnicodeText, none⟩], .handle .smooth]

instance (t : AgedSystem) (e : ClipboardStep) : Decidable (t.Timely core config e) :=
  match e with
  | .handle _ => inferInstanceAs (Decidable (∀ event ∈ _, _ → _))
  | .selectionTransfer _ | .forward | .ready | .disconnect | .formatList _ | .answerData _
  | .answerFiles _ _ | .answerError | .clear | .downloadEnds => inferInstanceAs (Decidable True)

/-- Two copies, each pasted twice. -/
def quickPastes : List ClipboardStep :=
  copyOf ++ pasteOf 1 ++ [.answerData [1], .handle .smooth] ++ pasteOf 2 ++
    copyOf ++ pasteOf 3 ++ [.answerData [2], .handle .smooth] ++ pasteOf 4

/-- The second paste of each copy is served from the cache. -/
theorem served_latest_quick :
    ∃ t, Run (StepOf (step textCore stagingConfig)) init quickPastes t ∧
      t.served = [(1, 1), (2, 2)] ∧ ∀ p ∈ t.served, p.2 = p.1 := by
  have hfold : (quickPastes.foldlM
      (guardStep (step textCore stagingConfig) (Timely textCore stagingConfig)) init).map
        AgedSystem.served = some [(1, 1), (2, 2)] := by decide
  obtain ⟨t, hrun, hserved⟩ := Run.exists_guarded_of_foldlM AgedSystem.served hfold
  exact ⟨t, hrun.unguard, hserved, served_latest hrun⟩

/-- A copy, a paste, and a new copy before the answer; then the answer, and a paste. -/
def slowPaste : List ClipboardStep :=
  copyOf ++ pasteOf 1 ++ copyOf ++ [.answerData [1], .handle .smooth] ++ pasteOf 2

/-- The second paste is served what the first copy had. -/
theorem older_copy_served :
    ∃ t, Run (StepOf (step textCore stagingConfig)) init slowPaste t ∧ t.served = [(2, 1)] := by
  refine Run.exists_of_foldlM AgedSystem.served ?_
  decide

end AgedSystem

end LamcoRdp
