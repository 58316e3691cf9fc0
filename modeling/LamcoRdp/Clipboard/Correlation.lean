/-
LamcoRdp/Clipboard/Correlation.lean

Paste answers and the requests they are for.

The queue is in order if the MIME types of its entries are those of the pastes under
way, in the order of their answers, followed by those of the requests to come
(`Balanced`).  An answer then finds at the head of the queue a request of the MIME
type that it was issued for.  `InOrder` says of a step that it keeps the queue in
order; in every run of such steps the answers reach their requests
(`answers_reach_their_request`).

Several branches of the handlers do not keep it.  A request that is served from the
cache, or cancelled, pops the head of the queue, which may be another request's
entry (`cache_hit_takes_another_serial`).  An answer that the loop detector skips and
a request without a format leave their entry behind.  An error and a file list clear
the entries of others, and so does a disconnect.  The sentinel of an eager fetch
overtakes the requests to come.
-/
import LamcoRdp.Clipboard.Orchestrator

namespace LamcoRdp

open Runs

namespace ClipboardSystem

variable (core : ClipboardCore) (config : ClipboardConfig)

/-! ### What is to hold -/

/-- Every serial is completed at most once, with its own MIME type, and with success
only with the answer to a paste issued for that MIME type. -/
structure Correlated (s : ClipboardSystem) : Prop where
  once : (s.completed.map (·.serial)).Nodup
  own : ∀ c ∈ s.completed, (⟨c.serial, c.mime⟩ : PendingRequest) ∈ s.announced
  answered : ∀ c ∈ s.completed, c.success = true →
    ∃ answer, (c.mime, answer) ∈ s.answers ∧
      answer.converted core config.backend c.mime = some c.data

/-- A request finds its entry, or one like it, at the head of the queue if it is to
pop one: the pastes under way are all for its MIME type, and no sentinel stands
first.  A file list from the cache was fetched for this MIME type.  Otherwise the
client has a format for it. -/
def RequestInOrder (s : ClipboardSystem) (mime : Mime) : Prop :=
  ((s.cache mime).isSome ∨ s.rdpReady = false →
    (∀ m ∈ s.inFlight, m = mime) ∧ ∀ request ∈ s.pending.head?, request.serial ≠ eagerFetchSerial) ∧
  (∀ cached ∈ s.cache mime, isFileMime mime = true → cached.issuedFor = mime) ∧
  (s.cache mime = none → s.rdpReady = true → (formatIdForMime core s.formats mime).isSome)

/-- What keeps the queue in order when the event loop handles an event. -/
def EventInOrder (env : Surroundings) (s : ClipboardSystem) : ClipboardEvent → Prop
  | .portalDataRequest mime => s.RequestInOrder core mime
  | .rdpDataResponse _ data =>
      -- the loop detector lets the answer pass; files come to a request that is alone
      env.checkContent = true ∧
        (config.backend ≠ .staging → ∀ request ∈ s.pending.head?,
          (filesOf core request.mime data).isSome → s.pending.length = 1)
  | .rdpDataError paste =>
      -- the request that it answers is alone
      s.pending.length = (if paste.queued then 1 else 0) ∧
        ∀ request ∈ s.pending, request.serial ≠ eagerFetchSerial
  | .rdpDisconnect => s.rdpReady = true → s.pending = []
  | .rdpFormatList formats =>
      -- an eager fetch overtakes only requests like it
      config.requiresUpfrontData = true → ∀ mimeTypes ∈ announcedMimeTypes core env formats,
        fetchesText formats mimeTypes = true → ∀ m ∈ s.unprocessed, m = "text/plain"
  | _ => True

/-- The step keeps the queue in order. -/
def InOrder (s : ClipboardSystem) : ClipboardStep → Prop
  | .selectionTransfer request => request.serial ≠ eagerFetchSerial ∧ s.clearing = false
  | .handle env => ∀ event ∈ s.events.head?, s.EventInOrder core config env event
  | _ => True

/-! ### The ledger of serials -/

/-- A serial waits or has been completed, not both, and never twice. -/
structure Ledger (s : ClipboardSystem) : Prop where
  once : (s.completed.map (·.serial) ++
    (s.waiting.filter (·.serial ≠ eagerFetchSerial)).map (·.serial)).Nodup
  own : ∀ c ∈ s.completed, (⟨c.serial, c.mime⟩ : PendingRequest) ∈ s.announced
  listed : ∀ request ∈ s.waiting, request.serial ≠ eagerFetchSerial → request ∈ s.announced
  real : ∀ request ∈ s.announced, request.serial ≠ eagerFetchSerial

variable {s : ClipboardSystem} {request : PendingRequest} {rest : List PendingRequest}

/-- The ledger has no regard for the rest of the state. -/
theorem Ledger.of_eq (h : s.Ledger) {t : ClipboardSystem} (hw : t.waiting = s.waiting)
    (hcompleted : t.completed = s.completed) (hannounced : t.announced = s.announced) :
    t.Ledger := by
  obtain ⟨honce, hown, hlisted, hreal⟩ := h
  rw [← hw] at honce hlisted
  rw [← hcompleted] at honce hown
  rw [← hannounced] at hown hlisted hreal
  exact ⟨honce, hown, hlisted, hreal⟩

/-- A request leaves the queue. -/
theorem Ledger.withPending (h : s.Ledger) (hc : s.clearing = false)
    (hpending : s.pending = request :: rest) : (s.withPending rest).Ledger := by
  have hw : s.waiting = request :: rest := by rw [waiting_of_not_clearing hc, hpending]
  have hw' : (s.withPending rest).waiting = rest := waiting_of_not_clearing hc
  have hsub : rest.Sublist (request :: rest) := List.sublist_cons_self request rest
  refine ⟨?_, h.own, ?_, h.real⟩
  · have honce := h.once
    rw [hw] at honce
    rw [hw']
    exact honce.sublist (List.Sublist.append_left ((hsub.filter _).map _) _)
  · intro r hr
    rw [hw'] at hr
    exact h.listed r (by rw [hw]; exact hsub.subset hr)

/-- A request leaves the queue and is completed, with its own MIME type. -/
theorem Ledger.complete (h : s.Ledger) (hc : s.clearing = false)
    (hpending : s.pending = request :: rest) (hserial : request.serial ≠ eagerFetchSerial)
    {c : Completion} (hcs : c.serial = request.serial) (hcm : c.mime = request.mime) :
    ((s.withPending rest).complete c).Ledger := by
  have hw : s.waiting = request :: rest := by rw [waiting_of_not_clearing hc, hpending]
  have hw' : ((s.withPending rest).complete c).waiting = rest := waiting_of_not_clearing hc
  have hpop := h.withPending hc hpending
  refine ⟨?_, ?_, hpop.listed, h.real⟩
  · have honce := h.once
    rw [hw, List.filter_cons_of_pos (by simpa using hserial), List.map_cons] at honce
    rw [hw']
    show ((s.completed ++ [c]).map (·.serial) ++ _).Nodup
    rw [List.map_append, List.map_singleton, hcs, List.append_assoc]
    exact honce
  · intro c' hc'
    rcases List.mem_append.mp hc' with hc' | hc'
    · exact h.own c' hc'
    · rw [List.mem_singleton.mp hc', hcs, hcm]
      exact h.listed request (by rw [hw]; exact List.mem_cons_self) hserial

/-- No other entry has the serial of the head. -/
theorem Ledger.filter_rest (h : s.Ledger) (hc : s.clearing = false)
    (hpending : s.pending = request :: rest) (hserial : request.serial ≠ eagerFetchSerial) :
    rest.filter (·.serial ≠ request.serial) = rest := by
  have hw : s.waiting = request :: rest := by rw [waiting_of_not_clearing hc, hpending]
  rw [List.filter_eq_self]
  intro r hr
  have honce := (List.nodup_append.mp h.once).2.1
  rw [hw, List.filter_cons_of_pos (by simpa using hserial), List.map_cons,
    List.nodup_cons] at honce
  refine decide_eq_true fun heq => honce.1 (List.mem_map.mpr ⟨r, ?_, heq⟩)
  exact List.mem_filter.mpr ⟨hr, decide_eq_true (by rwa [heq])⟩

/-- The provider is told of the failure of every request that waits. -/
theorem Ledger.handleRdpDataError (h : s.Ledger) (hc : s.clearing = false)
    (hreal : ∀ request ∈ s.pending, request.serial ≠ eagerFetchSerial) :
    s.handleRdpDataError.Ledger := by
  have hw : s.waiting = s.pending := waiting_of_not_clearing hc
  refine ⟨?_, ?_, ?_, h.real⟩
  · have honce := h.once
    rw [hw, List.filter_eq_self.mpr fun r hr => decide_eq_true (hreal r hr)] at honce
    show ((s.completed ++ s.pending.map failure).map Completion.serial ++ []).Nodup
    rw [List.append_nil, List.map_append, List.map_map]
    exact honce
  · intro c hcomp
    rcases List.mem_append.mp hcomp with hcomp | hcomp
    · exact h.own c hcomp
    · obtain ⟨r, hr, rfl⟩ := List.mem_map.mp hcomp
      exact h.listed r (by rwa [hw]) (hreal r hr)
  · intro r hr
    cases hr

/-- A SelectionTransfer with a serial of its own. -/
theorem Ledger.announce (h : s.Ledger) (hc : s.clearing = false)
    (hnew : request.serial ∉ s.announced.map (·.serial))
    (hserial : request.serial ≠ eagerFetchSerial) : (s.announce request).Ledger := by
  have hw : s.waiting = s.pending := waiting_of_not_clearing hc
  have hw' : (s.announce request).waiting = s.pending ++ [request] := waiting_of_not_clearing hc
  -- the new serial is none of the old ones
  have hold : request.serial ∉ s.completed.map (·.serial) ++
      (s.pending.filter (·.serial ≠ eagerFetchSerial)).map (·.serial) := by
    intro hmem
    rcases List.mem_append.mp hmem with hmem | hmem
    · obtain ⟨c, hcomp, heq⟩ := List.mem_map.mp hmem
      exact hnew (List.mem_map.mpr ⟨_, h.own c hcomp, heq⟩)
    · obtain ⟨r, hr, heq⟩ := List.mem_map.mp hmem
      obtain ⟨hr, hreal⟩ := List.mem_filter.mp hr
      exact hnew (List.mem_map.mpr ⟨r, h.listed r (by rwa [hw]) (of_decide_eq_true hreal), heq⟩)
  refine ⟨?_, ?_, ?_, ?_⟩
  · have honce := h.once
    rw [hw] at honce
    rw [hw', List.filter_append, List.filter_singleton, decide_eq_true hserial, cond_true,
      List.map_append, ← List.append_assoc]
    exact List.nodup_append.mpr ⟨honce, List.nodup_singleton _, by
      rintro a ha b hb rfl
      rw [List.map_singleton, List.mem_singleton] at hb
      exact hold (hb ▸ ha)⟩
  · exact fun c hcomp => List.mem_append_left _ (h.own c hcomp)
  · intro r hr hreal
    rw [hw'] at hr
    rcases List.mem_append.mp hr with hr | hr
    · exact List.mem_append_left _ (h.listed r (by rwa [hw]) hreal)
    · exact List.mem_append_right _ hr
  · intro r hr
    rcases List.mem_append.mp hr with hr | hr
    · exact h.real r hr
    · rwa [List.mem_singleton.mp hr]

/-- The sentinel of an eager fetch is no serial of a request. -/
theorem Ledger.eagerFetch (h : s.Ledger) (hc : s.clearing = false) : s.eagerFetch.Ledger := by
  have hw : s.waiting = s.pending := waiting_of_not_clearing hc
  have hw' : s.eagerFetch.waiting = s.pending ++ [⟨eagerFetchSerial, "text/plain"⟩] :=
    waiting_of_not_clearing hc
  refine ⟨?_, h.own, ?_, h.real⟩
  · have honce := h.once
    rw [hw] at honce
    rw [hw', List.filter_append, List.filter_singleton, decide_eq_false (not_not.mpr rfl), cond_false,
      List.append_nil]
    exact honce
  · intro r hr hreal
    rw [hw'] at hr
    rcases List.mem_append.mp hr with hr | hr
    · exact h.listed r (by rwa [hw]) hreal
    · rw [List.mem_singleton.mp hr] at hreal
      exact absurd rfl hreal

/-! ### Where data comes from -/

/-- Answers under way, in the cache and delivered are answers that the client gave,
those in the cache and delivered for the MIME type that they stand for. -/
structure Sourced (s : ClipboardSystem) : Prop where
  data : ∀ paste bytes, .rdpDataResponse paste bytes ∈ s.events →
    paste.queued = true ∧ (paste.mime, .data bytes) ∈ s.answers
  files : ∀ paste files clipDataId, .rdpRemoteFileList paste files clipDataId ∈ s.events →
    (paste.mime, .fileList files) ∈ s.answers
  cached : ∀ mime cached, s.cache mime = some cached →
    ∃ answer, (cached.issuedFor, answer) ∈ s.answers ∧
      answer.converted core config.backend mime = some cached.data ∧
      (isFileMime mime = false → cached.issuedFor = mime)
  answered : ∀ c ∈ s.completed, c.success = true →
    ∃ answer, (c.mime, answer) ∈ s.answers ∧
      answer.converted core config.backend c.mime = some c.data

variable {core config}

/-- Nor do the sources of data depend on the rest of the state. -/
theorem Sourced.of_eq (h : s.Sourced core config) {t : ClipboardSystem}
    (hevents : t.events = s.events) (hcache : t.cache = s.cache)
    (hcompleted : t.completed = s.completed) (hanswers : t.answers = s.answers) :
    t.Sourced core config := by
  obtain ⟨hdata, hfiles, hcached, hanswered⟩ := h
  rw [← hevents, ← hanswers] at hdata hfiles
  rw [← hcache, ← hanswers] at hcached
  rw [← hcompleted, ← hanswers] at hanswered
  exact ⟨hdata, hfiles, hcached, hanswered⟩

/-- A call of `complete_transfer`, with success only for the data of an answer. -/
theorem Sourced.complete (h : s.Sourced core config) {c : Completion}
    (hc : c.success = true → ∃ answer, (c.mime, answer) ∈ s.answers ∧
      answer.converted core config.backend c.mime = some c.data) :
    (s.complete c).Sourced core config where
  data := h.data
  files := h.files
  cached := h.cached
  answered c' hc' := by
    rcases List.mem_append.mp hc' with hc' | hc'
    · exact h.answered c' hc'
    · rw [List.mem_singleton.mp hc']
      exact hc

theorem Sourced.withPending (h : s.Sourced core config) (pending : List PendingRequest) :
    (s.withPending pending).Sourced core config :=
  h.of_eq rfl rfl rfl rfl

/-- An answer goes into the cache. -/
theorem Sourced.cacheInsert (h : s.Sourced core config) {mime : Mime} {cached : Cached}
    {answer : ClientAnswer} (hanswer : (cached.issuedFor, answer) ∈ s.answers)
    (hdata : answer.converted core config.backend mime = some cached.data)
    (hmime : isFileMime mime = false → cached.issuedFor = mime) :
    (s.cacheInsert mime cached).Sourced core config where
  data := h.data
  files := h.files
  cached m c hcache := by
    change Function.update s.cache mime (some cached) m = some c at hcache
    by_cases hm : m = mime
    · subst hm
      rw [Function.update_self] at hcache
      obtain rfl := Option.some.inj hcache
      exact ⟨answer, hanswer, hdata, hmime⟩
    · rw [Function.update_of_ne hm] at hcache
      exact h.cached m c hcache
  answered := h.answered

/-- A file list goes into the cache, for both MIME types. -/
theorem Sourced.cacheFiles (h : s.Sourced core config) {issuedFor : Mime} {paths : List String}
    {answer : ClientAnswer} (hanswer : (issuedFor, answer) ∈ s.answers)
    (hdata : ∀ mime, isFileMime mime = true →
      answer.converted core config.backend mime = contentFor core paths mime) :
    (s.cacheFiles core issuedFor paths).Sourced core config := by
  refine Sourced.cacheInsert (Sourced.cacheInsert h hanswer ?_ ?_) hanswer ?_ ?_
  · rw [hdata gnomeFilesMime (by decide)]
    rfl
  · exact fun hfile => absurd hfile (by decide)
  · rw [hdata uriListMime (by decide)]
    rfl
  · exact fun hfile => absurd hfile (by decide)

/-- An empty cache. -/
theorem Sourced.cacheClear (h : s.Sourced core config) :
    { s with cache := fun _ => none }.Sourced core config where
  data := h.data
  files := h.files
  cached _ _ hcache := by cases hcache
  answered := h.answered

/-- Fewer events. -/
theorem Sourced.dequeued (h : s.Sourced core config) : s.dequeued.Sourced core config where
  data paste bytes hevent := h.data paste bytes (List.mem_of_mem_tail hevent)
  files paste files clipDataId hevent :=
    h.files paste files clipDataId (List.mem_of_mem_tail hevent)
  cached := h.cached
  answered := h.answered

/-- An event; if it is an answer with data, the client gave it. -/
theorem Sourced.enqueue (h : s.Sourced core config) {event : ClipboardEvent}
    (hdata : ∀ paste bytes, event = .rdpDataResponse paste bytes →
      paste.queued = true ∧ (paste.mime, .data bytes) ∈ s.answers)
    (hfiles : ∀ paste files clipDataId, event = .rdpRemoteFileList paste files clipDataId →
      (paste.mime, .fileList files) ∈ s.answers) :
    (s.enqueue event).Sourced core config where
  data paste bytes hevent := by
    rcases List.mem_append.mp hevent with hevent | hevent
    · exact h.data paste bytes hevent
    · exact hdata paste bytes (List.mem_singleton.mp hevent).symm
  files paste files clipDataId hevent := by
    rcases List.mem_append.mp hevent with hevent | hevent
    · exact h.files paste files clipDataId hevent
    · exact hfiles paste files clipDataId (List.mem_singleton.mp hevent).symm
  cached := h.cached
  answered := h.answered

/-- More answers. -/
theorem Sourced.answers (h : s.Sourced core config) (answer : Mime × ClientAnswer)
    (outstanding : List Paste) :
    { s with
      outstanding := outstanding
      answers := s.answers ++ [answer] }.Sourced core config where
  data paste bytes hevent :=
    ⟨(h.data paste bytes hevent).1, List.mem_append_left _ (h.data paste bytes hevent).2⟩
  files paste files clipDataId hevent :=
    List.mem_append_left _ (h.files paste files clipDataId hevent)
  cached mime cached hcache := by
    obtain ⟨a, ha, hconverted⟩ := h.cached mime cached hcache
    exact ⟨a, List.mem_append_left _ ha, hconverted⟩
  answered c hc hsuccess := by
    obtain ⟨a, ha, hconverted⟩ := h.answered c hc hsuccess
    exact ⟨a, List.mem_append_left _ ha, hconverted⟩

/-! ### The queue in order -/

/-- The entries of the queue are for the answers under way, then for the requests to
come. -/
def Balanced (s : ClipboardSystem) : Prop := s.waiting.map (·.mime) = s.inFlight ++ s.unprocessed

theorem balanced_of_pending (hc : s.clearing = false)
    (h : s.pending.map (·.mime) = s.inFlight ++ s.unprocessed) : s.Balanced := by
  rw [Balanced, waiting_of_not_clearing hc]
  exact h

/-- Of equal elements, any may be taken first. -/
theorem append_cons_of_forall_eq {α : Type*} {l u : List α} {m : α} (h : ∀ x ∈ l, x = m) :
    l ++ m :: u = m :: (l ++ u) := by
  induction l with
  | nil => rfl
  | cons x l ih =>
      obtain rfl := h x List.mem_cons_self
      rw [List.cons_append, ih fun y hy => h y (List.mem_cons_of_mem _ hy), List.cons_append]

variable (core config) in
/-- The queue is in order, and what has been done was right. -/
structure Ordered (s : ClipboardSystem) : Prop where
  ledger : s.Ledger
  sourced : s.Sourced core config
  balanced : s.Balanced

theorem Ordered.correlated (h : s.Ordered core config) : s.Correlated core config where
  once := (List.nodup_append.mp h.ledger.once).1
  own := h.ledger.own
  answered := h.sourced.answered

/-- A request, by the MIME types that the queue is for. -/
theorem ordered_handlePortalDataRequest {mime : Mime} (hl : s.Ledger) (hs : s.Sourced core config)
    (hc : s.clearing = false) (hfifo : s.pending.map (·.mime) = s.inFlight ++ mime :: s.unprocessed)
    (hok : s.RequestInOrder core mime) :
    (s.handlePortalDataRequest core mime).Ordered core config := by
  obtain ⟨hpop, hfile, hformat⟩ := hok
  -- popping the head of the queue is popping the entry of this request
  have hhead : ∀ {request rest}, s.pending = request :: rest →
      (s.cache mime).isSome ∨ s.rdpReady = false →
      request.serial ≠ eagerFetchSerial ∧ request.mime = mime ∧
        rest.map (·.mime) = s.inFlight ++ s.unprocessed := by
    intro request rest hpending hpops
    obtain ⟨hall, hserial⟩ := hpop hpops
    rw [hpending, append_cons_of_forall_eq hall, List.map_cons] at hfifo
    obtain ⟨hmime, hrest⟩ := List.cons.inj hfifo
    exact ⟨hserial request (by simp [hpending]), hmime, hrest⟩
  have hout : RequestOutcome core s mime _ := handlePortalDataRequest_outcome mime
  generalize s.handlePortalDataRequest core mime = t at hout ⊢
  cases hout with
  | @served cached request rest hcache hpending =>
      obtain ⟨hserial, hmime, hrest⟩ := hhead hpending (Or.inl (by simp [hcache]))
      refine ⟨hl.complete hc hpending hserial rfl hmime.symm,
        (hs.withPending rest).complete fun _ => ?_, ?_⟩
      · obtain ⟨answer, hanswer, hdata, hplain⟩ := hs.cached mime cached hcache
        have hissued : cached.issuedFor = mime := by
          cases hf : isFileMime mime with
          | true => exact hfile cached hcache hf
          | false => exact hplain hf
        exact ⟨answer, hissued ▸ hanswer, hdata⟩
      · exact balanced_of_pending hc hrest
  | @cancelled request rest hcache hready hpending =>
      obtain ⟨hserial, hmime, hrest⟩ := hhead hpending (Or.inr hready)
      exact ⟨hl.complete hc hpending hserial rfl rfl,
        (hs.withPending rest).complete (fun h => by cases h), balanced_of_pending hc hrest⟩
  | nobody hpending =>
      rw [hpending] at hfifo
      exact absurd hfifo (by simp)
  | unknown hcache hready hnone =>
      have hsome := hformat hcache hready
      rw [hnone] at hsome
      cases hsome
  | @asked id hcache hready hid =>
      refine ⟨hl.of_eq rfl rfl rfl,
        hs.of_eq rfl rfl rfl rfl, balanced_of_pending hc ?_⟩
      rw [inFlight_sendInitiatePaste, List.append_assoc]
      exact hfifo

/-- An answer with data, at the head of the answers under way. -/
theorem ordered_handleRdpDataResponse {env : Surroundings} {paste : Paste} {data : Bytes}
    (hl : s.Ledger) (hs : s.Sourced core config) (hc : s.clearing = false)
    (hfifo : s.pending.map (·.mime) = paste.mime :: (s.inFlight ++ s.unprocessed))
    (hanswer : (paste.mime, .data data) ∈ s.answers)
    (hok : s.EventInOrder core config env (.rdpDataResponse paste data)) :
    (s.handleRdpDataResponse core config env paste data).Ordered core config := by
  obtain ⟨hcheck, halone⟩ := hok
  -- the head of the queue is a request of the MIME type of the paste
  have hhead : ∀ {request rest}, s.pending = request :: rest →
      request.mime = paste.mime ∧ rest.map (·.mime) = s.inFlight ++ s.unprocessed := by
    intro request rest hpending
    rw [hpending, List.map_cons] at hfifo
    exact List.cons.inj hfifo
  have hsource : ∀ {request rest bytes}, s.pending = request :: rest →
      (ClientAnswer.data data).converted core config.backend request.mime = some bytes →
      ∃ answer, (request.mime, answer) ∈ s.answers ∧
        answer.converted core config.backend request.mime = some bytes := by
    intro request rest bytes hpending hbytes
    exact ⟨_, (hhead hpending).1 ▸ hanswer, hbytes⟩
  have hout : DataOutcome core config env s paste.mime data _ :=
    handleRdpDataResponse_outcome env paste data
  generalize s.handleRdpDataResponse core config env paste data = t at hout ⊢
  cases hout with
  | skipped hskip => exact absurd (hskip.symm.trans hcheck) (by simp)
  | unmatched hpending =>
      rw [hpending] at hfifo
      cases hfifo
  | eager hpending hserial =>
      exact ⟨hl.withPending hc hpending, hs.withPending _,
        balanced_of_pending hc (hhead hpending).2⟩
  | lost hpending _ =>
      exact ⟨hl.withPending hc hpending, hs.withPending _,
        balanced_of_pending hc (hhead hpending).2⟩
  | staged hpending _ =>
      have hl' := hl.withPending hc hpending
      exact ⟨hl'.of_eq rfl rfl rfl, hs.of_eq rfl rfl rfl rfl,
        balanced_of_pending hc (hhead hpending).2⟩
  | failed hpending hserial =>
      exact ⟨hl.complete hc hpending hserial rfl rfl,
        (hs.withPending _).complete (fun h => by cases h),
        balanced_of_pending hc (hhead hpending).2⟩
  | @refused request rest kept bytes hpending hserial hkept hbytes =>
      obtain rfl : kept = rest := by
        rcases hkept with hkept | hkept
        · exact hkept
        · rw [hkept, hl.filter_rest hc hpending hserial]
      exact ⟨hl.complete hc hpending hserial rfl rfl,
        (hs.withPending _).complete fun _ => hsource hpending hbytes,
        balanced_of_pending hc (hhead hpending).2⟩
  | @delivered request rest bytes hpending hserial hbytes =>
      have hl' := hl.complete hc hpending hserial (c := ⟨request.serial, request.mime, bytes, true⟩)
        rfl rfl
      refine ⟨hl'.of_eq rfl rfl rfl,
        ((hs.withPending _).complete fun _ => hsource hpending hbytes).cacheInsert hanswer hbytes
          fun _ => (hhead hpending).1.symm,
        balanced_of_pending hc (hhead hpending).2⟩
  | @spread request rest files mountPoint bytes hpending hserial hfiles hbackend hbytes =>
      -- no other request waits
      obtain rfl : rest = [] := by
        have hlen := halone (by simp [hbackend]) request (by simp [hpending]) (by simp [hfiles])
        rw [hpending, List.length_cons] at hlen
        exact List.length_eq_zero_iff.mp (Nat.succ.inj hlen)
      have hl' := hl.complete hc hpending hserial (c := ⟨request.serial, request.mime, bytes, true⟩)
        rfl rfl
      have hs' := (hs.withPending []).complete (c := ⟨request.serial, request.mime, bytes, true⟩)
        fun _ => hsource hpending hbytes
      simp only [List.filter_nil, List.map_nil, completeAll_nil]
      -- the answer is a file list for either MIME type
      refine ⟨hl'.of_eq rfl rfl rfl, hs'.cacheFiles hanswer fun mime hmime => ?_,
        balanced_of_pending hc (hhead hpending).2⟩
      rw [hbackend]
      exact ClientAnswer.converted_of_filesOf hfiles hmime mountPoint

/-- An error, to a request that is alone or to no request at all. -/
theorem ordered_handleRdpDataError {env : Surroundings} {paste : Paste} (hl : s.Ledger)
    (hs : s.Sourced core config) (hc : s.clearing = false)
    (hfifo : s.pending.map (·.mime) = paste.entry?.toList ++ (s.inFlight ++ s.unprocessed))
    (hok : s.EventInOrder core config env (.rdpDataError paste)) :
    s.handleRdpDataError.Ordered core config := by
  obtain ⟨hlen, hreal⟩ := hok
  -- by the order, a single paste waits and nothing else is on its way
  have hnothing : s.inFlight ++ s.unprocessed = [] := by
    have hlength := congrArg List.length hfifo
    rw [List.length_map, List.length_append, hlen] at hlength
    apply List.length_eq_zero_iff.mp
    cases hqueued : paste.queued with
    | true =>
        simp only [hqueued, if_true, Paste.entry?, Option.toList_some, List.length_singleton]
          at hlength
        omega
    | false =>
        simp only [hqueued, Paste.entry?, Bool.false_eq_true, if_false, Option.toList_none,
          List.length_nil] at hlength
        omega
  -- only failures are completed
  refine ⟨hl.handleRdpDataError hc hreal, ⟨hs.data, hs.files, hs.cached, ?_⟩, ?_⟩
  · intro c hcomp hsuccess
    rcases List.mem_append.mp hcomp with hcomp | hcomp
    · exact hs.answered c hcomp hsuccess
    · obtain ⟨r, -, rfl⟩ := List.mem_map.mp hcomp
      cases hsuccess
  · exact hnothing.symm

theorem Ordered.eagerFetch (h : s.Ordered core config) (hc : s.clearing = false)
    (hplain : ∀ m ∈ s.unprocessed, m = "text/plain") : s.eagerFetch.Ordered core config := by
  refine ⟨h.ledger.eagerFetch hc, ?_, balanced_of_pending hc ?_⟩
  · exact h.sourced.of_eq rfl rfl rfl rfl
  · have hfifo := h.balanced
    rw [Balanced, waiting_of_not_clearing hc] at hfifo
    have hinFlight : s.eagerFetch.inFlight = s.inFlight ++ ["text/plain"] :=
      inFlight_sendInitiatePaste _
    show (s.pending ++ [(⟨eagerFetchSerial, "text/plain"⟩ : PendingRequest)]).map PendingRequest.mime
      = s.eagerFetch.inFlight ++ s.unprocessed
    rw [hinFlight, List.map_append, hfifo, List.append_assoc, List.append_assoc]
    show s.inFlight ++ (s.unprocessed ++ ["text/plain"]) = s.inFlight ++ ("text/plain" :: s.unprocessed)
    rw [append_cons_of_forall_eq hplain, List.append_nil]

/-- The file list is asked for without an entry in the queue. -/
theorem Ordered.fileListPaste (h : s.Ordered core config) {formats : List ClipboardFormat}
    {mimeTypes : List Mime} {paste : Paste} (hpaste : fileListPaste formats mimeTypes = some paste) :
    (s.sendInitiatePaste paste).Ordered core config := by
  have hentry : paste.entry? = none := by
    rw [ClipboardSystem.fileListPaste] at hpaste
    split at hpaste
    · obtain ⟨format, -, rfl⟩ := Option.map_eq_some_iff.mp hpaste
      rfl
    · cases hpaste
  refine ⟨h.ledger.of_eq rfl rfl rfl,
    h.sourced.of_eq rfl rfl rfl rfl, ?_⟩
  show s.waiting.map (·.mime) = (s.sendInitiatePaste paste).inFlight ++ s.unprocessed
  rw [inFlight_sendInitiatePaste, hentry, Option.toList_none, List.append_nil]
  exact h.balanced

theorem Ordered.prefetch (h : s.Ordered core config) (hc : s.clearing = false)
    {formats : List ClipboardFormat} {mimeTypes : List Mime}
    (hplain : fetchesText formats mimeTypes = true → ∀ m ∈ s.unprocessed, m = "text/plain") :
    (s.prefetch formats mimeTypes).Ordered core config := by
  have hfetched : (if fetchesText formats mimeTypes then s.eagerFetch else s).Ordered core config := by
    split
    · next hfetch => exact h.eagerFetch hc (hplain hfetch)
    · exact h
  unfold ClipboardSystem.prefetch
  cases hpaste : ClipboardSystem.fileListPaste formats mimeTypes with
  | some paste => exact hfetched.fileListPaste hpaste
  | none => exact hfetched

theorem Ordered.storeFormats (h : s.Ordered core config) (formats : List ClipboardFormat) :
    (s.storeFormats formats).Ordered core config :=
  ⟨h.ledger.of_eq rfl rfl rfl, h.sourced.cacheClear.of_eq rfl rfl rfl rfl, h.balanced⟩

theorem Ordered.handleRdpFormatList (h : s.Ordered core config) (hc : s.clearing = false)
    {env : Surroundings} {formats : List ClipboardFormat}
    (hok : s.EventInOrder core config env (.rdpFormatList formats)) :
    (s.handleRdpFormatList core config env formats).Ordered core config := by
  have hstored := h.storeFormats formats
  unfold ClipboardSystem.handleRdpFormatList
  split
  · next mimeTypes hmimes hupfront => exact hstored.prefetch hc (hok hupfront mimeTypes hmimes)
  · exact hstored

/-- A teardown that finds nobody waiting. -/
theorem Ordered.teardown (h : s.Ordered core config) (hpending : s.pending = []) :
    s.teardown.Ordered core config := by
  have hwaiting : s.teardown.waiting = s.waiting := by
    show (if s.clearing then [] else []) = if s.clearing then [] else s.pending
    rw [hpending]
  refine ⟨h.ledger.of_eq hwaiting rfl rfl, h.sourced.cacheClear.of_eq rfl rfl rfl rfl, ?_⟩
  rw [Balanced, hwaiting]
  exact h.balanced

theorem Ordered.handleRdpRemoteFileList (h : s.Ordered core config) {env : Surroundings}
    {paste : Paste} {files : List RemoteFile} {clipDataId : Option ℕ}
    (hanswer : (paste.mime, .fileList files) ∈ s.answers) :
    (s.handleRdpRemoteFileList core config env paste files clipDataId).Ordered core config := by
  unfold ClipboardSystem.handleRdpRemoteFileList
  split
  · exact h
  · cases hprepared : config.backend.prepareFiles env.available
        (transferDescriptors core files (clipDataId.getD 1)) with
    | pending =>
        exact ⟨h.ledger.of_eq rfl rfl rfl,
          h.sourced.of_eq rfl rfl rfl rfl, h.balanced⟩
    | failed => exact h
    | ready paths =>
        obtain ⟨mountPoint, hbackend, rfl⟩ := prepareFiles_ready hprepared
        refine ⟨h.ledger.of_eq rfl rfl rfl,
          h.sourced.cacheFiles hanswer ?_, h.balanced⟩
        intro mime _
        simp only [ClientAnswer.converted, hbackend, FileTransferBackend.fileContent]
        rw [fusePaths_transferDescriptors core mountPoint files 1 (clipDataId.getD 1)]

/-! ### Steps and runs -/

theorem eventInOrder_dequeued {env : Surroundings} {event : ClipboardEvent}
    {events : List ClipboardEvent} (hevents : s.events = event :: events)
    (h : s.EventInOrder core config env event) : s.dequeued.EventInOrder core config env event := by
  have hinFlight := inFlight_of_events hevents
  have hunprocessed := unprocessed_of_events hevents
  cases event with
  | portalDataRequest mime =>
      have hsame : s.inFlight = s.dequeued.inFlight := hinFlight
      obtain ⟨hpop, hrest⟩ := h
      rw [hsame] at hpop
      exact ⟨hpop, hrest⟩
  | rdpFormatList formats =>
      have hsame : s.unprocessed = s.dequeued.unprocessed := hunprocessed
      intro hupfront mimeTypes hmimes hfetch
      rw [← hsame]
      exact h hupfront mimeTypes hmimes hfetch
  | rdpDataResponse paste data => exact h
  | rdpDataError paste => exact h
  | rdpDisconnect => exact h
  | rdpReady => trivial
  | rdpRemoteFileList paste files clipDataId => trivial

/-- The event loop handles an event that keeps the queue in order. -/
theorem Ordered.handleEvent (h : s.Ordered core config) (hc : s.clearing = false)
    {env : Surroundings} {event : ClipboardEvent} {events : List ClipboardEvent}
    (hevents : s.events = event :: events) (hok : s.EventInOrder core config env event) :
    (s.dequeued.handleEvent core config env event).Ordered core config := by
  have hok' := eventInOrder_dequeued hevents hok
  have hl : s.dequeued.Ledger := h.ledger.of_eq rfl rfl rfl
  have hs : s.dequeued.Sourced core config := h.sourced.dequeued
  have hmem : event ∈ s.events := by simp [hevents]
  have hfifo : s.pending.map (·.mime) = (event.answered?.toList ++ s.dequeued.inFlight) ++
      (event.requested?.toList ++ s.dequeued.unprocessed) := by
    rw [← inFlight_of_events hevents, ← unprocessed_of_events hevents,
      ← waiting_of_not_clearing hc]
    exact h.balanced
  -- an event that neither answers nor asks leaves the queue in order
  have hidle : event.answered? = none → event.requested? = none →
      s.dequeued.Ordered core config := by
    intro hanswered hrequested
    rw [hanswered, hrequested] at hfifo
    exact ⟨hl, hs, balanced_of_pending hc hfifo⟩
  cases event with
  | portalDataRequest mime => exact ordered_handlePortalDataRequest hl hs hc hfifo hok'
  | rdpDataResponse paste data =>
      obtain ⟨hqueued, hanswer⟩ := h.sourced.data paste data hmem
      refine ordered_handleRdpDataResponse hl hs hc ?_ hanswer hok'
      rw [show (ClipboardEvent.rdpDataResponse paste data).answered? = some paste.mime from
        if_pos hqueued] at hfifo
      exact hfifo
  | rdpDataError paste =>
      refine ordered_handleRdpDataError hl hs hc ?_ hok'
      rw [List.append_assoc] at hfifo
      exact hfifo
  | rdpReady =>
      have hsame := hidle rfl rfl
      exact ⟨hl.of_eq rfl rfl rfl, hs.of_eq rfl rfl rfl rfl,
        hsame.balanced⟩
  | rdpDisconnect =>
      show (if s.dequeued.rdpReady then s.dequeued.teardown else s.dequeued).Ordered core config
      split
      · next hready => exact (hidle rfl rfl).teardown (hok' hready)
      · exact hidle rfl rfl
  | rdpFormatList formats => exact (hidle rfl rfl).handleRdpFormatList hc hok'
  | rdpRemoteFileList paste files clipDataId =>
      exact (hidle rfl rfl).handleRdpRemoteFileList (h.sourced.files paste files clipDataId hmem)

/-- The queue, the answers under way and the requests to come are as before. -/
theorem Ordered.balanced_of_eq (h : s.Ordered core config) {t : ClipboardSystem}
    (hw : t.waiting = s.waiting) (hf : t.inFlight = s.inFlight)
    (hu : t.unprocessed = s.unprocessed) : t.Balanced := by
  rw [Balanced, hw, hf, hu]
  exact h.balanced

/-- The bridge queues an event that is no answer. -/
theorem Ordered.enqueue (h : s.Ordered core config) {event : ClipboardEvent}
    (hanswered : event.answered? = none) (hrequested : event.requested? = none)
    (hdata : ∀ paste bytes, event ≠ .rdpDataResponse paste bytes)
    (hfiles : ∀ paste files clipDataId, event ≠ .rdpRemoteFileList paste files clipDataId) :
    (s.enqueue event).Ordered core config :=
  ⟨h.ledger.of_eq rfl rfl rfl,
    h.sourced.enqueue (fun _ _ he => absurd he (hdata _ _)) fun _ _ _ he => absurd he (hfiles _ _ _),
    h.balanced_of_eq rfl (inFlight_enqueue hanswered) (unprocessed_enqueue hrequested)⟩

/-- A step that keeps the queue in order. -/
theorem Ordered.step (h : s.Ordered core config) {e : ClipboardStep} {t : ClipboardSystem}
    (hok : s.InOrder core config e) (ht : StepOutcome core config s e t) :
    t.Ordered core config := by
  have hl := h.ledger
  have hs := h.sourced
  cases ht with
  | @announced request hforwarding hnew =>
      obtain ⟨hserial, hc⟩ := hok
      refine ⟨hl.announce hc hnew hserial, hs.of_eq rfl rfl rfl rfl,
        balanced_of_pending hc ?_⟩
      have hfifo := h.balanced
      rw [Balanced, waiting_of_not_clearing hc, unprocessed, hforwarding] at hfifo
      show (s.pending ++ [request]).map PendingRequest.mime
        = s.inFlight ++ (s.events.filterMap ClipboardEvent.requested? ++ [request.mime])
      rw [List.map_append, hfifo]
      simp
  | forwarded hforwarding =>
      have hs' : { s with forwarding := none }.Sourced core config :=
        hs.of_eq rfl rfl rfl rfl
      exact ⟨hl.of_eq rfl rfl rfl, hs'.enqueue (by simp) (by simp),
        h.balanced_of_eq rfl (inFlight_enqueue rfl) (unprocessed_forward hforwarding)⟩
  | ready => exact h.enqueue rfl rfl (by simp) (by simp)
  | disconnect => exact h.enqueue rfl rfl (by simp) (by simp)
  | formatList => exact h.enqueue rfl rfl (by simp) (by simp)
  | @answeredData paste rest bytes houtstanding hqueued =>
      have hs' := hs.answers (paste.mime, .data bytes) rest
      refine ⟨hl.of_eq rfl rfl rfl, hs'.enqueue ?_ (by simp),
        h.balanced_of_eq rfl (inFlight_answer houtstanding rfl _) (unprocessed_enqueue rfl)⟩
      intro paste' bytes' hevent
      obtain ⟨rfl, rfl⟩ := ClipboardEvent.rdpDataResponse.inj hevent
      exact ⟨hqueued, List.mem_append_right _ (List.mem_singleton_self _)⟩
  | @answeredFiles paste rest files clipDataId houtstanding hqueued =>
      have hs' := hs.answers (paste.mime, .fileList files) rest
      have hentry := answered?_rdpRemoteFileList hqueued files clipDataId
      refine ⟨hl.of_eq rfl rfl rfl, hs'.enqueue (by simp) ?_,
        h.balanced_of_eq rfl (inFlight_answer houtstanding hentry _) (unprocessed_enqueue rfl)⟩
      intro paste' files' clipDataId' hevent
      obtain ⟨rfl, rfl, -⟩ := ClipboardEvent.rdpRemoteFileList.inj hevent
      exact List.mem_append_right _ (List.mem_singleton_self _)
  | @answeredError paste rest houtstanding =>
      have hs' : { s with outstanding := rest }.Sourced core config :=
        hs.of_eq rfl rfl rfl rfl
      exact ⟨hl.of_eq rfl rfl rfl, hs'.enqueue (by simp) (by simp),
        h.balanced_of_eq rfl (inFlight_answer houtstanding rfl _) (unprocessed_enqueue rfl)⟩
  | handled hc hevents => exact h.handleEvent hc hevents (hok _ (by simp [hevents]))
  | cleared hc =>
      -- nobody has been waiting since the provider was told
      have hw : s.waiting = [] := by simp [waiting, hc]
      have honce := hl.once
      have hb := h.balanced
      rw [hw] at honce
      rw [Balanced, hw] at hb
      exact ⟨⟨honce, hl.own, fun _ hr => (by cases hr), hl.real⟩,
        hs.of_eq rfl rfl rfl rfl, hb⟩
  | downloaded hdownload =>
      exact ⟨hl.of_eq rfl rfl rfl, hs.of_eq rfl rfl rfl rfl,
        h.balanced⟩

theorem ordered_init : init.Ordered core config where
  ledger := ⟨by simp [init, waiting], by simp [init], by simp [init, waiting], by simp [init]⟩
  sourced := ⟨by simp [init], by simp [init], by simp [init], by simp [init]⟩
  balanced := rfl

/-- **Paste answers reach their own request**: in every run whose steps keep the queue
in order, every serial is completed at most once, with its own MIME type, and with
success only with the answer to a paste issued for that MIME type. -/
theorem answers_reach_their_request {steps : List ClipboardStep} {s : ClipboardSystem}
    (h : Run (Guarded (StepOf (step core config)) (InOrder core config)) init steps s) :
    s.Correlated core config := by
  have hordered : s.Ordered core config :=
    h.invariant ordered_init fun hs hst => hs.step hst.2 (step_outcome hst.1)
  exact hordered.correlated

/-! ### Two runs -/

instance (s : ClipboardSystem) (mime : Mime) : Decidable (s.RequestInOrder core mime) :=
  inferInstanceAs (Decidable (_ ∧ _ ∧ _))

instance (env : Surroundings) (s : ClipboardSystem) (event : ClipboardEvent) :
    Decidable (s.EventInOrder core config env event) :=
  match event with
  | .portalDataRequest mime => inferInstanceAs (Decidable (s.RequestInOrder core mime))
  | .rdpDataResponse _ _ => inferInstanceAs (Decidable (_ ∧ (_ → _)))
  | .rdpDataError _ => inferInstanceAs (Decidable (_ ∧ _))
  | .rdpDisconnect => inferInstanceAs (Decidable (_ → _))
  | .rdpFormatList _ => inferInstanceAs (Decidable (_ → _))
  | .rdpReady => inferInstanceAs (Decidable True)
  | .rdpRemoteFileList _ _ _ => inferInstanceAs (Decidable True)

instance (s : ClipboardSystem) (e : ClipboardStep) : Decidable (s.InOrder core config e) :=
  match e with
  | .selectionTransfer _ => inferInstanceAs (Decidable (_ ∧ _))
  | .handle _ => inferInstanceAs (Decidable (∀ event ∈ _, _))
  | .forward | .ready | .disconnect | .formatList _ | .answerData _ | .answerFiles _ _ | .answerError
  | .clear | .downloadEnds => inferInstanceAs (Decidable True)

/-- ASCII text in UTF-16LE. -/
def asciiText : Bytes → Bytes
  | a :: _ :: rest => a :: asciiText rest
  | _ => []

/-- Libraries that know text and HTML. -/
def textCore : ClipboardCore :=
  { ClipboardCore.plain with
    rdpFormatToMime id := if id = cfUnicodeText then some "text/plain;charset=utf-8" else none
    formatNameToMime name := if name = "HTML Format" then some "text/html" else none
    mimeToFormatId mime := if mime = "text/plain" then some cfUnicodeText else none
    rdpToMimeTypes _ := some ["text/plain;charset=utf-8", "text/plain", "text/html"]
    decodeText bytes mime := if startsWith mime "text/html" then bytes else asciiText bytes }

/-- A provider that renders on demand. -/
def onDemand : ClipboardConfig := ⟨.fuse "/run/user/1000/lamco", false⟩

/-- A copy of text and HTML. -/
def textAndHtml : List ClipboardFormat := [⟨cfUnicodeText, none⟩, ⟨49390, some "HTML Format"⟩]

/-- A paste of one MIME type, up to the point where the client is to answer. -/
def requestPaste (serial : UInt32) (mime : Mime) : List ClipboardStep :=
  [.selectionTransfer ⟨serial, mime⟩, .forward, .handle .smooth]

/-- Text and HTML are asked for together, and both are answered. -/
def pasteTogether : List ClipboardStep :=
  [.formatList textAndHtml, .handle .smooth] ++ requestPaste 1 "text/plain" ++
    requestPaste 2 "text/html" ++
    [.answerData [97, 0, 98, 0], .answerData [60, 98, 62], .handle .smooth, .handle .smooth]

theorem answers_reach_their_request_together :
    ∃ s, Run (Guarded (StepOf (step textCore onDemand)) (InOrder textCore onDemand)) init
        pasteTogether s ∧
      s.completed = [⟨1, "text/plain", [97, 98], true⟩, ⟨2, "text/html", [60, 98, 62], true⟩] ∧
      s.Correlated textCore onDemand := by
  obtain ⟨s, hrun, hcompleted⟩ : ∃ s, Run (Guarded (StepOf (step textCore onDemand))
      (InOrder textCore onDemand)) init pasteTogether s ∧
      s.completed = [⟨1, "text/plain", [97, 98], true⟩, ⟨2, "text/html", [60, 98, 62], true⟩] :=
    Run.exists_guarded_of_foldlM completed (by decide)
  exact ⟨s, hrun, hcompleted, answers_reach_their_request hrun⟩

/-- Text is pasted, and then HTML and text once more, the text out of the cache
while HTML is on its way. -/
def pasteMixed : List ClipboardStep :=
  [.formatList textAndHtml, .handle .smooth] ++ requestPaste 1 "text/plain" ++
    [.answerData [97, 0, 98, 0], .handle .smooth] ++ requestPaste 2 "text/html" ++
    requestPaste 3 "text/plain" ++ [.answerData [60, 98, 62, 0], .handle .smooth]

/-- The text goes to the serial that has asked for HTML, and the HTML, taken for
text, to the other. -/
theorem cache_hit_takes_another_serial :
    ∃ s, Run (StepOf (step textCore onDemand)) init pasteMixed s ∧
      s.announced = [⟨1, "text/plain"⟩, ⟨2, "text/html"⟩, ⟨3, "text/plain"⟩] ∧
      s.completed = [⟨1, "text/plain", [97, 98], true⟩, ⟨2, "text/plain", [97, 98], true⟩,
        ⟨3, "text/plain", [60, 62], true⟩] ∧
      ¬ s.Correlated textCore onDemand := by
  obtain ⟨s, hrun, hlog⟩ : ∃ s, Run (StepOf (step textCore onDemand)) init pasteMixed s ∧
      (s.announced, s.completed) = ([⟨1, "text/plain"⟩, ⟨2, "text/html"⟩, ⟨3, "text/plain"⟩],
        [⟨1, "text/plain", [97, 98], true⟩, ⟨2, "text/plain", [97, 98], true⟩,
          ⟨3, "text/plain", [60, 62], true⟩]) :=
    Run.exists_of_foldlM (fun s : ClipboardSystem => (s.announced, s.completed)) (by decide)
  obtain ⟨hannounced, hcompleted⟩ := Prod.mk.inj hlog
  refine ⟨s, hrun, hannounced, hcompleted, fun h => ?_⟩
  have hown := h.own ⟨2, "text/plain", [97, 98], true⟩ (by simp [hcompleted])
  rw [hannounced] at hown
  exact absurd hown (by decide)

end ClipboardSystem

end LamcoRdp
