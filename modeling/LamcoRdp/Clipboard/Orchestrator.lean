/-
LamcoRdp/Clipboard/Orchestrator.lean

The clipboard event loop on the way from the RDP client to a Linux paste.

A paste announces itself as a SelectionTransfer with a serial.  The provider
forwarder pushes (serial, MIME type) on `pending_portal_requests` and then queues a
`PortalDataRequest`; the event loop asks the client with `SendInitiatePaste`; the
answer comes back as another event, and the loop pops the queue to learn for whom it
is.  The protocol has no request ids: everything rests on the order of the queue.

The parties are the forwarder, the event loop, the bridge that queues the client's
events, and the client, which answers every `SendInitiatePaste` once and in order.
One step of the event loop handles one event.  Where the handler gives way and the
order matters, it is cut: `handle_rdp_data_error` notifies the provider of the
requests it has seen and clears the queue later (`clearing`).  The events of the
other direction, and the file contents, change nothing here and are left out; of a
download, only the end shows.

The loop detector, the provider and the file system answer as they please: their
answers are part of the step (`Surroundings`).  What nothing reads is written down
beside the state for the statements about it: the MIME type that a
`SendInitiatePaste` was issued for, the requests announced, the calls of
`complete_transfer` and the client's answers.
-/
import LamcoRdp.Clipboard.Conversion

namespace LamcoRdp

open Runs

/-! ### Data -/

/-- An entry of `pending_portal_requests`. -/
structure PendingRequest where
  serial : UInt32
  mime : Mime
  deriving DecidableEq, Repr

/-- `EAGER_FETCH_SERIAL`, `u32::MAX`. -/
def eagerFetchSerial : UInt32 := 0xFFFFFFFF

/-- A `SendInitiatePaste`, with the MIME type it was issued for, and whether an entry
of the queue stands for it. -/
structure Paste where
  formatId : UInt32
  mime : Mime
  queued : Bool
  deriving DecidableEq, Repr

/-- `ClipboardEvent`; an answer carries the paste that it answers. -/
inductive ClipboardEvent
  | rdpReady
  | rdpDisconnect
  | rdpFormatList (formats : List ClipboardFormat)
  | rdpDataResponse (paste : Paste) (data : Bytes)
  | rdpDataError (paste : Paste)
  | rdpRemoteFileList (paste : Paste) (files : List RemoteFile) (clipDataId : Option ℕ)
  | portalDataRequest (mime : Mime)
  deriving DecidableEq, Repr

/-- The MIME type of a paste for which an entry of the queue stands. -/
def Paste.entry? (paste : Paste) : Option Mime := if paste.queued then some paste.mime else none

/-- The entry of the queue whose answer the event is. -/
def ClipboardEvent.answered? : ClipboardEvent → Option Mime
  | .rdpDataResponse paste _ => paste.entry?
  | .rdpDataError paste => paste.entry?
  | _ => none

/-- The MIME type that the event asks for. -/
def ClipboardEvent.requested? : ClipboardEvent → Option Mime
  | .portalDataRequest mime => some mime
  | _ => none

/-- A call of `complete_transfer`. -/
structure Completion where
  serial : UInt32
  mime : Mime
  data : Bytes
  success : Bool
  deriving DecidableEq, Repr

/-- An entry of `transfer_data_cache`, with the MIME type that was asked for. -/
structure Cached where
  data : Bytes
  issuedFor : Mime
  deriving DecidableEq, Repr

/-- What the step does not decide. -/
structure Surroundings where
  /-- `check_content` lets the answer pass -/
  checkContent : Bool
  /-- `handle_rdp_formats` lets the format list pass -/
  shouldSync : Bool
  /-- `announce_formats` succeeds -/
  announces : Bool
  /-- `complete_transfer` succeeds -/
  completes : Bool
  /-- FUSE is mounted, or the download directory can be made -/
  available : Bool
  deriving DecidableEq, Repr

/-- Everything succeeds. -/
def Surroundings.smooth : Surroundings := ⟨true, true, true, true, true⟩

/-- The backend and the provider. -/
structure ClipboardConfig where
  backend : FileTransferBackend
  requiresUpfrontData : Bool
  deriving DecidableEq, Repr

/-- The clipboard manager, the queue of its event loop, and the client's open answers. -/
structure ClipboardSystem where
  /-- `pending_portal_requests` -/
  pending : List PendingRequest
  /-- `transfer_data_cache` -/
  cache : Mime → Option Cached
  rdpReady : Bool
  /-- `current_rdp_formats` -/
  formats : List ClipboardFormat
  /-- `handle_rdp_data_error` has notified the provider and is about to clear the
  queue -/
  clearing : Bool
  /-- the forwarder has pushed a request of this MIME type and not yet queued it -/
  forwarding : Option Mime
  /-- the event channel -/
  events : List ClipboardEvent
  /-- the pastes that the client has not answered -/
  outstanding : List Paste
  /-- `portal_serial` of the staging backend, while files are being downloaded -/
  download : Option UInt32
  /-- the serials of the events that the staging backend has sent; nobody listens -/
  fileTransferEvents : List UInt32
  /-- every SelectionTransfer -/
  announced : List PendingRequest
  /-- those since the last teardown -/
  current : List PendingRequest
  completed : List Completion
  /-- the client's answers with data, each with the MIME type of the paste -/
  answers : List (Mime × ClientAnswer)

/-- A step of the provider, of the event loop or of the client. -/
inductive ClipboardStep
  /-- the forwarder takes a SelectionTransfer and pushes it -/
  | selectionTransfer (request : PendingRequest)
  /-- the forwarder queues the event for it -/
  | forward
  /-- the bridge, or the display handler, queues an event -/
  | ready
  | disconnect
  | formatList (formats : List ClipboardFormat)
  /-- the client answers the oldest paste: with data; with files, where the server
  has asked for the file list on its own account; or with an error -/
  | answerData (bytes : Bytes)
  | answerFiles (files : List RemoteFile) (clipDataId : Option ℕ)
  | answerError
  /-- the event loop handles the next event -/
  | handle (surroundings : Surroundings)
  /-- `handle_rdp_data_error` clears the queue -/
  | clear
  /-- the staging backend has its last file, or an error -/
  | downloadEnds
  deriving DecidableEq, Repr

namespace ClipboardSystem

/-- Before the client is there. -/
def init : ClipboardSystem where
  pending := []
  cache _ := none
  rdpReady := false
  formats := []
  clearing := false
  forwarding := none
  events := []
  outstanding := []
  download := none
  fileTransferEvents := []
  announced := []
  current := []
  completed := []
  answers := []

/-- The queue written. -/
def withPending (s : ClipboardSystem) (pending : List PendingRequest) : ClipboardSystem :=
  { s with pending := pending }

/-- A call of `complete_transfer`. -/
def complete (s : ClipboardSystem) (completion : Completion) : ClipboardSystem :=
  { s with completed := s.completed ++ [completion] }

/-- The calls for a list of requests. -/
def completeAll (s : ClipboardSystem) (completions : List Completion) : ClipboardSystem :=
  { s with completed := s.completed ++ completions }

@[simp]
theorem completeAll_nil (s : ClipboardSystem) : s.completeAll [] = s := by
  simp only [completeAll, List.append_nil]

/-- `SendInitiatePaste` on the server event channel. -/
def sendInitiatePaste (s : ClipboardSystem) (paste : Paste) : ClipboardSystem :=
  { s with outstanding := s.outstanding ++ [paste] }

/-- `transfer_data_cache.insert`. -/
def cacheInsert (s : ClipboardSystem) (mime : Mime) (cached : Cached) : ClipboardSystem :=
  { s with cache := Function.update s.cache mime (some cached) }

/-- The call that tells the provider of a failure. -/
def failure (request : PendingRequest) : Completion := ⟨request.serial, request.mime, [], false⟩

/-- The staging backend starts to download. -/
def withDownload (s : ClipboardSystem) (serial : UInt32) : ClipboardSystem :=
  { s with download := some serial }

variable (core : ClipboardCore) (config : ClipboardConfig)

/-- Both MIME types of a file list into the cache. -/
def cacheFiles (s : ClipboardSystem) (issuedFor : Mime) (paths : List String) : ClipboardSystem :=
  (s.cacheInsert gnomeFilesMime
    ⟨(generateGnomeCopiedFilesContent core paths).toUTF8.toList, issuedFor⟩).cacheInsert uriListMime
    ⟨(generateUriListContent core paths).toUTF8.toList, issuedFor⟩

/-! ### Handlers -/

/-- The `PortalDataRequest` arm of `handle_event`, with `handle_portal_data_request`. -/
def handlePortalDataRequest (s : ClipboardSystem) (mime : Mime) : ClipboardSystem :=
  match s.cache mime, s.rdpReady with
  | some cached, _ =>
      match s.pending with
      | [] => s
      | request :: rest =>
          (s.withPending rest).complete ⟨request.serial, mime, cached.data, true⟩
  | none, false =>
      match s.pending with
      | [] => s
      | request :: rest => (s.withPending rest).complete (failure request)
  | none, true =>
      match formatIdForMime core s.formats mime with
      -- the error leaves the entry in the queue
      | none => s
      | some id => s.sendInitiatePaste ⟨id, mime, true⟩

/-- The answer to one of the other pending serials once files are ready. -/
def otherCompletion (paths : List String) (request : PendingRequest) : Completion :=
  match contentFor core paths request.mime with
  | some bytes => ⟨request.serial, request.mime, bytes, true⟩
  | none => failure request

/-- `PrepareResult::Ready`: the request popped, then every other one, and both MIME
types into the cache. -/
def filesReady (env : Surroundings) (s : ClipboardSystem) (request : PendingRequest)
    (issuedFor : Mime) (paths : List String) : ClipboardSystem :=
  let gnome := (generateGnomeCopiedFilesContent core paths).toUTF8.toList
  let answered := s.complete
    ⟨request.serial, request.mime, (contentFor core paths request.mime).getD gnome, true⟩
  if env.completes then
    let others := s.pending.filter (·.serial ≠ request.serial)
    ((answered.withPending []).completeAll
      (others.map (otherCompletion core paths))).cacheFiles core issuedFor paths
  else answered

/-- `handle_rdp_data_response` once it has popped a request: the files of the
answer. -/
def deliverFiles (env : Surroundings) (s : ClipboardSystem) (request : PendingRequest)
    (issuedFor : Mime) (files : List RemoteFile) : ClipboardSystem :=
  match config.backend.prepareFiles env.available (transferDescriptors core files 1) with
  | .ready paths => s.filesReady core env request issuedFor paths
  | .pending => s.withDownload request.serial
  | .failed => s.complete (failure request)

/-- `handle_rdp_data_response` once it has popped a request: any other data. -/
def deliverData (env : Surroundings) (s : ClipboardSystem) (request : PendingRequest)
    (issuedFor : Mime) (data : Bytes) : ClipboardSystem :=
  match portalData core request.mime data with
  -- the conversion's error ends the handler
  | none => s
  | some bytes =>
      let delivered := s.complete ⟨request.serial, request.mime, bytes, true⟩
      if env.completes then delivered.cacheInsert request.mime ⟨bytes, issuedFor⟩
      else delivered.withPending (s.pending.filter (·.serial ≠ request.serial))

/-- `handle_rdp_data_response`. -/
def handleRdpDataResponse (env : Surroundings) (s : ClipboardSystem) (paste : Paste)
    (data : Bytes) : ClipboardSystem :=
  -- content loop detection
  if env.checkContent = false then s
  else
    match s.pending with
    -- no matching request
    | [] => s
    | request :: rest =>
        let popped := s.withPending rest
        -- eager fetch: the provider gets the text up front
        if request.serial = eagerFetchSerial then popped
        else
          match filesOf core request.mime data with
          | some files => popped.deliverFiles core config env request paste.mime files
          | none => popped.deliverData core env request paste.mime data

/-- `handle_rdp_data_error`, up to where it clears the queue. -/
def handleRdpDataError (s : ClipboardSystem) : ClipboardSystem :=
  { s with completed := s.completed ++ s.pending.map failure, clearing := true }

/-- `handle_rdp_remote_file_list`; `provide_data` is left out. -/
def handleRdpRemoteFileList (env : Surroundings) (s : ClipboardSystem) (paste : Paste)
    (files : List RemoteFile) (clipDataId : Option ℕ) : ClipboardSystem :=
  if config.requiresUpfrontData = false ∨ files = [] then s
  else
    match config.backend.prepareFiles env.available
        (transferDescriptors core files (clipDataId.getD 1)) with
    | .ready paths => s.cacheFiles core paste.mime paths
    | .pending => s.withDownload 0
    | .failed => s

/-- A provider that needs its data up front gets the text fetched at once, with a
sentinel in the queue for the answer. -/
def eagerFetch (s : ClipboardSystem) : ClipboardSystem :=
  let sentinel : PendingRequest := ⟨eagerFetchSerial, "text/plain"⟩
  (s.withPending (s.pending ++ [sentinel])).sendInitiatePaste
    ⟨cfUnicodeText, "text/plain", true⟩

/-- Whether the format list makes the loop fetch the text. -/
def fetchesText (formats : List ClipboardFormat) (mimeTypes : List Mime) : Bool :=
  mimeTypes.any (startsWith · "text/plain") && formats.any (·.id = cfUnicodeText)

/-- The file list that the loop asks for; no entry of the queue stands for it. -/
def fileListPaste (formats : List ClipboardFormat) (mimeTypes : List Mime) : Option Paste :=
  if mimeTypes.any isFileMime then
    (formats.find? (·.name = some "FileGroupDescriptorW")).map fun format =>
      ⟨format.id, uriListMime, false⟩
  else none

/-- The MIME types announced for a format list, if the loop comes to announce them. -/
def announcedMimeTypes (env : Surroundings) (formats : List ClipboardFormat) :
    Option (List Mime) :=
  if env.shouldSync && env.announces then
    (core.rdpToMimeTypes formats).filter (· ≠ [])
  else none

/-- A new copy: the channel is ready, and the cached data is old. -/
def storeFormats (s : ClipboardSystem) (formats : List ClipboardFormat) : ClipboardSystem :=
  { s with rdpReady := true, cache := fun _ => none, formats := formats }

/-- What is fetched for a provider that needs its data up front. -/
def prefetch (s : ClipboardSystem) (formats : List ClipboardFormat) (mimeTypes : List Mime) :
    ClipboardSystem :=
  let fetched := if fetchesText formats mimeTypes then s.eagerFetch else s
  match fileListPaste formats mimeTypes with
  | some paste => fetched.sendInitiatePaste paste
  | none => fetched

/-- The `RdpFormatList` arm, with `handle_rdp_format_list`. -/
def handleRdpFormatList (env : Surroundings) (s : ClipboardSystem)
    (formats : List ClipboardFormat) : ClipboardSystem :=
  match announcedMimeTypes core env formats, config.requiresUpfrontData with
  | some mimeTypes, true => (s.storeFormats formats).prefetch formats mimeTypes
  | _, _ => s.storeFormats formats

/-- What `RdpDisconnect` drops. -/
def teardown (s : ClipboardSystem) : ClipboardSystem :=
  { s with rdpReady := false, formats := [], pending := [], cache := fun _ => none, current := [] }

/-- The `RdpDisconnect` arm: only the first of several has work to do. -/
def handleRdpDisconnect (s : ClipboardSystem) : ClipboardSystem :=
  if s.rdpReady then s.teardown else s

/-- `handle_event`. -/
def handleEvent (env : Surroundings) (s : ClipboardSystem) : ClipboardEvent → ClipboardSystem
  | .rdpReady => { s with rdpReady := true }
  | .rdpDisconnect => s.handleRdpDisconnect
  | .rdpFormatList formats => s.handleRdpFormatList core config env formats
  | .rdpDataResponse paste data => s.handleRdpDataResponse core config env paste data
  | .rdpDataError _ => s.handleRdpDataError
  | .rdpRemoteFileList paste files clipDataId =>
      s.handleRdpRemoteFileList core config env paste files clipDataId
  | .portalDataRequest mime => s.handlePortalDataRequest core mime

/-! ### Steps -/

/-- The forwarder pushes a request: "track in pending requests queue for FIFO
correlation". -/
def announce (s : ClipboardSystem) (request : PendingRequest) : ClipboardSystem :=
  { s with
    pending := s.pending ++ [request]
    forwarding := some request.mime
    announced := s.announced ++ [request]
    current := s.current ++ [request] }

/-- An event enters the channel. -/
def enqueue (s : ClipboardSystem) (event : ClipboardEvent) : ClipboardSystem :=
  { s with events := s.events ++ [event] }

/-- The channel without its first event. -/
def dequeued (s : ClipboardSystem) : ClipboardSystem := { s with events := s.events.tail }

/-- The client answers the oldest paste, which has an entry in the queue or not. -/
def answer (s : ClipboardSystem) (queued : Bool) (event : Paste → ClipboardEvent)
    (answer : ClientAnswer) : Option ClipboardSystem :=
  match s.outstanding with
  | [] => none
  | paste :: rest =>
      if paste.queued = queued then
        some ({ s with
          outstanding := rest
          answers := s.answers ++ [(paste.mime, answer)] }.enqueue (event paste))
      else none

/-- What a step does; `none` where it cannot be taken. -/
def step (s : ClipboardSystem) : ClipboardStep → Option ClipboardSystem
  | .selectionTransfer request =>
      -- the serials are distinct
      if s.forwarding = none ∧ request.serial ∉ s.announced.map (·.serial) then
        some (s.announce request)
      else none
  | .forward =>
      s.forwarding.map fun mime => { s with forwarding := none }.enqueue (.portalDataRequest mime)
  | .ready => some (s.enqueue .rdpReady)
  | .disconnect => some (s.enqueue .rdpDisconnect)
  | .formatList formats => some (s.enqueue (.rdpFormatList formats))
  | .answerData bytes => s.answer true (.rdpDataResponse · bytes) (.data bytes)
  | .answerFiles files clipDataId =>
      s.answer false (.rdpRemoteFileList · files clipDataId) (.fileList files)
  | .answerError =>
      match s.outstanding with
      | [] => none
      | paste :: rest => some ({ s with outstanding := rest }.enqueue (.rdpDataError paste))
  | .handle env =>
      match s.clearing, s.events with
      | false, event :: _ => some (s.dequeued.handleEvent core config env event)
      | _, _ => none
  | .clear => if s.clearing then some { s with pending := [], clearing := false } else none
  | .downloadEnds =>
      s.download.map fun serial =>
        { s with download := none, fileTransferEvents := s.fileTransferEvents ++ [serial] }

/-! ### What is under way -/

/-- The requests that wait for an answer. -/
def waiting (s : ClipboardSystem) : List PendingRequest := if s.clearing then [] else s.pending

/-- The MIME types of the pastes issued for an entry of the queue whose answers have
not been handled, in order. -/
def inFlight (s : ClipboardSystem) : List Mime :=
  s.events.filterMap ClipboardEvent.answered? ++ s.outstanding.filterMap Paste.entry?

/-- The MIME types of the requests pushed and not yet handled, in order. -/
def unprocessed (s : ClipboardSystem) : List Mime :=
  s.events.filterMap ClipboardEvent.requested? ++ s.forwarding.toList

variable {core config} {s : ClipboardSystem}

theorem waiting_of_not_clearing (h : s.clearing = false) : s.waiting = s.pending := by
  simp [waiting, h]

theorem inFlight_sendInitiatePaste (paste : Paste) :
    (s.sendInitiatePaste paste).inFlight = s.inFlight ++ paste.entry?.toList := by
  show s.events.filterMap ClipboardEvent.answered? ++
    (s.outstanding ++ [paste]).filterMap Paste.entry? = _
  rw [List.filterMap_append, ← List.append_assoc]
  cases hentry : paste.entry? <;> simp [inFlight, hentry]

theorem inFlight_of_events {event : ClipboardEvent} {events : List ClipboardEvent}
    (h : s.events = event :: events) :
    s.inFlight = event.answered?.toList ++ s.dequeued.inFlight := by
  simp only [inFlight, dequeued, h, List.tail_cons]
  cases hanswered : event.answered? <;> simp [hanswered]

theorem unprocessed_of_events {event : ClipboardEvent} {events : List ClipboardEvent}
    (h : s.events = event :: events) :
    s.unprocessed = event.requested?.toList ++ s.dequeued.unprocessed := by
  simp only [unprocessed, dequeued, h, List.tail_cons]
  cases hrequested : event.requested? <;> simp [hrequested]

/-- An event enters the channel that is no answer to an entry. -/
theorem inFlight_enqueue {event : ClipboardEvent} (h : event.answered? = none) :
    (s.enqueue event).inFlight = s.inFlight := by
  show (s.events ++ [event]).filterMap ClipboardEvent.answered? ++ _ = _
  rw [List.filterMap_append, List.filterMap_cons_none h, List.filterMap_nil, List.append_nil]
  rfl

/-- The answer to the oldest paste enters the channel. -/
theorem inFlight_answer {paste : Paste} {rest : List Paste} {event : ClipboardEvent}
    (houtstanding : s.outstanding = paste :: rest) (h : event.answered? = paste.entry?)
    (answers : List (Mime × ClientAnswer)) :
    ({ s with outstanding := rest, answers := answers }.enqueue event).inFlight = s.inFlight := by
  show (s.events ++ [event]).filterMap ClipboardEvent.answered? ++ rest.filterMap Paste.entry?
    = s.events.filterMap ClipboardEvent.answered? ++ s.outstanding.filterMap Paste.entry?
  rw [houtstanding, List.filterMap_append, List.append_assoc]
  cases hentry : paste.entry? <;> simp [h, hentry]

/-- A file list answers no entry, and neither does the paste for it. -/
theorem answered?_rdpRemoteFileList {paste : Paste} (hqueued : paste.queued = false)
    (files : List RemoteFile) (clipDataId : Option ℕ) :
    ClipboardEvent.answered? (.rdpRemoteFileList paste files clipDataId) = paste.entry? := by
  simp [Paste.entry?, hqueued, ClipboardEvent.answered?]

/-- An event enters the channel that asks for nothing. -/
theorem unprocessed_enqueue {event : ClipboardEvent} (h : event.requested? = none) :
    (s.enqueue event).unprocessed = s.unprocessed := by
  show (s.events ++ [event]).filterMap ClipboardEvent.requested? ++ _ = _
  rw [List.filterMap_append, List.filterMap_cons_none h, List.filterMap_nil, List.append_nil]
  rfl

/-- The request that the forwarder holds enters the channel. -/
theorem unprocessed_forward {mime : Mime} (h : s.forwarding = some mime) :
    ({ s with forwarding := none }.enqueue (.portalDataRequest mime)).unprocessed
      = s.unprocessed := by
  show (s.events ++ [ClipboardEvent.portalDataRequest mime]).filterMap ClipboardEvent.requested? ++ []
    = _
  simp [unprocessed, h, ClipboardEvent.requested?]

/-! ### What the handlers do -/

/-- What becomes of a `PortalDataRequest`. -/
inductive RequestOutcome (core : ClipboardCore) (s : ClipboardSystem) (mime : Mime) :
    ClipboardSystem → Prop
  /-- from the cache -/
  | served {cached request rest} (hcache : s.cache mime = some cached)
      (hpending : s.pending = request :: rest) :
      RequestOutcome core s mime
        ((s.withPending rest).complete ⟨request.serial, mime, cached.data, true⟩)
  /-- not ready -/
  | cancelled {request rest} (hcache : s.cache mime = none) (hready : s.rdpReady = false)
      (hpending : s.pending = request :: rest) :
      RequestOutcome core s mime ((s.withPending rest).complete (failure request))
  /-- nobody waits -/
  | nobody (hpending : s.pending = []) : RequestOutcome core s mime s
  /-- no format -/
  | unknown (hcache : s.cache mime = none) (hready : s.rdpReady = true)
      (hformat : formatIdForMime core s.formats mime = none) : RequestOutcome core s mime s
  | asked {id} (hcache : s.cache mime = none) (hready : s.rdpReady = true)
      (hformat : formatIdForMime core s.formats mime = some id) :
      RequestOutcome core s mime (s.sendInitiatePaste ⟨id, mime, true⟩)

theorem handlePortalDataRequest_outcome (mime : Mime) :
    RequestOutcome core s mime (s.handlePortalDataRequest core mime) := by
  unfold handlePortalDataRequest
  cases hcache : s.cache mime with
  | some cached =>
      cases hpending : s.pending with
      | nil => exact .nobody hpending
      | cons request rest => exact .served hcache hpending
  | none =>
      cases hready : s.rdpReady with
      | false =>
          cases hpending : s.pending with
          | nil => exact .nobody hpending
          | cons request rest => exact .cancelled hcache hready hpending
      | true =>
          cases hformat : formatIdForMime core s.formats mime with
          | none => exact .unknown hcache hready hformat
          | some id => exact .asked hcache hready hformat

/-- The answer ends the handler without a word to the provider: its conversion fails,
or its files are to be downloaded first. -/
def Unanswered (core : ClipboardCore) (config : ClipboardConfig) (env : Surroundings)
    (request : PendingRequest) (data : Bytes) : Prop :=
  match filesOf core request.mime data with
  | some files =>
      config.backend.prepareFiles env.available (transferDescriptors core files 1) = .pending
  | none => portalData core request.mime data = none

/-- What becomes of an answer with data. -/
inductive DataOutcome (core : ClipboardCore) (config : ClipboardConfig) (env : Surroundings)
    (s : ClipboardSystem) (issuedFor : Mime) (data : Bytes) : ClipboardSystem → Prop
  /-- by the loop detector -/
  | skipped (hcheck : env.checkContent = false) :
      DataOutcome core config env s issuedFor data s
  | unmatched (hpending : s.pending = []) : DataOutcome core config env s issuedFor data s
  | eager {request rest} (hpending : s.pending = request :: rest)
      (hserial : request.serial = eagerFetchSerial) :
      DataOutcome core config env s issuedFor data (s.withPending rest)
  | lost {request rest} (hpending : s.pending = request :: rest)
      (hunanswered : Unanswered core config env request data) :
      DataOutcome core config env s issuedFor data (s.withPending rest)
  | staged {request rest} (hpending : s.pending = request :: rest)
      (hunanswered : Unanswered core config env request data) :
      DataOutcome core config env s issuedFor data
        ((s.withPending rest).withDownload request.serial)
  | failed {request rest} (hpending : s.pending = request :: rest)
      (hserial : request.serial ≠ eagerFetchSerial) :
      DataOutcome core config env s issuedFor data
        ((s.withPending rest).complete (failure request))
  /-- refused by the provider -/
  | refused {request rest kept bytes} (hpending : s.pending = request :: rest)
      (hserial : request.serial ≠ eagerFetchSerial)
      (hkept : kept = rest ∨ kept = rest.filter (·.serial ≠ request.serial))
      (hbytes : (ClientAnswer.data data).converted core config.backend request.mime = some bytes) :
      DataOutcome core config env s issuedFor data
        ((s.withPending kept).complete ⟨request.serial, request.mime, bytes, true⟩)
  | delivered {request rest bytes} (hpending : s.pending = request :: rest)
      (hserial : request.serial ≠ eagerFetchSerial)
      (hbytes : (ClientAnswer.data data).converted core config.backend request.mime = some bytes) :
      DataOutcome core config env s issuedFor data
        (((s.withPending rest).complete ⟨request.serial, request.mime, bytes, true⟩).cacheInsert
          request.mime ⟨bytes, issuedFor⟩)
  /-- files, to every request that waits -/
  | spread {request rest files mountPoint bytes} (hpending : s.pending = request :: rest)
      (hserial : request.serial ≠ eagerFetchSerial)
      (hfiles : filesOf core request.mime data = some files)
      (hbackend : config.backend = .fuse mountPoint)
      (hbytes : (ClientAnswer.data data).converted core config.backend request.mime = some bytes) :
      DataOutcome core config env s issuedFor data
        ((((s.withPending []).complete ⟨request.serial, request.mime, bytes, true⟩).completeAll
            ((rest.filter fun other => other.serial ≠ request.serial).map
              (otherCompletion core (fusePaths mountPoint (transferDescriptors core files 1))))).cacheFiles
          core issuedFor (fusePaths mountPoint (transferDescriptors core files 1)))

/-- A request popped, and an answer without files. -/
theorem deliverData_outcome (env : Surroundings) {request : PendingRequest}
    {rest : List PendingRequest} {issuedFor : Mime} {data : Bytes}
    (hpending : s.pending = request :: rest) (hserial : request.serial ≠ eagerFetchSerial)
    (hfiles : filesOf core request.mime data = none) :
    DataOutcome core config env s issuedFor data
      ((s.withPending rest).deliverData core env request issuedFor data) := by
  unfold deliverData
  cases hbytes : portalData core request.mime data with
  | none => exact .lost hpending (by simpa only [Unanswered, hfiles] using hbytes)
  | some bytes =>
      have hconverted : (ClientAnswer.data data).converted core config.backend request.mime
          = some bytes := by simpa only [ClientAnswer.converted, hfiles] using hbytes
      simp only
      split
      · exact .delivered hpending hserial hconverted
      · exact .refused hpending hserial (Or.inr rfl) hconverted

/-- A request popped, and an answer with files. -/
theorem deliverFiles_outcome (env : Surroundings) {request : PendingRequest}
    {rest : List PendingRequest} {issuedFor : Mime} {data : Bytes} {files : List RemoteFile}
    (hpending : s.pending = request :: rest) (hserial : request.serial ≠ eagerFetchSerial)
    (hfiles : filesOf core request.mime data = some files) :
    DataOutcome core config env s issuedFor data
      ((s.withPending rest).deliverFiles core config env request issuedFor files) := by
  unfold deliverFiles
  cases hprepared : config.backend.prepareFiles env.available
      (transferDescriptors core files 1) with
  | pending => exact .staged hpending (by simpa only [Unanswered, hfiles] using hprepared)
  | failed => exact .failed hpending hserial
  | ready paths =>
      have hmime := (filesOf_eq_some hfiles).1
      obtain ⟨mountPoint, hbackend, rfl⟩ := prepareFiles_ready hprepared
      obtain ⟨bytes, hbytes⟩ := contentFor_of_isFileMime core hmime
        (fusePaths mountPoint (transferDescriptors core files 1))
      have hconverted : (ClientAnswer.data data).converted core config.backend request.mime
          = some bytes := by
        rw [hbackend, ClientAnswer.converted_of_filesOf hfiles hmime]
        exact hbytes
      simp only [filesReady, hbytes, Option.getD_some]
      split
      · exact .spread hpending hserial hfiles hbackend hconverted
      · exact .refused hpending hserial (Or.inl rfl) hconverted

theorem handleRdpDataResponse_outcome (env : Surroundings) (paste : Paste) (data : Bytes) :
    DataOutcome core config env s paste.mime data
      (s.handleRdpDataResponse core config env paste data) := by
  unfold handleRdpDataResponse
  by_cases hcheck : env.checkContent = false
  · rw [if_pos hcheck]
    exact .skipped hcheck
  rw [if_neg hcheck]
  cases hpending : s.pending with
  | nil => exact .unmatched hpending
  | cons request rest =>
      simp only
      by_cases hserial : request.serial = eagerFetchSerial
      · rw [if_pos hserial]
        exact .eager hpending hserial
      rw [if_neg hserial]
      cases hfiles : filesOf core request.mime data with
      | none => exact deliverData_outcome env hpending hserial hfiles
      | some files => exact deliverFiles_outcome env hpending hserial hfiles

/-- What an event does to the latch. -/
def latchAfter (ready : Bool) : ClipboardEvent → Bool
  | .rdpReady => true
  | .rdpFormatList _ => true
  | .rdpDisconnect => false
  | _ => ready

theorem handleEvent_rdpReady (env : Surroundings) (event : ClipboardEvent) :
    (s.handleEvent core config env event).rdpReady = latchAfter s.rdpReady event := by
  cases event with
  | rdpReady => rfl
  -- the events that touch the latch are these two; the others are taken apart to see that they do
  -- not
  | rdpDisconnect =>
      simp only [handleEvent, handleRdpDisconnect]
      split
      · rfl
      · next h => exact Bool.eq_false_iff.mpr h
  | rdpFormatList formats =>
      simp only [handleEvent, handleRdpFormatList]
      split
      · simp only [prefetch]
        split <;> split <;> rfl
      · rfl
  | rdpDataResponse paste data =>
      have houtcome := @handleRdpDataResponse_outcome core config s env paste data
      simp only [handleEvent]
      generalize s.handleRdpDataResponse core config env paste data = u at houtcome
      cases houtcome <;> rfl
  | rdpDataError => rfl
  | rdpRemoteFileList paste files clipDataId =>
      simp only [handleEvent, handleRdpRemoteFileList]
      split
      · rfl
      · split <;> rfl
  | portalDataRequest mime =>
      have houtcome := @handlePortalDataRequest_outcome core s mime
      simp only [handleEvent]
      generalize s.handlePortalDataRequest core mime = u at houtcome
      cases houtcome <;> rfl

/-- An event is handled with the channel as it is; it may send pastes, and where it does,
the clipboard channel is ready. -/
theorem handleEvent_pastes (env : Surroundings) (event : ClipboardEvent) :
    (s.handleEvent core config env event).events = s.events ∧
      ∃ pastes, (s.handleEvent core config env event).outstanding = s.outstanding ++ pastes ∧
        (pastes = [] ∨ (s.handleEvent core config env event).rdpReady = true) := by
  have hnone : ∀ u : ClipboardSystem, u.events = s.events → u.outstanding = s.outstanding →
      u.events = s.events ∧ ∃ pastes, u.outstanding = s.outstanding ++ pastes ∧
        (pastes = [] ∨ u.rdpReady = true) :=
    fun u he ho => ⟨he, [], by rw [ho, List.append_nil], .inl rfl⟩
  cases event with
  | rdpReady => exact hnone _ rfl rfl
  | rdpDisconnect =>
      simp only [handleEvent, handleRdpDisconnect]
      split <;> exact hnone _ rfl rfl
  | rdpFormatList formats =>
      -- the latch is set before anything is fetched
      simp only [handleEvent, handleRdpFormatList]
      split
      · simp only [prefetch]
        split <;> split
        · exact ⟨rfl, [_, _], List.append_assoc .., .inr rfl⟩
        · exact ⟨rfl, [_], rfl, .inr rfl⟩
        · exact ⟨rfl, [_], rfl, .inr rfl⟩
        · exact hnone _ rfl rfl
      · exact hnone _ rfl rfl
  | rdpDataResponse paste data =>
      have houtcome := @handleRdpDataResponse_outcome core config s env paste data
      simp only [handleEvent]
      generalize s.handleRdpDataResponse core config env paste data = u at houtcome
      cases houtcome <;> exact hnone _ rfl rfl
  | rdpDataError => exact hnone _ rfl rfl
  | rdpRemoteFileList paste files clipDataId =>
      simp only [handleEvent, handleRdpRemoteFileList]
      split
      · exact hnone _ rfl rfl
      · split <;> exact hnone _ rfl rfl
  | portalDataRequest mime =>
      have houtcome := @handlePortalDataRequest_outcome core s mime
      simp only [handleEvent]
      generalize s.handlePortalDataRequest core mime = u at houtcome
      cases houtcome with
      | asked hcache hready => exact ⟨rfl, [_], rfl, .inr hready⟩
      | served | cancelled | nobody | unknown => exact hnone _ rfl rfl

/-- What a step does. -/
inductive StepOutcome (core : ClipboardCore) (config : ClipboardConfig) (s : ClipboardSystem) :
    ClipboardStep → ClipboardSystem → Prop
  | announced {request} (hforwarding : s.forwarding = none)
      (hnew : request.serial ∉ s.announced.map (·.serial)) :
      StepOutcome core config s (.selectionTransfer request) (s.announce request)
  | forwarded {mime} (hforwarding : s.forwarding = some mime) :
      StepOutcome core config s .forward
        ({ s with forwarding := none }.enqueue (.portalDataRequest mime))
  | ready : StepOutcome core config s .ready (s.enqueue .rdpReady)
  | disconnect : StepOutcome core config s .disconnect (s.enqueue .rdpDisconnect)
  | formatList {formats} :
      StepOutcome core config s (.formatList formats) (s.enqueue (.rdpFormatList formats))
  | answeredData {paste rest bytes} (houtstanding : s.outstanding = paste :: rest)
      (hqueued : paste.queued = true) :
      StepOutcome core config s (.answerData bytes)
        ({ s with
          outstanding := rest
          answers := s.answers ++ [(paste.mime, ClientAnswer.data bytes)] }.enqueue
          (.rdpDataResponse paste bytes))
  | answeredFiles {paste rest files clipDataId} (houtstanding : s.outstanding = paste :: rest)
      (hqueued : paste.queued = false) :
      StepOutcome core config s (.answerFiles files clipDataId)
        ({ s with
          outstanding := rest
          answers := s.answers ++ [(paste.mime, ClientAnswer.fileList files)] }.enqueue
          (.rdpRemoteFileList paste files clipDataId))
  | answeredError {paste rest} (houtstanding : s.outstanding = paste :: rest) :
      StepOutcome core config s .answerError
        ({ s with outstanding := rest }.enqueue (.rdpDataError paste))
  | handled {env event events} (hclearing : s.clearing = false)
      (hevents : s.events = event :: events) :
      StepOutcome core config s (.handle env) (s.dequeued.handleEvent core config env event)
  | cleared (hclearing : s.clearing = true) :
      StepOutcome core config s .clear { s with pending := [], clearing := false }
  | downloaded {serial} (hdownload : s.download = some serial) :
      StepOutcome core config s .downloadEnds
        { s with download := none, fileTransferEvents := s.fileTransferEvents ++ [serial] }

theorem answer_eq_some {queued : Bool} {event : Paste → ClipboardEvent} {answer : ClientAnswer}
    {t : ClipboardSystem} (h : s.answer queued event answer = some t) :
    ∃ paste rest, s.outstanding = paste :: rest ∧ paste.queued = queued ∧
      t = { s with
        outstanding := rest
        answers := s.answers ++ [(paste.mime, answer)] }.enqueue (event paste) := by
  unfold ClipboardSystem.answer at h
  cases houtstanding : s.outstanding with
  | nil => simp [houtstanding] at h
  | cons paste rest =>
      simp only [houtstanding] at h
      obtain ⟨hqueued, ht⟩ := Option.ite_none_right_eq_some.mp h
      exact ⟨paste, rest, rfl, hqueued, (Option.some.inj ht).symm⟩

theorem step_outcome {e : ClipboardStep} {t : ClipboardSystem} (h : s.step core config e = some t) :
    StepOutcome core config s e t := by
  cases e with
  | selectionTransfer request =>
      obtain ⟨⟨hforwarding, hnew⟩, ht⟩ := Option.ite_none_right_eq_some.mp h
      obtain rfl := Option.some.inj ht
      exact .announced hforwarding hnew
  | forward =>
      obtain ⟨mime, hforwarding, rfl⟩ := Option.map_eq_some_iff.mp h
      exact .forwarded hforwarding
  | ready =>
      obtain rfl := Option.some.inj h
      exact .ready
  | disconnect =>
      obtain rfl := Option.some.inj h
      exact .disconnect
  | formatList formats =>
      obtain rfl := Option.some.inj h
      exact .formatList
  | answerData bytes =>
      obtain ⟨paste, rest, houtstanding, hqueued, rfl⟩ := answer_eq_some h
      exact .answeredData houtstanding hqueued
  | answerFiles files clipDataId =>
      obtain ⟨paste, rest, houtstanding, hqueued, rfl⟩ := answer_eq_some h
      exact .answeredFiles houtstanding hqueued
  | answerError =>
      -- an error is for the oldest paste
      simp only [step] at h
      cases houtstanding : s.outstanding with
      | nil => simp [houtstanding] at h
      | cons paste rest =>
          simp only [houtstanding] at h
          obtain rfl := Option.some.inj h
          exact .answeredError houtstanding
  | handle env =>
      simp only [step] at h
      split at h
      · next event events hclearing hevents =>
          obtain rfl := Option.some.inj h
          exact .handled hclearing hevents
      · cases h
  | clear =>
      obtain ⟨hclearing, ht⟩ := Option.ite_none_right_eq_some.mp h
      obtain rfl := Option.some.inj ht
      exact .cleared hclearing
  | downloadEnds =>
      obtain ⟨serial, hdownload, rfl⟩ := Option.map_eq_some_iff.mp h
      exact .downloaded hdownload

end ClipboardSystem

end LamcoRdp
