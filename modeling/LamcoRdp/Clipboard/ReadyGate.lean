/-
LamcoRdp/Clipboard/ReadyGate.lean

The latch before the server's own requests.

`rdp_ready` says that the clipboard channel is ready.  Until it is, the server may not ask
the client for anything: "server-initiated pulls are illegal before Ready".  The latch
belongs to the event loop.  `RdpReady` and a format list set it, `RdpDisconnect` clears it,
and what the loop sends by itself is sent with the latch set.

The requests for file contents come from elsewhere: from the task behind the FUSE file
system, which holds on to the sender that `prepare_files` once gave it, and from the
staging backend, which goes on where an answer leaves off.  Neither looks at the latch.  So
the pulls are all sent with the latch set exactly in the runs in which none of these has
work to do while it is cleared (`pulls_while_ready_iff`).

Here the loop, the two backends and the channel to the server stand side by side.  The
backend that is not in use has nothing to do.
-/
import LamcoRdp.Clipboard.Orchestrator
import LamcoRdp.Clipboard.Ownership

namespace LamcoRdp

open Runs

/-! ### Pulls -/

/-- The messages that are illegal before the channel is ready. -/
inductive ServerPull
  | initiatePaste (formatId : UInt32)
  | initiateFileCopy (files : List FileDescriptor)
  | fileContentsRequest (request : CliprdrFileContentsRequest)
  deriving DecidableEq, Repr

/-- `SendInitiateCopy` is always legal. -/
def ClipboardMessage.pull? : ClipboardMessage → Option ServerPull
  | .sendInitiateCopy _ => none
  | .sendInitiateFileCopy files => some (.initiateFileCopy files)

/-- The request for the bytes of a read: "use file_index as stream_id". -/
def FileContentsRequest.toCliprdr (request : FileContentsRequest) : CliprdrFileContentsRequest where
  streamId := request.fileIndex
  index := asI32 request.fileIndex
  flags := .range
  position := request.offset
  requestedSize := request.size
  dataId := none

/-- What `prepare_files` of the FUSE backend does to it once it is mounted. -/
def FuseTransfer.prepareFiles (s : FuseTransfer) (descriptors : List TransferFileDescriptor) :
    FuseTransfer :=
  let clipDataId := (descriptors.head?.map (·.clipDataId)).getD 1
  (setFiles (descriptors.map fun d => ⟨d.filename, d.size⟩) (some clipDataId)).foldl
    FuseTransfer.step s

/-- What the handler task asks the client for when it takes a request. -/
def FuseTransfer.asked (s : FuseTransfer) : Option FileContentsRequest :=
  if s.sender then s.requests.head? else none

theorem FuseTransfer.asked_eq_none {s : FuseTransfer} :
    s.asked = none ↔ (s.sender = true → s.requests = []) := by
  unfold asked
  by_cases h : s.sender = true
  · rw [if_pos h, List.head?_eq_none_iff]
    exact ⟨fun hnil _ => hnil, fun hnil => hnil h⟩
  · rw [if_neg h]
    exact iff_of_true rfl fun hsender => absurd hsender h

/-! ### The system -/

/-- The event loop, the backends and the server's event channel. -/
structure PullSystem where
  system : ClipboardSystem
  /-- `local_advertised_formats` -/
  advertised : List ClipboardFormat
  staging : StagingFileTransfer
  fuse : FuseTransfer
  /-- the pulls put on the channel, each with `rdp_ready` as it was then -/
  sent : List (ServerPull × Bool)

/-- The files of `prepare_outgoing_file_copy`, and the streams of the staging backend whose
temporary files cannot be created, come with the steps that ask for them. -/
inductive PullStep
  /-- the forwarder, the bridge, the client and the rest of the loop -/
  | clipboard (e : ClipboardStep)
  /-- the loop handles the next event -/
  | handle (env : Surroundings) (files : Option (List FileDescriptor)) (cannotCreate : ℕ → Bool)
  /-- the loop handles a local copy that `SyncManager` allows -/
  | portalFormatsAvailable (mimeTypes : List Mime) (files : Option (List FileDescriptor))
  /-- the loop hands file contents to the staging backend -/
  | fileContentsResponse (streamId : ℕ) (data : Bytes) (isError : Bool) (io : DeliverIo)
  /-- a program reads from the FUSE file system -/
  | fuseRead (inode offset size : ℕ)
  /-- the FUSE handler task takes a request -/
  | fuseRequest
  /-- the loop hands file contents to the FUSE backend -/
  | fuseResponse (n : ℕ) (response : Option Bytes)

/-- The loop handles an event, which has a step of its own here. -/
def ClipboardStep.isHandle : ClipboardStep → Bool
  | .handle _ => true
  | _ => false

namespace PullSystem

/-- At the start, over any download directory. -/
def init (disk : Disk) : PullSystem where
  system := .init
  advertised := []
  staging := { StagingFileTransfer.new with disk }
  fuse := .init
  sent := []

/-- Pulls go to the server's event channel. -/
def put (s : PullSystem) (pulls : List ServerPull) : PullSystem :=
  { s with sent := s.sent ++ pulls.map fun pull => (pull, s.system.rdpReady) }

variable (core : ClipboardCore) (config : ClipboardConfig)
  (mimeToRdpFormats : List Mime → List ClipboardFormat)

/-- The `prepare_files` call of an event: the descriptors and the serial. -/
def preparedFiles (env : Surroundings) (s : ClipboardSystem) :
    ClipboardEvent → Option (List TransferFileDescriptor × ℕ)
  | .rdpDataResponse _ data =>
      match env.checkContent, s.pending with
      | true, request :: _ =>
          if request.serial = eagerFetchSerial then none
          else (filesOf core request.mime data).map fun files =>
            (transferDescriptors core files 1, request.serial.toNat)
      | _, _ => none
  | .rdpRemoteFileList _ files clipDataId =>
      if config.requiresUpfrontData = false ∨ files = [] then none
      else some (transferDescriptors core files (clipDataId.getD 1), 0)
  | _ => none

/-- `prepare_files` of the backend in use. -/
def prepare (env : Surroundings) (cannotCreate : ℕ → Bool) (s : PullSystem)
    (descriptors : List TransferFileDescriptor) (portalSerial : ℕ) : PullSystem :=
  match config.backend with
  | .staging =>
      let (_, requests, staging) :=
        s.staging.prepareFiles descriptors portalSerial env.available cannotCreate
      { s with staging }.put (requests.map .fileContentsRequest)
  | .fuse _ => if env.available then { s with fuse := s.fuse.prepareFiles descriptors } else s

/-- The formats advertised after an event: a copy of the client takes their place. -/
def advertisedAfter (env : Surroundings) (advertised : List ClipboardFormat) :
    ClipboardEvent → List ClipboardFormat
  | .rdpFormatList formats =>
      if env.shouldSync ∧ ((core.rdpToMimeTypes formats).filter (· ≠ [])).isSome then []
      else advertised
  | _ => advertised

/-- What `RdpReady` announces again. -/
def reannounced (advertised : List ClipboardFormat) (files : Option (List FileDescriptor)) :
    ClipboardEvent → List ServerPull
  | .rdpReady =>
      if advertised = [] then [] else (Ownership.copyMessage advertised files).pull?.toList
  | _ => []

/-- The loop has handled an event: the latch is as the event leaves it. -/
def handled (env : Surroundings) (s : PullSystem) (event : ClipboardEvent) : PullSystem :=
  { s with
    system := s.system.dequeued.handleEvent core config env event
    advertised := advertisedAfter core env s.advertised event }

/-- The pastes that an event sends. -/
def pastes (env : Surroundings) (s : PullSystem) (event : ClipboardEvent) : List Paste :=
  (s.handled core config env event).system.outstanding.drop s.system.outstanding.length

/-- `handle_event`, with everything that it sends. -/
def handleEvent (env : Surroundings) (files : Option (List FileDescriptor))
    (cannotCreate : ℕ → Bool) (s : PullSystem) (event : ClipboardEvent) : PullSystem :=
  let asked := ((s.handled core config env event).put
    ((s.pastes core config env event).map fun paste => .initiatePaste paste.formatId)).put
    (reannounced s.advertised files event)
  match preparedFiles core config env s.system event with
  | some (descriptors, portalSerial) =>
      asked.prepare config env cannotCreate descriptors portalSerial
  | none => asked

/-- `handle_portal_formats`, once the copy is allowed. -/
def handlePortalFormats (s : PullSystem) (mimeTypes : List Mime)
    (files : Option (List FileDescriptor)) : PullSystem :=
  let formats := Ownership.advertisedFormats mimeToRdpFormats mimeTypes
  let s := { s with advertised := formats }
  -- `SendInitiateFileCopy` waits for `RdpReady`
  if s.system.rdpReady then s.put (Ownership.copyMessage formats files).pull?.toList else s

/-- `deliver_file_data` of the staging backend. -/
def deliverFileData (s : PullSystem) (streamId : ℕ) (data : Bytes) (isError : Bool)
    (io : DeliverIo) : PullSystem :=
  let delivery := s.staging.deliverFileData streamId data isError io
  { s with staging := delivery.backend }.put (delivery.requests.map .fileContentsRequest)

/-- One round of the FUSE handler task. -/
def handleFuseRequest (s : PullSystem) : PullSystem :=
  { s with fuse := s.fuse.handleRequest }.put
    (s.fuse.asked.toList.map fun request : FileContentsRequest =>
      .fileContentsRequest request.toCliprdr)

/-- What a step does; the loop handles events one at a time. -/
def step (s : PullSystem) : PullStep → Option PullSystem
  | .clipboard e =>
      if e.isHandle then none
      else (s.system.step core config e).map fun system => { s with system }
  | .handle env files cannotCreate =>
      match s.system.clearing, s.system.events with
      | false, event :: _ => some (s.handleEvent core config env files cannotCreate event)
      | _, _ => none
  | .portalFormatsAvailable mimeTypes files =>
      if s.system.clearing then none
      else some (s.handlePortalFormats mimeToRdpFormats mimeTypes files)
  | .fileContentsResponse streamId data isError io =>
      if s.system.clearing then none else some (s.deliverFileData streamId data isError io)
  | .fuseRead inode offset size => some { s with fuse := s.fuse.read inode offset size }
  | .fuseRequest => some s.handleFuseRequest
  | .fuseResponse n response =>
      if s.system.clearing then none
      else some { s with fuse := s.fuse.deliverFileData n response }

/-! ### What is to hold -/

/-- Every pull was put on the channel while it was ready. -/
def AllReady (s : PullSystem) : Prop := ∀ p ∈ s.sent, p.2 = true

/-- The staging backend is in use, and finds a place for at least one of the files. -/
def Downloads (env : Surroundings) (cannotCreate : ℕ → Bool) (s : PullSystem)
    (descriptors : List TransferFileDescriptor) : Prop :=
  config.backend = .staging ∧ env.available = true ∧
    ∃ p ∈ StagingFileTransfer.streams s.staging.nextStreamId descriptors,
      cannotCreate p.1 = false

/-- The event makes the staging backend download a file. -/
def StartsDownload (env : Surroundings) (cannotCreate : ℕ → Bool) (s : PullSystem)
    (event : ClipboardEvent) : Prop :=
  ∃ call ∈ preparedFiles core config env s.system event,
    s.Downloads config env cannotCreate call.1

/-- While the channel is not ready, nobody who passes the latch by has work to do: no
download is started, or goes on, and no read waits for a handler task that has a sender. -/
def Idle (s : PullSystem) : PullStep → Prop
  | .handle env _ cannotCreate => s.system.rdpReady = true ∨
      ∀ event ∈ s.system.events.head?, ¬ s.StartsDownload core config env cannotCreate event
  | .fileContentsResponse streamId data isError io =>
      s.system.rdpReady = true ∨ ¬ s.staging.Continues streamId data isError io
  | .fuseRequest => s.system.rdpReady = true ∨ (s.fuse.sender = true → s.fuse.requests = [])
  | _ => True

variable {core config mimeToRdpFormats} {s : PullSystem}

/-! ### What a step puts on the channel -/

theorem put_system (s : PullSystem) (pulls : List ServerPull) :
    (s.put pulls).system = s.system := rfl

theorem put_allReady {pulls : List ServerPull} :
    (s.put pulls).AllReady ↔ s.AllReady ∧ (s.system.rdpReady = true ∨ pulls = []) := by
  unfold AllReady put
  simp only [List.mem_append, or_imp, forall_and, List.forall_mem_map]
  refine and_congr_right fun _ => ?_
  cases pulls with
  | nil => exact iff_of_true (fun _ hp => absurd hp List.not_mem_nil) (.inr rfl)
  | cons pull pulls =>
      constructor
      · exact fun h => .inl (h pull List.mem_cons_self)
      · rintro (h | h)
        · exact fun _ _ => h
        · cases h

theorem prepare_allReady (env : Surroundings) (cannotCreate : ℕ → Bool)
    (descriptors : List TransferFileDescriptor) (portalSerial : ℕ) :
    (s.prepare config env cannotCreate descriptors portalSerial).AllReady ↔
      s.AllReady ∧
        (s.system.rdpReady = true ∨ ¬ s.Downloads config env cannotCreate descriptors) := by
  unfold prepare Downloads
  cases config.backend with
  | staging =>
      let prepared := s.staging.prepareFiles descriptors portalSerial env.available cannotCreate
      have hput := @put_allReady { s with staging := prepared.2.2 }
        (prepared.2.1.map .fileContentsRequest)
      rw [List.map_eq_nil_iff, StagingFileTransfer.prepareFiles_requests_eq_nil] at hput
      simp only [true_and]
      exact hput
  | fuse mountPoint =>
      -- FUSE asks for nothing until a file is read
      have hnot : ¬ (FileTransferBackend.fuse mountPoint = .staging ∧ env.available = true ∧
          ∃ p ∈ StagingFileTransfer.streams s.staging.nextStreamId descriptors,
            cannotCreate p.1 = false) := fun h => nomatch h.1
      rw [and_iff_left (.inr hnot)]
      dsimp only
      split <;> rfl

/-- Pastes are sent with the latch set. -/
theorem pastes_ready (env : Surroundings) (event : ClipboardEvent) :
    (s.handled core config env event).system.rdpReady = true ∨
      s.pastes core config env event = [] := by
  obtain ⟨-, pastes, houtstanding, hready⟩ :=
    @ClipboardSystem.handleEvent_pastes core config s.system.dequeued env event
  refine hready.symm.imp_right fun hnil => ?_
  rw [PullSystem.pastes, handled, houtstanding, hnil, List.append_nil]
  exact List.drop_length

/-- So are the files that are announced again. -/
theorem reannounced_ready (env : Surroundings) (files : Option (List FileDescriptor))
    (event : ClipboardEvent) :
    (s.handled core config env event).system.rdpReady = true ∨
      reannounced s.advertised files event = [] := by
  cases event with
  | rdpReady => exact .inl rfl
  | rdpDisconnect | rdpFormatList | rdpDataResponse | rdpDataError | rdpRemoteFileList
  | portalDataRequest => exact .inr rfl

/-- An event with files in it leaves the latch as it is. -/
theorem preparedFiles_latch {env : Surroundings} {event : ClipboardEvent}
    {call : List TransferFileDescriptor × ℕ}
    (h : preparedFiles core config env s.system event = some call) :
    (s.handled core config env event).system.rdpReady = s.system.rdpReady := by
  refine (ClipboardSystem.handleEvent_rdpReady env event).trans ?_
  cases event with
  | rdpDataResponse | rdpRemoteFileList => rfl
  | rdpReady | rdpDisconnect | rdpFormatList | rdpDataError | portalDataRequest => cases h

/-- The orchestrator notes the download that the staging backend is told to start. -/
theorem preparedFiles_download {env : Surroundings} {event : ClipboardEvent}
    {call : List TransferFileDescriptor × ℕ} (hbackend : config.backend = .staging)
    (havailable : env.available = true)
    (h : preparedFiles core config env s.system event = some call) :
    (s.handled core config env event).system.download.map UInt32.toNat = some call.2 := by
  -- the staging backend has no file ready at once
  have hpending : ∀ descriptors,
      config.backend.prepareFiles env.available descriptors = .pending := by
    intro descriptors
    rw [hbackend, havailable]
    rfl
  have hqueue : s.system.dequeued.pending = s.system.pending := rfl
  cases event with
  | rdpDataResponse paste data =>
      simp only [preparedFiles] at h
      split at h
      · next hcheck hrequests =>
          obtain ⟨hserial, hcall⟩ := Option.ite_none_left_eq_some.mp h
          obtain ⟨files, hfiles, rfl⟩ := Option.map_eq_some_iff.mp hcall
          simp only [handled, ClipboardSystem.handleEvent, ClipboardSystem.handleRdpDataResponse,
            hcheck, Bool.true_eq_false, if_false, hqueue, hrequests, if_neg hserial, hfiles,
            ClipboardSystem.deliverFiles, hpending]
          rfl
      · cases h
  | rdpRemoteFileList paste files clipDataId =>
      obtain ⟨hskip, hcall⟩ := Option.ite_none_left_eq_some.mp h
      obtain rfl := Option.some.inj hcall
      simp only [handled, ClipboardSystem.handleEvent, ClipboardSystem.handleRdpRemoteFileList,
        if_neg hskip, hpending]
      rfl
  | rdpReady | rdpDisconnect | rdpFormatList | rdpDataError | portalDataRequest => cases h

theorem handleEvent_allReady (env : Surroundings) (files : Option (List FileDescriptor))
    (cannotCreate : ℕ → Bool) (event : ClipboardEvent) :
    (s.handleEvent core config env files cannotCreate event).AllReady ↔
      s.AllReady ∧ (s.system.rdpReady = true ∨
        ¬ s.StartsDownload core config env cannotCreate event) := by
  -- what the loop sends by itself
  set asked := ((s.handled core config env event).put
    ((s.pastes core config env event).map fun paste => .initiatePaste paste.formatId)).put
    (reannounced s.advertised files event) with hasked
  have hown : asked.AllReady ↔ s.AllReady := by
    rw [hasked, put_allReady, put_system, put_allReady, List.map_eq_nil_iff,
      and_iff_left (reannounced_ready env files event), and_iff_left (pastes_ready env event)]
    rfl
  unfold handleEvent StartsDownload
  rw [← hasked]
  cases hcall : preparedFiles core config env s.system event with
  | none =>
      refine hown.trans (and_iff_left (.inr ?_)).symm
      rintro ⟨call, hmem, -⟩
      cases hmem
  | some call =>
      have hlatch : asked.system.rdpReady = s.system.rdpReady := preparedFiles_latch hcall
      refine (prepare_allReady env cannotCreate call.1 call.2).trans ?_
      rw [hown, hlatch]
      refine and_congr_right fun _ => or_congr_right (not_congr ?_)
      simp only [Option.mem_def, Option.some.injEq, exists_eq_left']
      rfl

theorem handlePortalFormats_allReady (mimeTypes : List Mime)
    (files : Option (List FileDescriptor)) :
    (s.handlePortalFormats mimeToRdpFormats mimeTypes files).AllReady ↔ s.AllReady := by
  unfold handlePortalFormats
  dsimp only
  split
  · next hready => exact put_allReady.trans (and_iff_left (.inl hready))
  · rfl

/-- A copy that is allowed is announced here as it is in the account of the ownership. -/
theorem handlePortalFormats_ownership {rdpFormatToMime : UInt32 → Option Mime} {o : Ownership}
    {mimeTypes : List Mime} {force loop : Bool} {now : ℕ} (announces : Bool)
    (files : Option (List FileDescriptor))
    (hallow : (o.sync.handlePortalFormats mimeTypes force loop now).1 = .allow)
    (hready : o.rdpReady = s.system.rdpReady) (hsent : o.sent = []) :
    let o' := o.handlePortalFormats rdpFormatToMime mimeToRdpFormats mimeTypes force loop now
      announces files
    (s.handlePortalFormats mimeToRdpFormats mimeTypes files).advertised = o'.advertised ∧
      (s.handlePortalFormats mimeToRdpFormats mimeTypes files).sent = s.sent ++
        (o'.sent.filterMap ClipboardMessage.pull?).map fun pull => (pull, s.system.rdpReady) := by
  rcases hdecision : o.sync.handlePortalFormats mimeTypes force loop now with ⟨decision, sync⟩
  obtain rfl : decision = .allow := by
    rw [hdecision] at hallow
    exact hallow
  simp only [Ownership.handlePortalFormats, hdecision, handlePortalFormats, hready, hsent]
  by_cases h : s.system.rdpReady = true
  · rw [if_pos h, if_pos h]
    refine ⟨rfl, ?_⟩
    rw [List.nil_append, put, List.filterMap_cons]
    cases (Ownership.copyMessage _ files).pull? <;> rfl
  · rw [if_neg h, if_neg h]
    exact ⟨rfl, (List.append_nil _).symm⟩

/-- A step keeps the pulls in order exactly if nobody passes the latch by. -/
theorem step_allReady {e : PullStep} {t : PullSystem}
    (h : s.step core config mimeToRdpFormats e = some t) :
    t.AllReady ↔ s.AllReady ∧ s.Idle core config e := by
  cases e with
  | clipboard e =>
      -- only the loop sends, when it handles an event
      obtain ⟨-, ht⟩ := Option.ite_none_left_eq_some.mp h
      obtain ⟨system, -, rfl⟩ := Option.map_eq_some_iff.mp ht
      exact (and_iff_left trivial).symm
  | handle env files cannotCreate =>
      unfold step at h
      dsimp only at h
      split at h
      · next event events hclearing hevents =>
          obtain rfl := Option.some.inj h
          rw [handleEvent_allReady, Idle, hevents]
          simp only [List.head?_cons, Option.mem_def, Option.some.injEq, forall_eq']
      · cases h
  | portalFormatsAvailable mimeTypes files =>
      obtain ⟨-, ht⟩ := Option.ite_none_left_eq_some.mp h
      obtain rfl := Option.some.inj ht
      exact (handlePortalFormats_allReady mimeTypes files).trans (and_iff_left trivial).symm
  | fileContentsResponse streamId data isError io =>
      obtain ⟨-, ht⟩ := Option.ite_none_left_eq_some.mp h
      obtain rfl := Option.some.inj ht
      refine put_allReady.trans (and_congr_right fun _ => or_congr_right ?_)
      rw [List.map_eq_nil_iff, StagingFileTransfer.deliver_requests_eq_nil]
  | fuseRead inode offset size =>
      obtain rfl := Option.some.inj h
      exact (and_iff_left trivial).symm
  | fuseRequest =>
      obtain rfl := Option.some.inj h
      refine put_allReady.trans (and_congr_right fun _ => or_congr_right ?_)
      rw [List.map_eq_nil_iff, Option.toList_eq_nil_iff, FuseTransfer.asked_eq_none]
  | fuseResponse n response =>
      obtain ⟨-, ht⟩ := Option.ite_none_left_eq_some.mp h
      obtain rfl := Option.some.inj ht
      exact (and_iff_left trivial).symm

/-! ### Runs -/

/-- The pulls of a run are all put on the channel while it is ready exactly if, while it is
not, nobody who passes the latch by has work to do. -/
theorem pulls_while_ready_iff {disk : Disk} {es : List PullStep} {t : PullSystem}
    (h : Run (StepOf (step core config mimeToRdpFormats)) (init disk) es t) :
    (∀ p ∈ t.sent, p.2 = true) ↔
      Run (Guarded (StepOf (step core config mimeToRdpFormats)) (Idle core config))
        (init disk) es t :=
  h.iff_guarded (P := AllReady) (fun _ hp => absurd hp List.not_mem_nil)
    fun _ hst => step_allReady hst

/-- A clipboard library that knows files. -/
def fileCore : ClipboardCore :=
  { ClipboardCore.plain with
    formatNameToMime := formatNameToMime
    rdpToMimeTypes formats := some (rdpToMimeTypes (fun _ => none) formats) }

/-- A provider that needs its data up front, and FUSE. -/
def fuseConfig : ClipboardConfig := ⟨.fuse "/run/user/1000/lamco", true⟩

/-- An empty directory. -/
def noFiles : Disk where
  entries _ := none
  contents _ := []
  next := 0

/-- The loop handles an event, and everything succeeds. -/
def handleNext : PullStep := .handle .smooth none fun _ => false

/-- The client copies a file of ten bytes, and the server has the list of its files. -/
def fileCopied : List PullStep :=
  [.clipboard (.formatList [⟨0xC000, some "FileGroupDescriptorW"⟩]), handleNext,
    .clipboard (.answerFiles [⟨"a", some 10⟩] none), handleNext]

/-- The file is read. -/
def fileRead : List PullStep := [.fuseRead 2 0 10, .fuseRequest]

/-- What the read asks for. -/
def wholeFile : CliprdrFileContentsRequest where
  streamId := 0
  index := 0
  flags := .range
  position := 0
  requestedSize := 10
  dataId := none

/-- While the client is there, the list and the file are asked for with the latch set. -/
theorem pulls_while_ready_read :
    ∃ t, Run (Guarded (StepOf (step fileCore fuseConfig fun _ => [])) (Idle fileCore fuseConfig))
        (init noFiles) (fileCopied ++ fileRead) t ∧
      t.sent = [(.initiatePaste 0xC000, true), (.fileContentsRequest wholeFile, true)] := by
  obtain ⟨t, hrun, hsent⟩ : ∃ t,
      Run (StepOf (step fileCore fuseConfig fun _ => [])) (init noFiles)
        (fileCopied ++ fileRead) t ∧
      t.sent = [(.initiatePaste 0xC000, true), (.fileContentsRequest wholeFile, true)] :=
    Run.exists_of_foldlM PullSystem.sent (by decide)
  refine ⟨t, (pulls_while_ready_iff hrun).mp fun p hp => ?_, hsent⟩
  rw [hsent] at hp
  revert p
  decide

/-- The client goes away, and its file is read. -/
def readAfterDisconnect : List PullStep :=
  fileCopied ++ [.clipboard .disconnect, handleNext] ++ fileRead

/-- The FUSE handler still has the sender, and asks a client that is gone. -/
theorem read_after_disconnect_pulls :
    ∃ t, Run (StepOf (step fileCore fuseConfig fun _ => [])) (init noFiles) readAfterDisconnect t ∧
      t.sent = [(.initiatePaste 0xC000, true), (.fileContentsRequest wholeFile, false)] ∧
      ¬ ∀ p ∈ t.sent, p.2 = true := by
  obtain ⟨t, hrun, hsent⟩ : ∃ t,
      Run (StepOf (step fileCore fuseConfig fun _ => [])) (init noFiles) readAfterDisconnect t ∧
      t.sent = [(.initiatePaste 0xC000, true), (.fileContentsRequest wholeFile, false)] :=
    Run.exists_of_foldlM PullSystem.sent (by decide)
  refine ⟨t, hrun, hsent, fun h => ?_⟩
  rw [hsent] at h
  exact absurd (h _ (List.mem_cons_of_mem _ List.mem_cons_self)) Bool.false_ne_true

end PullSystem

end LamcoRdp
