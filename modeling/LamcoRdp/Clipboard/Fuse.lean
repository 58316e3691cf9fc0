/-
LamcoRdp/Clipboard/Fuse.lean

Clipboard files on demand: the FUSE reads, the request handler task and
`deliver_file_data`.

A read blocks on a channel of its own.  Its request goes to the handler task, which
keeps the sending end of that channel in `pending_fuse_responses` and asks the
client; the answer takes it out again and unblocks the read.  The map is keyed by
the stream id, and the handler takes the file index for it.  Two requests for one
index, of the same file or of files of two copies, then share an entry: the second
one drops the channel of the first, and the answer to the first goes to the second
(`overlapping_reads_mix`).  Reads get their own bytes exactly in the runs in which
every request finds its file index free (`reads_get_own_bytes_iff`).

A request carries, beside the fields of the source, the number of the copy it is
for; nothing reads it.
-/
import LamcoRdp.Lib.TagTable
import LamcoRdp.Lib.Runs
import Mathlib.Algebra.Group.Nat.Defs

namespace LamcoRdp

open Runs

/-! ### Files and requests -/

/-- Contents, byte by byte. -/
abbrev Bytes := List UInt8

/-- `FileDescriptor` of the FUSE module. -/
structure FuseDescriptor where
  filename : String
  size : ℕ
  deriving DecidableEq, Repr

/-- `VirtualFile`: a file of the client's clipboard, as the file system shows it. -/
structure VirtualFile where
  inode : ℕ
  filename : String
  size : ℕ
  fileIndex : ℕ
  clipDataId : Option ℕ
  /-- which `set_files` call made it -/
  copy : ℕ
  deriving DecidableEq, Repr

/-- `FileContentsRequest`; `responseTx` names the read that waits at the other end
of the channel. -/
structure FileContentsRequest where
  fileIndex : ℕ
  offset : ℕ
  size : ℕ
  clipDataId : Option ℕ
  responseTx : ℕ
  copy : ℕ
  deriving DecidableEq, Repr

/-- How a read ends: with the data or the error that came through its channel, or
with `ENOENT`, or with nothing past the end of the file. -/
inductive ReadOutcome
  | data (bytes : Bytes)
  | rdpError (reason : String)
  /-- "response channel closed" -/
  | channelClosed
  | noEntry
  | pastEnd
  deriving DecidableEq, Repr

/-- `FIRST_FILE_INODE`. -/
def firstFileInode : ℕ := 2

/-! ### The system -/

/-- The file system, the handler task and the client. -/
structure FuseTransfer where
  /-- `ClipboardFs::files` -/
  files : ℕ → Option VirtualFile
  nextInode : ℕ
  /-- the number of `set_files` calls -/
  copy : ℕ
  /-- `server_event_sender` is set -/
  sender : Bool
  /-- the number of reads so far -/
  nextRead : ℕ
  /-- the channel to the handler task -/
  requests : List FileContentsRequest
  /-- `pending_fuse_responses`, and what the client has not answered -/
  responses : TagTable ℕ ℕ FileContentsRequest
  outcome : ℕ → Option ReadOutcome
  /-- every request made by a read -/
  issued : List FileContentsRequest
  /-- the bytes that the client sent, each with the request it answered -/
  answers : List (FileContentsRequest × Bytes)

/-- What the manager, readers and the client do to the transfer. -/
inductive FuseEvent
  /-- `set_files`, called by `prepare_files`: it drops the old files -/
  | clearFiles
  /-- `set_files` goes on with one more descriptor -/
  | insertFile (descriptor : FuseDescriptor) (clipDataId : Option ℕ)
  | read (inode offset size : ℕ)
  /-- the handler task takes a request -/
  | handleRequest
  /-- the client's answer to the `n`-th request that it has not answered, `none`
  for an error, reaches `deliver_file_data` -/
  | deliverFileData (n : ℕ) (response : Option Bytes)
  deriving DecidableEq, Repr

/-- A whole call of `set_files`, undisturbed. -/
def setFiles (descriptors : List FuseDescriptor) (clipDataId : Option ℕ) : List FuseEvent :=
  .clearFiles :: descriptors.map (.insertFile · clipDataId)

namespace FuseTransfer

/-- A transfer before the first copy. -/
def init : FuseTransfer where
  files _ := none
  nextInode := firstFileInode
  copy := 0
  sender := false
  nextRead := 0
  requests := []
  responses := .empty
  outcome _ := none
  issued := []
  answers := []

/-- A channel delivers. -/
def respond (s : FuseTransfer) (reader : ℕ) (outcome : ReadOutcome) : FuseTransfer :=
  { s with outcome := Function.update s.outcome reader (some outcome) }

/-- `set_files` up to its loop: the files of the last copy are gone. -/
def clearFiles (s : FuseTransfer) : FuseTransfer :=
  -- `prepare_files` has stored the sender
  { s with files := fun _ => none, nextInode := firstFileInode, copy := s.copy + 1, sender := true }

/-- A round of the loop of `set_files`: the next inode is given to the next descriptor. -/
def insertFile (s : FuseTransfer) (descriptor : FuseDescriptor) (clipDataId : Option ℕ) :
    FuseTransfer :=
  let file : VirtualFile :=
    { inode := s.nextInode, filename := descriptor.filename, size := descriptor.size,
      fileIndex := (s.nextInode - firstFileInode) % 2 ^ 32, clipDataId := clipDataId,
      copy := s.copy }
  { s with files := Function.update s.files s.nextInode (some file), nextInode := s.nextInode + 1 }

/-- `ClipboardFs::read`, up to where it blocks. -/
def read (s : FuseTransfer) (inode offset size : ℕ) : FuseTransfer :=
  let started := { s with nextRead := s.nextRead + 1 }
  match s.files inode with
  | none => started.respond s.nextRead .noEntry
  | some file =>
      if file.size ≤ offset then started.respond s.nextRead .pastEnd
      else
        let request : FileContentsRequest :=
          { fileIndex := file.fileIndex, offset := offset, size := min size (file.size - offset),
            clipDataId := file.clipDataId, responseTx := s.nextRead, copy := file.copy }
        { started with requests := s.requests ++ [request], issued := s.issued ++ [request] }

/-- The handler task takes a request: "use file_index as stream_id". -/
def handleRequest (s : FuseTransfer) : FuseTransfer :=
  match s.requests with
  | [] => s
  | request :: rest =>
      let taken := { s with requests := rest }
      if s.sender then
        let asked := { taken with
          responses := s.responses.issue (·.fileIndex) (·.responseTx) request }
        match s.responses.asker request.fileIndex with
        -- the insertion drops the channel that stood there
        | some reader => asked.respond reader .channelClosed
        | none => asked
      else taken.respond request.responseTx (.rdpError "RDP not connected")

/-- `deliver_file_data` with the stream id of the request answered. -/
def deliverFileData (s : FuseTransfer) (n : ℕ) (response : Option Bytes) : FuseTransfer :=
  match s.responses.inFlight[n]? with
  | none => s
  | some request =>
      let delivered := { s with
        responses := s.responses.answer n request.fileIndex
        answers := s.answers ++ (response.map fun data => (request, data)).toList }
      match s.responses.asker request.fileIndex with
      | none => delivered
      | some reader =>
          delivered.respond reader (response.elim (.rdpError "RDP error") .data)

/-- What an event does. -/
def step (s : FuseTransfer) : FuseEvent → FuseTransfer
  | .clearFiles => s.clearFiles
  | .insertFile descriptor clipDataId => s.insertFile descriptor clipDataId
  | .read inode offset size => s.read inode offset size
  | .handleRequest => s.handleRequest
  | .deliverFileData n response => s.deliverFileData n response

/-! ### What is to hold -/

/-- A read that returns data returns what the client sent for its file, offset and
size, and no read finds its channel closed. -/
structure OwnBytes (s : FuseTransfer) : Prop where
  own : ∀ request ∈ s.issued, ∀ data, s.outcome request.responseTx = some (.data data) →
    ∃ answer ∈ s.answers, answer.1.copy = request.copy ∧
      answer.1.fileIndex = request.fileIndex ∧ answer.1.offset = request.offset ∧
      answer.1.size = request.size ∧ answer.2 = data
  unclosed : ∀ reader, s.outcome reader ≠ some .channelClosed

/-- A request that the handler task takes finds its file index free: no earlier
request for this index waits for its answer. -/
def IndexFree (s : FuseTransfer) : FuseEvent → Prop
  | .handleRequest =>
      ∀ request ∈ s.requests.head?, s.sender → s.responses.asker request.fileIndex = none
  | _ => True

/-! ### Readers and their requests -/

/-- The map and the client agree on who waits for what, and every read has one
request. -/
structure Matched (s : FuseTransfer) : Prop where
  agrees : s.responses.Agrees (·.fileIndex) (·.responseTx)
  asked : ∀ request ∈ s.responses.inFlight, request ∈ s.issued
  requested : ∀ request ∈ s.requests, request ∈ s.issued
  fresh : ∀ request ∈ s.issued, request.responseTx < s.nextRead
  single : ∀ r ∈ s.issued, ∀ r' ∈ s.issued, r.responseTx = r'.responseTx → r = r'
  unread : ∀ reader, s.nextRead ≤ reader → s.outcome reader = none
  ownBytes : s.OwnBytes

theorem matched_init : init.Matched where
  agrees := TagTable.agrees_empty
  asked := by simp [init, TagTable.empty]
  requested := by simp [init]
  fresh := by simp [init]
  single := by simp [init]
  unread _ _ := rfl
  ownBytes := ⟨by simp [init], by simp [init]⟩

variable {s : FuseTransfer}

/-- A read ends, with what it may end with. -/
theorem Matched.respond (h : s.Matched) {reader : ℕ} {outcome : ReadOutcome}
    (hreader : reader < s.nextRead) (hclosed : outcome ≠ .channelClosed)
    (hown : ∀ request ∈ s.issued, request.responseTx = reader → ∀ data, outcome = .data data →
      (request, data) ∈ s.answers) :
    (s.respond reader outcome).Matched where
  agrees := h.agrees
  asked := h.asked
  requested := h.requested
  fresh := h.fresh
  single := h.single
  -- a reader yet to come has another number
  unread r hr := by
    have hne : r ≠ reader := Nat.ne_of_gt (Nat.lt_of_lt_of_le hreader hr)
    show Function.update s.outcome reader (some outcome) r = none
    rw [Function.update_of_ne hne]
    exact h.unread r hr
  ownBytes :=
    { own := by
        -- the reader that is answered gets the bytes of its own request
        intro request hrequest data hdata
        change Function.update s.outcome reader (some outcome) request.responseTx = _ at hdata
        by_cases hr : request.responseTx = reader
        · rw [hr, Function.update_self] at hdata
          exact ⟨_, hown request hrequest hr data (Option.some.inj hdata), rfl, rfl, rfl, rfl, rfl⟩
        · rw [Function.update_of_ne hr] at hdata
          exact h.ownBytes.own request hrequest data hdata
      unclosed := by
        intro r
        show Function.update s.outcome reader (some outcome) r ≠ _
        by_cases hr : r = reader
        · rw [hr, Function.update_self]
          exact fun he => hclosed (Option.some.inj he)
        · rw [Function.update_of_ne hr]
          exact h.ownBytes.unclosed r }

/-- A read begins. -/
theorem Matched.started (h : s.Matched) : { s with nextRead := s.nextRead + 1 }.Matched where
  agrees := h.agrees
  asked := h.asked
  requested := h.requested
  fresh request hrequest := Nat.lt_succ_of_lt (h.fresh request hrequest)
  single := h.single
  unread reader hreader := h.unread reader (Nat.le_of_succ_le hreader)
  ownBytes := ⟨h.ownBytes.own, h.ownBytes.unclosed⟩

theorem Matched.read (h : s.Matched) (inode offset size : ℕ) : (s.read inode offset size).Matched := by
  unfold FuseTransfer.read
  cases s.files inode with
  | none =>
      exact h.started.respond (Nat.lt_succ_self _) (by simp) (fun _ _ _ data hd => by cases hd)
  | some file =>
      simp only
      split
      · exact h.started.respond (Nat.lt_succ_self _) (by simp) (fun _ _ _ data hd => by cases hd)
      · generalize hrequest : FileContentsRequest.mk _ _ _ _ _ _ = request
        have htx : request.responseTx = s.nextRead := by rw [← hrequest]
        refine
          { agrees := h.agrees, asked := ?_, requested := ?_, fresh := ?_, single := ?_,
            unread := h.started.unread, ownBytes := ⟨?_, h.ownBytes.unclosed⟩ }
        · exact fun r hr => List.mem_append_left _ (h.asked r hr)
        · intro r hr
          rcases List.mem_append.mp hr with hr | hr
          · exact List.mem_append_left _ (h.requested r hr)
          · exact List.mem_append_right _ hr
        · intro r hr
          rcases List.mem_append.mp hr with hr | hr
          · exact Nat.lt_succ_of_lt (h.fresh r hr)
          · rw [List.mem_singleton.mp hr, htx]
            exact Nat.lt_succ_self _
        · -- the number of the new read is larger than those before it
          intro r hr r' hr' heq
          rcases List.mem_append.mp hr with hr | hr <;> rcases List.mem_append.mp hr' with hr' | hr'
          · exact h.single r hr r' hr' heq
          · rw [List.mem_singleton.mp hr', htx] at heq
            exact absurd heq (Nat.ne_of_lt (h.fresh r hr))
          · rw [List.mem_singleton.mp hr, htx] at heq
            exact absurd heq.symm (Nat.ne_of_lt (h.fresh r' hr'))
          · rw [List.mem_singleton.mp hr, List.mem_singleton.mp hr']
        · intro r hr data hdata
          rcases List.mem_append.mp hr with hr | hr
          · exact h.ownBytes.own r hr data hdata
          · rw [List.mem_singleton.mp hr, htx] at hdata
            have hnone := h.unread s.nextRead (Nat.le_refl _)
            change s.outcome s.nextRead = _ at hdata
            rw [hnone] at hdata
            cases hdata

/-- The handler task takes a request whose index is free. -/
theorem Matched.handleRequest (h : s.Matched) (hfree : s.IndexFree .handleRequest) :
    s.handleRequest.Matched := by
  unfold FuseTransfer.handleRequest
  cases hrequests : s.requests with
  | nil => exact h
  | cons request rest =>
      have hissued : request ∈ s.issued := h.requested request (by simp [hrequests])
      have htaken : { s with requests := rest }.Matched :=
        { h with
          requested := fun r hr => h.requested r (by simp [hrequests, hr])
          ownBytes := ⟨h.ownBytes.own, h.ownBytes.unclosed⟩ }
      by_cases hsender : s.sender = true
      · -- a client is connected
        have hnone : s.responses.asker request.fileIndex = none :=
          hfree request (by simp [hrequests]) hsender
        simp only [hsender, if_true, hnone]
        refine
          { htaken with
            agrees := h.agrees.issue hnone
            asked := ?_
            ownBytes := ⟨h.ownBytes.own, h.ownBytes.unclosed⟩ }
        intro r hr
        rcases List.mem_append.mp hr with hr | hr
        · exact h.asked r hr
        · rw [List.mem_singleton.mp hr]
          exact hissued
      · show (if s.sender = true then _ else _ : FuseTransfer).Matched
        rw [if_neg hsender]
        exact htaken.respond (h.fresh request hissued) (by simp) (fun _ _ _ data hd => by cases hd)

/-- An answer arrives. -/
theorem Matched.deliverFileData (h : s.Matched) (n : ℕ) (response : Option Bytes) :
    (s.deliverFileData n response).Matched := by
  unfold FuseTransfer.deliverFileData
  cases hn : s.responses.inFlight[n]? with
  | none => exact h
  | some request =>
      have hflight : request ∈ s.responses.inFlight := List.mem_of_getElem? hn
      have hissued : request ∈ s.issued := h.asked request hflight
      -- the map and the record of answers first, then the read
      have hdelivered : { s with
          responses := s.responses.answer n request.fileIndex
          answers := s.answers ++ (response.map fun data => (request, data)).toList }.Matched := by
        refine
          { h with
            agrees := h.agrees.answer hn
            asked := fun r hr => h.asked r ((List.eraseIdx_sublist _ _).subset hr)
            ownBytes := ⟨?_, h.ownBytes.unclosed⟩ }
        intro r hr data hdata
        obtain ⟨answer, hanswer, hsame⟩ := h.ownBytes.own r hr data hdata
        exact ⟨answer, List.mem_append_left _ hanswer, hsame⟩
      have hasker : s.responses.asker request.fileIndex = some request.responseTx :=
        h.agrees.asker hflight
      simp only [hasker]
      refine hdelivered.respond (h.fresh request hissued) ?_ ?_
      · cases response <;> simp
      · intro r hr htx data hdata
        obtain rfl := h.single r hr request hissued htx
        cases response with
        | none => cases hdata
        | some bytes =>
            obtain rfl : bytes = data := by simpa using hdata
            exact List.mem_append_right _ (by simp)

/-- An event that finds its index free keeps reads and requests matched. -/
theorem Matched.step (h : s.Matched) {e : FuseEvent} (hfree : s.IndexFree e) :
    (s.step e).Matched := by
  cases e with
  | clearFiles => exact { h with ownBytes := ⟨h.ownBytes.own, h.ownBytes.unclosed⟩ }
  | insertFile descriptor clipDataId =>
      exact { h with ownBytes := ⟨h.ownBytes.own, h.ownBytes.unclosed⟩ }
  | read inode offset size => exact h.read inode offset size
  | handleRequest => exact h.handleRequest hfree
  | deliverFileData n response => exact h.deliverFileData n response

/-- A request that finds its index taken closes the channel of the read there. -/
theorem indexFree_of_ownBytes {e : FuseEvent} (h : (s.step e).OwnBytes) : s.IndexFree e := by
  cases e with
  | handleRequest =>
      intro request hrequest hsender
      by_contra hsome
      obtain ⟨reader, hreader⟩ := Option.ne_none_iff_exists'.mp hsome
      obtain ⟨rest, hrest⟩ : ∃ rest, s.requests = request :: rest := by
        cases hcons : s.requests with
        | nil => simp [hcons] at hrequest
        | cons r rest =>
            obtain rfl : r = request := by simpa [hcons] using hrequest
            exact ⟨rest, rfl⟩
      apply h.unclosed reader
      show (s.handleRequest).outcome reader = some .channelClosed
      simp [FuseTransfer.handleRequest, hrest, hsender, hreader, FuseTransfer.respond]
  | _ => trivial

/-- **Reads get their own bytes** exactly in the runs in which every request that
the handler task takes finds its file index free. -/
theorem reads_get_own_bytes_iff (es : List FuseEvent) :
    (∀ n, (after step init es n).OwnBytes) ↔
      ∀ n e, es[n]? = some e → (after step init es n).IndexFree e :=
  after_property_iff matched_init (fun _ h => h.ownBytes) (fun _ _ h hfree => h.step hfree)
    (fun _ _ _ h => indexFree_of_ownBytes h) es

/-- A file of eight bytes is read in two halves, the second before the answer to
the first. -/
def overlappingReads : List FuseEvent :=
  setFiles [⟨"a.txt", 8⟩] (some 1) ++
    [.read 2 0 4, .read 2 4 4, .handleRequest, .handleRequest,
      .deliverFileData 0 (some [1, 2, 3, 4]), .deliverFileData 0 (some [5, 6, 7, 8])]

/-- The first read fails, and the second gets the first half, which the client
never sent for its offset. -/
theorem overlapping_reads_mix :
    (overlappingReads.foldl step init).outcome 0 = some .channelClosed ∧
      (overlappingReads.foldl step init).outcome 1 = some (.data [1, 2, 3, 4]) ∧
      (∀ answer ∈ (overlappingReads.foldl step init).answers,
        answer.1.offset = 4 → answer.2 ≠ [1, 2, 3, 4]) ∧
      ¬ (∀ n, (after step init overlappingReads n).OwnBytes) := by
  refine ⟨by decide, by decide, by decide, fun h => ?_⟩
  exact (h overlappingReads.length).unclosed 0 (by decide)

end FuseTransfer

end LamcoRdp
