/-
LamcoRdp/Clipboard/Staging.lean

The staging backend: `StagingFileTransfer`, which downloads the files of a copy before
it announces them.

`prepare_files` opens a temporary file for each descriptor and asks for its first
chunk; `deliver_file_data` writes an answer to the file of its stream, asks for the
next chunk or gives the file its name, and reports when no file is left.  What the
system calls answer is an input here, so that every failure can be played through.

An answer belongs to the latest `prepare_files` call if its stream id is one of that
call.  One that does not leaves the transfer alone, unless it is an error: then it
ends the current transfer, whose serial it takes (`foreign_answers_iff`).
-/
import LamcoRdp.Clipboard.Conversion
import Mathlib.Data.List.AList

namespace LamcoRdp

open Runs

/-! ### The download directory -/

/-- The directory: names lead to files, and a file that is open stays when its name
goes.  Names are those within the download directory. -/
structure Disk where
  entries : String → Option ℕ
  contents : ℕ → Bytes
  /-- the next file to be made -/
  next : ℕ

namespace Disk

/-- `File::create`; nobody has an old file of that name open. -/
def create (disk : Disk) (path : String) : ℕ × Disk :=
  (disk.next,
    { entries := Function.update disk.entries path (some disk.next)
      contents := Function.update disk.contents disk.next []
      next := disk.next + 1 })

/-- The content after a write at a position. -/
def overwrite (old : Bytes) (position : ℕ) (data : Bytes) : Bytes :=
  old.take position ++ List.replicate (position - old.length) 0 ++ data
    ++ old.drop (position + data.length)

/-- A write at the end. -/
theorem overwrite_end (old data : Bytes) : overwrite old old.length data = old ++ data := by
  simp [overwrite]

/-- Bytes written into a file at a position. -/
def write (disk : Disk) (file position : ℕ) (data : Bytes) : Disk :=
  { disk with
    contents := Function.update disk.contents file
      (overwrite (disk.contents file) position data) }

/-- `rename`: the target loses the file that it had. -/
def rename (disk : Disk) (source target : String) : Option Disk :=
  (disk.entries source).map fun file =>
    { disk with
      entries := Function.update (Function.update disk.entries source none) target (some file) }

/-- `remove_file`: the file that is open stays as it is. -/
def remove (disk : Disk) (path : String) : Disk :=
  { disk with entries := Function.update disk.entries path none }

/-- What is found under a name. -/
def read (disk : Disk) (path : String) : Option Bytes := (disk.entries path).map disk.contents

end Disk

/-! ### Requests and events -/

/-- What a request asks for. -/
inductive FileContentsFlags
  | size
  | range
  deriving DecidableEq, Repr

/-- `CliprdrFileContentsRequest`. -/
structure CliprdrFileContentsRequest where
  streamId : ℕ
  index : ℤ
  flags : FileContentsFlags
  position : ℕ
  requestedSize : ℕ
  dataId : Option ℕ
  deriving DecidableEq, Repr

/-- The cast of a `u32` to `i32`. -/
def asI32 (n : ℕ) : ℤ := (n : ℤ).bmod (2 ^ 32)

/-- What the backend tells the manager at the end of a transfer. -/
inductive FileTransferEvent
  | filesReady (paths : List String) (portalSerial : ℕ)
  | transferFailed (reason : String) (portalSerial : ℕ)
  deriving DecidableEq, Repr

/-- `ClipboardError`, the two kinds that a download meets. -/
inductive ClipboardError
  | fileIoError (message : String)
  | invalidState (message : String)
  deriving DecidableEq, Repr

/-! ### The backend -/

/-- `MAX_CHUNK_SIZE`. -/
def maxChunkSize : ℕ := 64 * 1024 * 1024

/-- `IncomingFile`: a download under way. -/
structure IncomingFile where
  filename : String
  totalSize : ℕ
  receivedSize : ℕ
  tempPath : String
  /-- `file_handle`: the open file, and the position in it -/
  file : ℕ
  position : ℕ
  fileIndex : ℕ
  deriving DecidableEq, Repr

/-- `StagingFileTransfer` and its state. -/
structure StagingFileTransfer where
  incomingFiles : AList fun _ : ℕ => IncomingFile
  portalSerial : Option ℕ
  completedFiles : List String
  /-- `server_event_sender` is set -/
  sender : Bool
  nextStreamId : UInt32
  disk : Disk

/-- What the system calls of an answer return: the error of the write and how much it
wrote before it, and the errors of the flush and of the rename. -/
structure DeliverIo where
  write : Option (String × ℕ)
  flush : Option String
  rename : Option String
  deriving DecidableEq, Repr

/-- Every call succeeds. -/
def DeliverIo.ok : DeliverIo := { write := none, flush := none, rename := none }

/-- What `deliver_file_data` returns, and what it sends on the way. -/
structure Delivery where
  result : Except ClipboardError Unit
  requests : List CliprdrFileContentsRequest
  events : List FileTransferEvent
  backend : StagingFileTransfer

namespace StagingFileTransfer

/-- `StagingFileTransfer::new`, on an empty directory. -/
def new : StagingFileTransfer where
  incomingFiles := ∅
  portalSerial := none
  completedFiles := []
  sender := false
  nextStreamId := 1
  disk := { entries := fun _ => none, contents := fun _ => [], next := 0 }

/-- `clear_incoming`. -/
def clearIncoming (s : StagingFileTransfer) : StagingFileTransfer :=
  { s with incomingFiles := ∅, portalSerial := none, completedFiles := [] }

/-- The name of a file until it is complete. -/
def tempName (filename : String) (streamId : ℕ) : String :=
  "." ++ filename ++ "." ++ toString streamId ++ ".tmp"

/-- The request that opens the download of a file: its first chunk. -/
def firstRequest (d : TransferFileDescriptor) (streamId : ℕ) : CliprdrFileContentsRequest where
  streamId := streamId
  index := asI32 d.fileIndex
  flags := .range
  position := 0
  requestedSize := if 0 < d.size then min d.size maxChunkSize else maxChunkSize
  dataId := none

/-- One descriptor; the temporary file of some streams cannot be created. -/
def prepareFile (cannotCreate : ℕ → Bool) (s : StagingFileTransfer)
    (d : TransferFileDescriptor) : List CliprdrFileContentsRequest × StagingFileTransfer :=
  let streamId := s.nextStreamId.toNat
  let s := { s with nextStreamId := s.nextStreamId + 1 }
  if cannotCreate streamId then ([], s)
  else
    let tempPath := tempName d.filename streamId
    let (file, disk) := s.disk.create tempPath
    let incoming : IncomingFile :=
      { filename := d.filename, totalSize := d.size, receivedSize := 0, tempPath, file
        position := 0, fileIndex := d.fileIndex }
    ([firstRequest d streamId],
      { s with disk, incomingFiles := s.incomingFiles.insert streamId incoming })

/-- The loop over the descriptors. -/
def prepareEach (cannotCreate : ℕ → Bool) (s : StagingFileTransfer) :
    List TransferFileDescriptor → List CliprdrFileContentsRequest × StagingFileTransfer
  | [] => ([], s)
  | d :: ds =>
      let (request, s) := s.prepareFile cannotCreate d
      let (requests, s) := prepareEach cannotCreate s ds
      (request ++ requests, s)

/-- `prepare_files`; `createDir` says that there is a download directory. -/
def prepareFiles (s : StagingFileTransfer) (descriptors : List TransferFileDescriptor)
    (portalSerial : ℕ) (createDir : Bool) (cannotCreate : ℕ → Bool) :
    PrepareResult × List CliprdrFileContentsRequest × StagingFileTransfer :=
  let s := { s.clearIncoming with portalSerial := some portalSerial, sender := true }
  if !createDir then (.failed, [], s)
  else
    let (requests, s) := s.prepareEach cannotCreate descriptors
    (.pending, requests, s)

/-- The error branch of `deliver_file_data`. -/
def deliverError (s : StagingFileTransfer) (streamId : ℕ) : Delivery :=
  let disk := match s.incomingFiles.lookup streamId with
    | some file => s.disk.remove file.tempPath
    | none => s.disk
  { result := .ok ()
    requests := []
    events := s.portalSerial.toList.map fun serial =>
      .transferFailed ("RDP error on stream " ++ toString streamId) serial
    backend :=
      { s with
        disk, incomingFiles := s.incomingFiles.erase streamId, portalSerial := none } }

/-- The file is complete: it gets its name, and the last one is reported. -/
def finalize (s : StagingFileTransfer) (io : DeliverIo) (streamId : ℕ) (file : IncomingFile) :
    Delivery :=
  match io.flush with
  | some e => ⟨.error (.fileIoError ("Failed to flush file: " ++ e)), [], [], s⟩
  | none =>
      let s := { s with
        completedFiles := s.completedFiles ++ [file.filename]
        incomingFiles := s.incomingFiles.erase streamId }
      match io.rename, s.disk.rename file.tempPath file.filename with
      | some e, _ => ⟨.error (.fileIoError ("Failed to finalize file: " ++ e)), [], [], s⟩
      | none, none =>
          ⟨.error (.fileIoError "Failed to finalize file: No such file or directory (os error 2)"),
            [], [], s⟩
      | none, some disk =>
          let s := { s with disk }
          if s.incomingFiles.keys = [] then
            ⟨.ok (), [], s.portalSerial.toList.map fun serial =>
                .filesReady s.completedFiles serial,
              { s with completedFiles := [], portalSerial := none }⟩
          else ⟨.ok (), [], [], s⟩

/-- The request for the next chunk of a file. -/
def nextRequest (file : IncomingFile) (streamId : ℕ) : CliprdrFileContentsRequest where
  streamId := streamId
  index := asI32 file.fileIndex
  flags := .range
  position := file.receivedSize
  requestedSize := min (file.totalSize - file.receivedSize) maxChunkSize
  dataId := none

theorem maxChunkSize_pos : 0 < maxChunkSize := by decide

theorem nextRequest_pos {file : IncomingFile} (h : file.receivedSize < file.totalSize)
    (streamId : ℕ) : 0 < (nextRequest file streamId).requestedSize :=
  Nat.lt_min.mpr ⟨Nat.sub_pos_of_lt h, maxChunkSize_pos⟩

/-- No more is asked for than there is. -/
theorem nextRequest_le {file : IncomingFile} (h : file.receivedSize ≤ file.totalSize)
    (streamId : ℕ) :
    file.receivedSize + (nextRequest file streamId).requestedSize ≤ file.totalSize :=
  Nat.add_le_of_le_sub' h (Nat.min_le_left _ _)

/-- The handle after some bytes were written through it. -/
def writeThrough (s : StagingFileTransfer) (streamId : ℕ) (file : IncomingFile) (data : Bytes)
    (received : ℕ) : StagingFileTransfer × IncomingFile :=
  let disk := s.disk.write file.file file.position data
  let file := { file with
    position := file.position + data.length, receivedSize := file.receivedSize + received }
  ({ s with disk, incomingFiles := s.incomingFiles.insert streamId file }, file)

/-- `deliver_file_data`. -/
def deliverFileData (s : StagingFileTransfer) (streamId : ℕ) (data : Bytes) (isError : Bool)
    (io : DeliverIo) : Delivery :=
  if isError then s.deliverError streamId
  else
    match s.incomingFiles.lookup streamId with
    | none => ⟨.ok (), [], [], s⟩
    | some file =>
        match io.write with
        | some (e, written) =>
            let (s, _) := s.writeThrough streamId file (data.take written) 0
            ⟨.error (.fileIoError ("File write failed: " ++ e)), [], [], s⟩
        | none =>
            let (s, file) := s.writeThrough streamId file data data.length
            if 0 < file.totalSize ∧ file.totalSize ≤ file.receivedSize then
              s.finalize io streamId file
            else if 0 < file.totalSize ∧ s.sender then
              ⟨.ok (), [nextRequest file streamId], [], s⟩
            else ⟨.ok (), [], [], s⟩

/-! ### One descriptor, one answer -/

/-- The streams of a call, one for each descriptor. -/
def streams (next : UInt32) : List TransferFileDescriptor → List (ℕ × TransferFileDescriptor)
  | [] => []
  | d :: ds => (next.toNat, d) :: streams (next + 1) ds

theorem prepareFile_skipped {cannotCreate : ℕ → Bool} {s : StagingFileTransfer}
    {d : TransferFileDescriptor} (h : cannotCreate s.nextStreamId.toNat = true) :
    s.prepareFile cannotCreate d =
      ([], { s with nextStreamId := s.nextStreamId + 1 }) := if_pos h

theorem prepareFile_created {cannotCreate : ℕ → Bool} {s : StagingFileTransfer}
    {d : TransferFileDescriptor} (h : ¬ cannotCreate s.nextStreamId.toNat = true) :
    s.prepareFile cannotCreate d =
      ([firstRequest d s.nextStreamId.toNat],
        { s with
          nextStreamId := s.nextStreamId + 1
          disk := (s.disk.create (tempName d.filename s.nextStreamId.toNat)).2
          incomingFiles := s.incomingFiles.insert s.nextStreamId.toNat
            { filename := d.filename, totalSize := d.size, receivedSize := 0
              tempPath := tempName d.filename s.nextStreamId.toNat
              file := (s.disk.create (tempName d.filename s.nextStreamId.toNat)).1
              position := 0, fileIndex := d.fileIndex } }) := if_neg h

theorem prepareFile_next (cannotCreate : ℕ → Bool) (s : StagingFileTransfer)
    (d : TransferFileDescriptor) :
    (s.prepareFile cannotCreate d).2.nextStreamId = s.nextStreamId + 1 := by
  by_cases h : cannotCreate s.nextStreamId.toNat = true
  · rw [prepareFile_skipped h]
  · rw [prepareFile_created h]

theorem prepareFile_incoming {cannotCreate : ℕ → Bool} {s : StagingFileTransfer}
    {d : TransferFileDescriptor} {id : ℕ}
    (hid : id ∈ (s.prepareFile cannotCreate d).2.incomingFiles) :
    id = s.nextStreamId.toNat ∨ id ∈ s.incomingFiles := by
  by_cases h : cannotCreate s.nextStreamId.toNat = true
  · rw [prepareFile_skipped h] at hid
    exact .inr hid
  · rw [prepareFile_created h] at hid
    exact (AList.mem_insert _).mp hid

theorem prepareEach_cons (cannotCreate : ℕ → Bool) (s : StagingFileTransfer)
    (d : TransferFileDescriptor) (ds : List TransferFileDescriptor) :
    s.prepareEach cannotCreate (d :: ds) =
      ((s.prepareFile cannotCreate d).1 ++
          ((s.prepareFile cannotCreate d).2.prepareEach cannotCreate ds).1,
        ((s.prepareFile cannotCreate d).2.prepareEach cannotCreate ds).2) := rfl

/-- The files that a call awaits are on the streams it took. -/
theorem prepareEach_incoming {cannotCreate : ℕ → Bool} {ds : List TransferFileDescriptor}
    {s : StagingFileTransfer} {id : ℕ}
    (h : id ∈ (s.prepareEach cannotCreate ds).2.incomingFiles) :
    id ∈ (streams s.nextStreamId ds).map Prod.fst ∨ id ∈ s.incomingFiles := by
  induction ds generalizing s with
  | nil => exact .inr h
  | cons d ds ih =>
      rw [prepareEach_cons] at h
      rcases ih h with h | h
      · rw [prepareFile_next] at h
        exact .inl (List.mem_cons_of_mem _ h)
      · rcases prepareFile_incoming h with rfl | h
        · exact .inl List.mem_cons_self
        · exact .inr h

/-- A call asks for nothing exactly if none of its files can be created. -/
theorem prepareEach_requests_eq_nil {cannotCreate : ℕ → Bool} {ds : List TransferFileDescriptor}
    {s : StagingFileTransfer} :
    (s.prepareEach cannotCreate ds).1 = [] ↔
      ∀ p ∈ streams s.nextStreamId ds, cannotCreate p.1 = true := by
  induction ds generalizing s with
  | nil => exact ⟨fun _ p hp => absurd hp List.not_mem_nil, fun _ => rfl⟩
  | cons d ds ih =>
      rw [prepareEach_cons, List.append_eq_nil_iff, ih, prepareFile_next, streams,
        List.forall_mem_cons]
      refine and_congr_left fun _ => ?_
      by_cases h : cannotCreate s.nextStreamId.toNat = true
      · rw [prepareFile_skipped h]
        exact iff_of_true rfl h
      · rw [prepareFile_created h]
        exact iff_of_false (List.cons_ne_nil _ _) h

theorem prepareFiles_requests_eq_nil {s : StagingFileTransfer} {ds : List TransferFileDescriptor}
    {portalSerial : ℕ} {createDir : Bool} {cannotCreate : ℕ → Bool} :
    (s.prepareFiles ds portalSerial createDir cannotCreate).2.1 = [] ↔
      ¬ (createDir = true ∧ ∃ p ∈ streams s.nextStreamId ds, cannotCreate p.1 = false) := by
  cases createDir with
  | false => exact iff_of_true rfl fun h => Bool.noConfusion h.1
  | true =>
      refine prepareEach_requests_eq_nil.trans ?_
      simp only [true_and, not_exists, not_and, Bool.not_eq_false]
      rfl

section

variable {s : StagingFileTransfer} {streamId : ℕ} {data : Bytes} {io : DeliverIo}
  {file : IncomingFile}

theorem deliver_unknown (h : s.incomingFiles.lookup streamId = none) :
    s.deliverFileData streamId data false io = ⟨.ok (), [], [], s⟩ := by
  simp [deliverFileData, h]

theorem deliver_writeError {e : String} {written : ℕ}
    (h : s.incomingFiles.lookup streamId = some file) (hw : io.write = some (e, written)) :
    s.deliverFileData streamId data false io =
      ⟨.error (.fileIoError ("File write failed: " ++ e)), [], [],
        (s.writeThrough streamId file (data.take written) 0).1⟩ := by
  simp [deliverFileData, h, hw]

/-- The answer that completes its file. -/
theorem deliver_complete (h : s.incomingFiles.lookup streamId = some file)
    (hw : io.write = none) (hsize : 0 < file.totalSize)
    (hall : file.totalSize ≤ file.receivedSize + data.length) :
    s.deliverFileData streamId data false io =
      (s.writeThrough streamId file data data.length).1.finalize io streamId
        (s.writeThrough streamId file data data.length).2 := by
  simp only [deliverFileData, h, hw]
  have hdone : 0 < file.totalSize ∧ file.totalSize ≤ file.receivedSize + data.length :=
    ⟨hsize, hall⟩
  exact if_pos hdone

/-- The answer after which there is more to come. -/
theorem deliver_more (h : s.incomingFiles.lookup streamId = some file)
    (hw : io.write = none) (hall : ¬ (0 < file.totalSize ∧
      file.totalSize ≤ file.receivedSize + data.length)) :
    s.deliverFileData streamId data false io =
      ⟨.ok (),
        if 0 < file.totalSize ∧ s.sender then
          [nextRequest (s.writeThrough streamId file data data.length).2 streamId] else [],
        [], (s.writeThrough streamId file data data.length).1⟩ := by
  simp only [deliverFileData, h, hw]
  refine (if_neg hall).trans ?_
  by_cases hn : 0 < file.totalSize ∧ s.sender = true
  · exact (if_pos hn).trans (by rw [if_pos hn])
  · exact (if_neg hn).trans (by rw [if_neg hn])

theorem writeThrough_incoming {n id : ℕ} (hmem : streamId ∈ s.incomingFiles)
    (h : id ∈ (s.writeThrough streamId file data n).1.incomingFiles) : id ∈ s.incomingFiles := by
  rcases (AList.mem_insert _).mp h with rfl | h
  · exact hmem
  · exact h

theorem finalize_incoming (s : StagingFileTransfer) (io : DeliverIo) (streamId : ℕ)
    (file : IncomingFile) :
    (s.finalize io streamId file).backend.incomingFiles = s.incomingFiles ∨
      (s.finalize io streamId file).backend.incomingFiles = s.incomingFiles.erase streamId := by
  unfold finalize
  split
  · exact .inl rfl
  · dsimp only
    split
    · exact .inr rfl
    · exact .inr rfl
    · split
      · exact .inr rfl
      · exact .inr rfl

theorem finalize_events (s : StagingFileTransfer) (io : DeliverIo) (streamId : ℕ)
    (file : IncomingFile) :
    ((s.finalize io streamId file).events = [] ∧
        (s.finalize io streamId file).backend.portalSerial = s.portalSerial) ∨
      ∃ event, (s.finalize io streamId file).events = [event] ∧ s.portalSerial ≠ none ∧
        (s.finalize io streamId file).backend.portalSerial = none := by
  unfold finalize
  split
  · exact .inl ⟨rfl, rfl⟩
  · dsimp only
    split
    · exact .inl ⟨rfl, rfl⟩
    · exact .inl ⟨rfl, rfl⟩
    · split
      · rcases hs : s.portalSerial with - | serial
        · exact .inl ⟨rfl, rfl⟩
        · exact .inr ⟨_, rfl, by simp, rfl⟩
      · exact .inl ⟨rfl, rfl⟩

theorem finalize_missing (h : s.disk.entries file.tempPath = none) :
    s.finalize .ok streamId file =
      ⟨.error (.fileIoError "Failed to finalize file: No such file or directory (os error 2)"),
        [], [], { s with
          completedFiles := s.completedFiles ++ [file.filename]
          incomingFiles := s.incomingFiles.erase streamId }⟩ := by
  simp [finalize, DeliverIo.ok, Disk.rename, h]

theorem finalize_renamed {k : ℕ} (h : s.disk.entries file.tempPath = some k) :
    s.finalize .ok streamId file =
      let s' := { s with
        completedFiles := s.completedFiles ++ [file.filename]
        incomingFiles := s.incomingFiles.erase streamId
        disk := { s.disk with
          entries := Function.update (Function.update s.disk.entries file.tempPath none)
            file.filename (some k) } }
      if (s.incomingFiles.erase streamId).keys = [] then
        ⟨.ok (), [], s.portalSerial.toList.map fun serial =>
            .filesReady (s.completedFiles ++ [file.filename]) serial,
          { s' with completedFiles := [], portalSerial := none }⟩
      else ⟨.ok (), [], [], s'⟩ := by
  simp [finalize, DeliverIo.ok, Disk.rename, h]

/-- Whatever the rename comes to, the file is no longer awaited. -/
theorem finalize_ok (s : StagingFileTransfer) (streamId : ℕ) (file : IncomingFile) :
    (s.finalize .ok streamId file).requests = [] ∧
      (s.finalize .ok streamId file).backend.incomingFiles = s.incomingFiles.erase streamId ∧
      (s.finalize .ok streamId file).backend.disk.contents = s.disk.contents ∧
      (s.finalize .ok streamId file).backend.sender = s.sender := by
  rcases h : s.disk.entries file.tempPath with - | k
  · rw [finalize_missing h]
    exact ⟨rfl, rfl, rfl, rfl⟩
  · rw [finalize_renamed h]
    dsimp only
    split <;> exact ⟨rfl, rfl, rfl, rfl⟩

theorem finalize_requests (s : StagingFileTransfer) (io : DeliverIo) (streamId : ℕ)
    (file : IncomingFile) : (s.finalize io streamId file).requests = [] := by
  unfold finalize
  split
  · rfl
  · dsimp only
    split
    · rfl
    · rfl
    · split <;> rfl

/-- The answer is written to its file, and there is more of the file to come. -/
def Continues (s : StagingFileTransfer) (streamId : ℕ) (data : Bytes) (isError : Bool)
    (io : DeliverIo) : Prop :=
  isError = false ∧ io.write = none ∧ s.sender = true ∧
    ∃ file ∈ s.incomingFiles.lookup streamId,
      file.receivedSize + data.length < file.totalSize

/-- Nothing more is asked for exactly after an answer that ends its file, or fails. -/
theorem deliver_requests_eq_nil {isError : Bool} :
    (s.deliverFileData streamId data isError io).requests = [] ↔
      ¬ s.Continues streamId data isError io := by
  -- an error ends the download
  cases isError with
  | true => exact iff_of_true rfl fun h => Bool.noConfusion h.1
  | false =>
      -- an answer for nobody
      rcases hl : s.incomingFiles.lookup streamId with - | file
      · rw [deliver_unknown hl]
        refine iff_of_true rfl fun ⟨_, _, _, file, hfile, _⟩ => ?_
        cases hl.symm.trans hfile
      rcases hw : io.write with - | ⟨e, written⟩
      · -- the last part: the file is closed
        by_cases hall : 0 < file.totalSize ∧ file.totalSize ≤ file.receivedSize + data.length
        · rw [deliver_complete hl hw hall.1 hall.2]
          refine iff_of_true (finalize_requests _ _ _ _) fun ⟨_, _, _, other, hother, hmore⟩ => ?_
          obtain rfl : file = other := Option.some.inj (hl.symm.trans hother)
          omega
        · -- an earlier part: the next is asked for, if anybody is there to ask
          rw [deliver_more hl hw hall]
          by_cases hmore : 0 < file.totalSize ∧ s.sender = true
          · rw [if_pos hmore]
            refine iff_of_false (List.cons_ne_nil _ _) (not_not_intro ?_)
            exact ⟨rfl, hw, hmore.2, file, hl, by omega⟩
          · rw [if_neg hmore]
            refine iff_of_true rfl fun ⟨_, _, hsender, other, hother, hlt⟩ => ?_
            obtain rfl : file = other := Option.some.inj (hl.symm.trans hother)
            exact hmore ⟨Nat.zero_lt_of_lt hlt, hsender⟩
      · -- the part cannot be written
        rw [deliver_writeError hl hw]
        refine iff_of_true rfl fun ⟨_, hnone, _⟩ => ?_
        cases hw.symm.trans hnone

/-- An answer leaves no file that was not there. -/
theorem deliver_incoming {isError : Bool} {id : ℕ}
    (h : id ∈ (s.deliverFileData streamId data isError io).backend.incomingFiles) :
    id ∈ s.incomingFiles := by
  cases isError with
  | true => exact (AList.mem_erase.mp h).2
  | false =>
      rcases hl : s.incomingFiles.lookup streamId with - | file
      · rwa [deliver_unknown hl] at h
      have hmem : streamId ∈ s.incomingFiles := by
        rw [← AList.lookup_isSome, hl]
        rfl
      rcases hw : io.write with - | ⟨e, written⟩
      · by_cases hall : 0 < file.totalSize ∧ file.totalSize ≤ file.receivedSize + data.length
        · rw [deliver_complete hl hw hall.1 hall.2] at h
          rcases finalize_incoming _ io streamId _ with heq | heq <;> rw [heq] at h
          · exact writeThrough_incoming hmem h
          · exact writeThrough_incoming hmem (AList.mem_erase.mp h).2
        · rw [deliver_more hl hw hall] at h
          exact writeThrough_incoming hmem h
      · rw [deliver_writeError hl hw] at h
        exact writeThrough_incoming hmem h

/-- An event takes the serial; without one the serial stays. -/
theorem deliver_events (s : StagingFileTransfer) (streamId : ℕ) (data : Bytes) (isError : Bool)
    (io : DeliverIo) :
    ((s.deliverFileData streamId data isError io).events = [] ∧
        (s.deliverFileData streamId data isError io).backend.portalSerial = s.portalSerial) ∨
      ∃ event, (s.deliverFileData streamId data isError io).events = [event] ∧
        s.portalSerial ≠ none ∧
        (s.deliverFileData streamId data isError io).backend.portalSerial = none := by
  cases isError with
  | true =>
      -- an error fails the transfer, which is told once
      rcases hs : s.portalSerial with - | serial
      · exact .inl ⟨by simp [deliverFileData, deliverError, hs], rfl⟩
      · refine .inr ⟨.transferFailed ("RDP error on stream " ++ toString streamId) serial, ?_,
          by simp, rfl⟩
        simp [deliverFileData, deliverError, hs]
  | false =>
      rcases hl : s.incomingFiles.lookup streamId with - | file
      · rw [deliver_unknown hl]
        exact .inl ⟨rfl, rfl⟩
      rcases hw : io.write with - | ⟨e, written⟩
      · by_cases hall : 0 < file.totalSize ∧ file.totalSize ≤ file.receivedSize + data.length
        · -- the end of a file may be the end of the transfer
          rw [deliver_complete hl hw hall.1 hall.2]
          exact finalize_events _ _ _ _
        · rw [deliver_more hl hw hall]
          exact .inl ⟨rfl, rfl⟩
      · rw [deliver_writeError hl hw]
        exact .inl ⟨rfl, rfl⟩

/-- An error on a stream that there is no file of takes the serial all the same. -/
theorem deliver_unknown_error (h : streamId ∉ s.incomingFiles) :
    s.deliverFileData streamId data true io =
      ⟨.ok (), [],
        s.portalSerial.toList.map fun serial =>
          .transferFailed ("RDP error on stream " ++ toString streamId) serial,
        { s with portalSerial := none }⟩ := by
  have hl : s.incomingFiles.lookup streamId = none := AList.lookup_eq_none.mpr h
  have herase : s.incomingFiles.erase streamId = s.incomingFiles :=
    AList.ext (List.kerase_of_notMem_keys h)
  simp [deliverFileData, deliverError, hl, herase]

end

end StagingFileTransfer

/-! ### Transfer after transfer -/

/-- A call of `prepare_files`, or an answer of the client. -/
inductive TransferInput
  | prepareFiles (descriptors : List TransferFileDescriptor) (portalSerial : ℕ)
      (createDir : Bool) (cannotCreate : ℕ → Bool)
  | answer (streamId : ℕ) (data : Bytes) (isError : Bool) (io : DeliverIo)

/-- The backend with the account of its calls. -/
structure Transfers where
  backend : StagingFileTransfer
  /-- how often `prepare_files` was called -/
  calls : ℕ
  /-- the stream ids of the latest call -/
  latest : List ℕ
  /-- the events, each with the call it came after -/
  announced : List (ℕ × FileTransferEvent)

namespace Transfers

/-- A backend that has done nothing, over a download directory. -/
def start (disk : Disk) : Transfers where
  backend := { StagingFileTransfer.new with disk }
  calls := 0
  latest := []
  announced := []

/-- What an input does to the backend, with the account of announcements beside it. -/
def step (t : Transfers) : TransferInput → Transfers
  | .prepareFiles descriptors portalSerial createDir cannotCreate =>
      { backend := (t.backend.prepareFiles descriptors portalSerial createDir cannotCreate).2.2
        calls := t.calls + 1
        -- without a directory the call does not come to its descriptors
        latest :=
          if createDir then
            (StagingFileTransfer.streams t.backend.nextStreamId descriptors).map Prod.fst
          else []
        announced := t.announced }
  | .answer streamId data isError io =>
      let delivery := t.backend.deliverFileData streamId data isError io
      { t with
        backend := delivery.backend
        announced := t.announced ++ delivery.events.map (t.calls, ·) }

/-- An answer to another call than the latest leaves the transfer as it is, and sends
nothing. -/
def Undisturbed (t : Transfers) : TransferInput → Prop
  | .prepareFiles .. => True
  | .answer streamId data isError io =>
      let delivery := t.backend.deliverFileData streamId data isError io
      streamId ∉ t.latest →
        delivery.backend.incomingFiles = t.backend.incomingFiles ∧
        delivery.backend.completedFiles = t.backend.completedFiles ∧
        delivery.backend.portalSerial = t.backend.portalSerial ∧
        delivery.events = []

/-- No error on a stream of another call finds a serial. -/
def Harmless (t : Transfers) : TransferInput → Prop
  | .prepareFiles .. => True
  | .answer streamId _ isError _ =>
      isError = true → streamId ∉ t.latest → t.backend.portalSerial = none

/-- The files that are awaited are of the latest call, and as long as its serial is
there it has sent no event. -/
structure Inv (t : Transfers) : Prop where
  incoming : ∀ {id}, id ∈ t.backend.incomingFiles → id ∈ t.latest
  calls : ∀ {call}, call ∈ t.announced.map Prod.fst → call ≤ t.calls
  once : (t.announced.map Prod.fst).Nodup
  serial : t.backend.portalSerial ≠ none → t.calls ∉ t.announced.map Prod.fst

theorem inv_prepareFiles {t : Transfers} (h : t.Inv) (descriptors : List TransferFileDescriptor)
    (portalSerial : ℕ) (createDir : Bool) (cannotCreate : ℕ → Bool) :
    (t.step (.prepareFiles descriptors portalSerial createDir cannotCreate)).Inv where
  incoming {id} hid := by
    cases createDir with
    | false => exact absurd hid (AList.notMem_empty _)
    | true =>
        -- the files of earlier calls are gone
        rcases StagingFileTransfer.prepareEach_incoming hid with hid | hid
        · exact hid
        · exact absurd hid (AList.notMem_empty _)
  calls hc := Nat.le_succ_of_le (h.calls hc)
  once := h.once
  serial _ hc := absurd (h.calls hc) (Nat.not_succ_le_self _)

theorem inv_answer {t : Transfers} (h : t.Inv) (streamId : ℕ) (data : Bytes) (isError : Bool)
    (io : DeliverIo) : (t.step (.answer streamId data isError io)).Inv := by
  have hin : ∀ {id}, id ∈ (t.step (.answer streamId data isError io)).backend.incomingFiles →
      id ∈ t.latest := fun hid => h.incoming (StagingFileTransfer.deliver_incoming hid)
  rcases StagingFileTransfer.deliver_events t.backend streamId data isError io with
    ⟨hnone, hkept⟩ | ⟨event, hsent, hserial, htaken⟩
  · -- no event: the account stands
    have hsame : (t.step (.answer streamId data isError io)).announced = t.announced := by
      simp [step, hnone]
    refine ⟨hin, ?_, ?_, ?_⟩ <;> rw [hsame]
    · exact h.calls
    · exact h.once
    · intro hne
      exact h.serial (hkept ▸ hne)
  · -- the event takes the serial, so it is the only one of its call
    have hmore : (t.step (.answer streamId data isError io)).announced.map Prod.fst =
        t.announced.map Prod.fst ++ [t.calls] := by
      simp [step, hsent]
    refine ⟨hin, ?_, ?_, fun hne => absurd htaken hne⟩ <;> rw [hmore]
    · intro call hc
      rcases List.mem_append.mp hc with hc | hc
      · exact h.calls hc
      · exact Nat.le_of_eq (List.mem_singleton.mp hc)
    · exact h.once.append (List.nodup_singleton _)
        (List.disjoint_singleton.mpr (h.serial hserial))

theorem inv_step {t : Transfers} (h : t.Inv) (input : TransferInput) : (t.step input).Inv := by
  cases input with
  | prepareFiles descriptors portalSerial createDir cannotCreate =>
      exact inv_prepareFiles h descriptors portalSerial createDir cannotCreate
  | answer streamId data isError io => exact inv_answer h streamId data isError io

theorem inv_start (disk : Disk) : (start disk).Inv where
  incoming h := absurd h (AList.notMem_empty _)
  calls h := absurd h List.not_mem_nil
  once := List.nodup_nil
  serial h := absurd rfl h

theorem inv_after (disk : Disk) (inputs : List TransferInput) (n : ℕ) :
    (after step (start disk) inputs n).Inv := by
  induction n with
  | zero => exact inv_start disk
  | succ n ih =>
      rcases he : inputs[n]? with - | input
      · rwa [after, List.take_add_one, he, Option.toList_none, List.append_nil]
      · rw [after_succ step _ he]
        exact inv_step ih input

/-- An answer to another call does nothing, an error aside that finds a serial. -/
theorem undisturbed_iff {t : Transfers} (h : t.Inv) (input : TransferInput) :
    t.Undisturbed input ↔ t.Harmless input := by
  cases input with
  | prepareFiles => exact Iff.rfl
  | answer streamId data isError io =>
      constructor
      · -- an error takes the serial that it finds, so there was none
        intro hu herr hid
        subst herr
        exact (hu hid).2.2.1.symm
      · intro hh hid
        have hfile : streamId ∉ t.backend.incomingFiles := fun hmem => hid (h.incoming hmem)
        cases isError with
        | false =>
            rw [StagingFileTransfer.deliver_unknown (AList.lookup_eq_none.mpr hfile)]
            exact ⟨rfl, rfl, rfl, rfl⟩
        | true =>
            have hserial : t.backend.portalSerial = none := hh rfl hid
            rw [StagingFileTransfer.deliver_unknown_error hfile, hserial]
            exact ⟨rfl, rfl, rfl, rfl⟩

/-- Transfers do not interfere: no answer disturbs the transfer of another call, and
no call is announced twice. -/
def Separate (disk : Disk) (inputs : List TransferInput) : Prop :=
  (∀ n input, inputs[n]? = some input →
    (after step (start disk) inputs n).Undisturbed input) ∧
  ∀ n, ((after step (start disk) inputs n).announced.map Prod.fst).Nodup

/-- Transfers do not interfere exactly if no error on a stream of another call comes
while the latest call still waits for its event. -/
theorem foreign_answers_iff (disk : Disk) (inputs : List TransferInput) :
    Separate disk inputs ↔
      ∀ n input, inputs[n]? = some input →
        (after step (start disk) inputs n).Harmless input := by
  constructor
  · intro hsep n input hn
    exact (undisturbed_iff (inv_after disk inputs n) input).mp (hsep.1 n input hn)
  · intro hall
    refine ⟨fun n input hn => ?_, fun n => (inv_after disk inputs n).once⟩
    exact (undisturbed_iff (inv_after disk inputs n) input).mpr (hall n input hn)

/-- A file, then another before the first came, then the error for the first. -/
def lateError : List TransferInput :=
  [.prepareFiles [{ filename := "a", size := 4, fileIndex := 0, clipDataId := 0 }] 1 true
      fun _ => false,
    .prepareFiles [{ filename := "b", size := 4, fileIndex := 0, clipDataId := 0 }] 2 true
      fun _ => false,
    .answer 1 [] true .ok]

/-- The error of the first transfer ends the second. -/
theorem late_error_disturbs :
    ¬ Separate { entries := fun _ => none, contents := fun _ => [], next := 0 } lateError := by
  intro hsep
  have hforeign := hsep.1 2 (.answer 1 [] true .ok) rfl
  obtain ⟨-, -, hserial, -⟩ := hforeign (by decide)
  cases hserial

end Transfers

end LamcoRdp
