/-
LamcoRdp/Clipboard/Download.lean

A download through the staging backend: `prepare_files` asks for the first chunk of every
file, the client answers the requests in any order, and `deliver_file_data` takes each
answer and asks for more.

The client answers with the range that was asked for, cut at the end of its file, and no
system call fails.  When no request is open, every file has been asked for exactly once,
is stored as the client has it, and one event names them all, exactly if there are files,
none of them is empty, their streams differ, and no file was given its name while that
was the temporary name of another (`staging_download_iff`).
-/
import LamcoRdp.Clipboard.Staging
import LamcoRdp.Lib.Runs
import LamcoRdp.Lib.Tiling
import Mathlib.Algebra.Order.BigOperators.Group.List
import Mathlib.Algebra.Order.Group.Nat
import Mathlib.Algebra.GroupWithZero.Nat

namespace LamcoRdp

open Runs Tiling StagingFileTransfer

/-! ### Temporary names -/

/-- What stands after the last of a separator. -/
theorem eq_of_append_cons {α : Type*} {a b u v : List α} {c : α} (hu : c ∉ u) (hv : c ∉ v)
    (h : a ++ c :: u = b ++ c :: v) : u = v := by
  rcases List.append_eq_append_iff.mp h with ⟨l, -, hl⟩ | ⟨l, -, hl⟩
  · cases l with
    | nil => exact (List.cons.inj hl).2
    | cons x l => exact absurd ((List.cons.inj hl).2 ▸ by simp) hu
  · cases l with
    | nil => exact ((List.cons.inj hl).2).symm
    | cons x l => exact absurd ((List.cons.inj hl).2 ▸ by simp) hv

theorem dot_notMem_toDigits (n : ℕ) : '.' ∉ Nat.toDigits 10 n := by
  intro h
  have hdigit := Nat.isDigit_of_mem_toDigits (by decide) (by decide) h
  revert hdigit
  decide

theorem toDigits_inj {m n : ℕ} (h : Nat.toDigits 10 m = Nat.toDigits 10 n) : m = n := by
  have hm := @Nat.ofDigitChars_ten_toDigits m
  rw [h, Nat.ofDigitChars_ten_toDigits] at hm
  exact hm.symm

/-- The temporary names of two streams differ. -/
theorem tempName_inj {a b : String} {i j : ℕ} (h : tempName a i = tempName b j) : i = j := by
  have hl : (tempName a i).toList = (tempName b j).toList := congrArg _ h
  simp only [tempName, String.toList_append, Nat.toString_eq_repr, Nat.toList_repr] at hl
  have hcut : '.' :: a.toList ++ '.' :: Nat.toDigits 10 i =
      '.' :: b.toList ++ '.' :: Nat.toDigits 10 j := by
    simpa using List.append_cancel_right hl
  exact toDigits_inj (eq_of_append_cons (dot_notMem_toDigits i) (dot_notMem_toDigits j) hcut)

/-! ### The streams of a call -/

theorem streams_snd (next : UInt32) (ds : List TransferFileDescriptor) :
    (streams next ds).map Prod.snd = ds := by
  induction ds generalizing next with
  | nil => rfl
  | cons d ds ih => exact congrArg (d :: ·) (ih (next + 1))

theorem streams_map {β : Type*} (g : TransferFileDescriptor → β) (next : UInt32)
    (ds : List TransferFileDescriptor) :
    (streams next ds).map (fun stream => g stream.2) = ds.map g := by
  have h := congrArg (List.map g) (streams_snd next ds)
  rwa [List.map_map] at h

theorem streams_fst (next : UInt32) (ds : List TransferFileDescriptor) :
    (streams next ds).map Prod.fst =
      (List.range ds.length).map fun i => (next.toNat + i) % 2 ^ 32 := by
  induction ds generalizing next with
  | nil => rfl
  | cons d ds ih =>
      rw [streams, List.map_cons, ih, List.length_cons, List.range_succ_eq_map, List.map_cons,
        List.map_map, UInt32.toNat_add]
      refine congrArg₂ _ ?_ (List.map_congr_left fun i _ => ?_)
      · exact (Nat.mod_eq_of_lt next.toNat_lt).symm
      · simp only [Function.comp_apply, UInt32.toNat_one]
        omega

/-- The streams differ as long as the counter does not come round. -/
theorem streams_nodup_iff (next : UInt32) (ds : List TransferFileDescriptor) :
    ((streams next ds).map Prod.fst).Nodup ↔ ds.length ≤ 2 ^ 32 := by
  rw [streams_fst]
  constructor
  · intro h
    have hsub : (List.range ds.length).map (fun i => (next.toNat + i) % 2 ^ 32) ⊆
        List.range (2 ^ 32) := by
      intro x hx
      obtain ⟨i, -, rfl⟩ := List.mem_map.mp hx
      exact List.mem_range.mpr (Nat.mod_lt _ (by decide))
    simpa using h.length_le_of_subset hsub
  · intro h
    refine List.Nodup.map_on ?_ List.nodup_range
    intro i hi j hj hij
    rw [List.mem_range] at hi hj
    omega

/-! ### The client -/

/-- The client's answer: the range, cut at the end of the file. -/
def answerOf (files : ℤ → Bytes) (r : CliprdrFileContentsRequest) : Bytes :=
  ((files r.index).drop r.position).take r.requestedSize

/-- A call of `prepare_files` and what followed. -/
structure Download where
  backend : StagingFileTransfer
  /-- the requests of this call, in order -/
  sent : List CliprdrFileContentsRequest
  /-- those not answered yet -/
  outstanding : List CliprdrFileContentsRequest
  events : List FileTransferEvent

namespace Download

/-- After `prepare_files`, called in any state. -/
def start (s : StagingFileTransfer) (descriptors : List TransferFileDescriptor)
    (portalSerial : ℕ) : Download :=
  let (_, requests, backend) := s.prepareFiles descriptors portalSerial true fun _ => false
  { backend, sent := requests, outstanding := requests, events := [] }

/-- The client answers one of the requests that are open. -/
def step (files : ℤ → Bytes) (t : Download) (n : ℕ) : Option Download :=
  t.outstanding[n]?.map fun r =>
    let delivery := t.backend.deliverFileData r.streamId (answerOf files r) false .ok
    { backend := delivery.backend
      sent := t.sent ++ delivery.requests
      outstanding := t.outstanding.eraseIdx n ++ delivery.requests
      events := t.events ++ delivery.events }

/-- The ranges that were asked for on a stream. -/
def requested (t : Download) (streamId : ℕ) : List (ℕ × ℕ) :=
  (t.sent.filter (·.streamId = streamId)).map fun r => (r.position, r.requestedSize)

/-- Every file was asked for once from start to end, is stored, and is announced by the
only event. -/
structure Complete (files : ℤ → Bytes) (all : List (ℕ × TransferFileDescriptor))
    (portalSerial : ℕ) (t : Download) : Prop where
  tiled : ∀ {id d}, (id, d) ∈ all → Tiles 0 d.size (t.requested id)
  index : ∀ {id d}, (id, d) ∈ all → ∀ r ∈ t.sent, r.streamId = id → r.index = asI32 d.fileIndex
  stored : ∀ {id d}, (id, d) ∈ all →
    t.backend.disk.read d.filename = some (files (asI32 d.fileIndex))
  announced : ∃ paths, t.events = [.filesReady paths portalSerial] ∧
    paths.Perm (all.map fun stream => stream.2.filename)

/-- The file that the answer completes is given no name that is the temporary name of
another file. -/
def Apart (files : ℤ → Bytes) (t : Download) (n : ℕ) : Prop :=
  ∀ r ∈ t.outstanding[n]?, ∀ file ∈ t.backend.incomingFiles.lookup r.streamId,
    file.totalSize ≤ file.receivedSize + (answerOf files r).length →
    ∀ other ∈ t.backend.incomingFiles.entries,
      other.1 ≠ r.streamId → other.2.tempPath ≠ file.filename

instance (files : ℤ → Bytes) (t : Download) (n : ℕ) : Decidable (Apart files t n) := by
  unfold Apart
  infer_instance

/-! ### After `prepare_files` -/

/-- An incoming file of which nothing has come. -/
def opened (d : TransferFileDescriptor) (id file : ℕ) : IncomingFile where
  filename := d.filename
  totalSize := d.size
  receivedSize := 0
  tempPath := tempName d.filename id
  file := file
  position := 0
  fileIndex := d.fileIndex

/-- The files of the streams are open, each empty and under its temporary name. -/
structure Opened (all : List (ℕ × TransferFileDescriptor)) (s : StagingFileTransfer) : Prop where
  incoming : ∀ {id file}, s.incomingFiles.lookup id = some file →
    ∃ d, (id, d) ∈ all ∧ file = opened d id file.file ∧ file.file < s.disk.next ∧
      s.disk.entries file.tempPath = some file.file ∧ s.disk.contents file.file = []
  present : ∀ {id d}, (id, d) ∈ all → id ∈ s.incomingFiles
  handles : ∀ {i j f g}, s.incomingFiles.lookup i = some f → s.incomingFiles.lookup j = some g →
    f.file = g.file → i = j

theorem prepareFile_opened {all : List (ℕ × TransferFileDescriptor)} {s : StagingFileTransfer}
    (h : Opened all s) (d : TransferFileDescriptor) :
    Opened (all ++ [(s.nextStreamId.toNat, d)]) (s.prepareFile (fun _ => false) d).2 := by
  rw [prepareFile_created (by simp)]
  refine ⟨?_, ?_, ?_⟩
  · -- an entry is the new file, or one from before with another name and another file
    intro id file hl
    by_cases hid : id = s.nextStreamId.toNat
    · subst hid
      obtain rfl := Option.some.inj ((AList.lookup_insert _).symm.trans hl)
      refine ⟨d, by simp, rfl, Nat.lt_succ_self _, ?_, ?_⟩
      · exact Function.update_self _ _ _
      · exact Function.update_self _ _ _
    · rw [AList.lookup_insert_ne hid] at hl
      obtain ⟨d', hmem, hfile, hlt, hentry, hcontent⟩ := h.incoming hl
      refine ⟨d', List.mem_append_left _ hmem, hfile, Nat.lt_succ_of_lt hlt, ?_, ?_⟩
      · refine (Function.update_of_ne ?_ _ _).trans hentry
        rw [hfile]
        exact fun heq => hid (tempName_inj heq)
      · exact (Function.update_of_ne hlt.ne _ _).trans hcontent
  · intro id d' hmem
    rw [AList.mem_insert]
    rcases List.mem_append.mp hmem with hmem | hmem
    · exact .inr (h.present hmem)
    · exact .inl (Prod.mk.inj (List.mem_singleton.mp hmem)).1
  · -- a new file has a number that no file had, so no two streams share one
    intro i j f g hi hj hfg
    have hold : ∀ {k e}, k ≠ s.nextStreamId.toNat →
        (AList.insert s.nextStreamId.toNat (opened d s.nextStreamId.toNat s.disk.next)
          s.incomingFiles).lookup k = some e →
        s.incomingFiles.lookup k = some e ∧ e.file < s.disk.next := by
      intro k e hk hl
      rw [AList.lookup_insert_ne hk] at hl
      obtain ⟨_, _, _, hlt, _⟩ := h.incoming hl
      exact ⟨hl, hlt⟩
    have hnew : ∀ {e},
        (AList.insert s.nextStreamId.toNat (opened d s.nextStreamId.toNat s.disk.next)
          s.incomingFiles).lookup s.nextStreamId.toNat = some e → e.file = s.disk.next := by
      intro e hl
      rw [AList.lookup_insert] at hl
      exact (Option.some.inj hl) ▸ rfl
    by_cases hi' : i = s.nextStreamId.toNat <;> by_cases hj' : j = s.nextStreamId.toNat
    · exact hi'.trans hj'.symm
    · subst hi'
      exact absurd (hfg.symm.trans (hnew hi)) (hold hj' hj).2.ne
    · subst hj'
      exact absurd (hfg.trans (hnew hj)) (hold hi' hi).2.ne
    · exact h.handles (hold hi' hi).1 (hold hj' hj).1 hfg

theorem prepareEach_opened {all : List (ℕ × TransferFileDescriptor)} {s : StagingFileTransfer}
    (h : Opened all s) (ds : List TransferFileDescriptor) :
    Opened (all ++ streams s.nextStreamId ds) (s.prepareEach (fun _ => false) ds).2 := by
  induction ds generalizing all s with
  | nil => rwa [streams, List.append_nil]
  | cons d ds ih =>
      rw [prepareEach_cons, streams, List.append_cons]
      have hnext := ih (prepareFile_opened h d)
      rwa [prepareFile_next] at hnext

theorem prepareEach_requests (s : StagingFileTransfer) (ds : List TransferFileDescriptor) :
    (s.prepareEach (fun _ => false) ds).1 =
      (streams s.nextStreamId ds).map fun stream => firstRequest stream.2 stream.1 := by
  induction ds generalizing s with
  | nil => rfl
  | cons d ds ih =>
      rw [prepareEach_cons, ih, prepareFile_next, prepareFile_created (by simp)]
      rfl

theorem prepareEach_rest (s : StagingFileTransfer) (ds : List TransferFileDescriptor) :
    (s.prepareEach (fun _ => false) ds).2.portalSerial = s.portalSerial ∧
      (s.prepareEach (fun _ => false) ds).2.completedFiles = s.completedFiles ∧
      (s.prepareEach (fun _ => false) ds).2.sender = s.sender := by
  induction ds generalizing s with
  | nil => exact ⟨rfl, rfl, rfl⟩
  | cons d ds ih =>
      rw [prepareEach_cons, prepareFile_created (by simp)]
      exact ih _

/-- A stream belongs to one descriptor. -/
theorem descriptor_unique {all : List (ℕ × TransferFileDescriptor)}
    (hall : (all.map Prod.fst).Nodup) {id : ℕ} {d d' : TransferFileDescriptor}
    (h : (id, d) ∈ all) (h' : (id, d') ∈ all) : d = d' :=
  (Prod.mk.inj (List.inj_on_of_nodup_map hall h h' rfl)).2

/-! ### One stream -/

/-- A stream whose file is on its way: its next chunk is awaited, and what came so far
stands in its file. -/
structure Loading (files : ℤ → Bytes) (t : Download) (id : ℕ) (d : TransferFileDescriptor)
    (file : IncomingFile) : Prop where
  incoming : t.backend.incomingFiles.lookup id = some file
  filename : file.filename = d.filename
  totalSize : file.totalSize = d.size
  tempPath : file.tempPath = tempName d.filename id
  fileIndex : file.fileIndex = d.fileIndex
  position : file.position = file.receivedSize
  more : file.receivedSize < d.size
  awaited : t.outstanding.filter (·.streamId = id) = [nextRequest file id]
  asked : Tiles 0 (file.receivedSize + (nextRequest file id).requestedSize) (t.requested id)
  index : ∀ r ∈ t.sent.filter (·.streamId = id), r.index = asI32 d.fileIndex
  content : t.backend.disk.contents file.file =
    (files (asI32 d.fileIndex)).take file.receivedSize

/-- A stream whose file has come. -/
structure Loaded (t : Download) (id : ℕ) (d : TransferFileDescriptor) : Prop where
  gone : t.backend.incomingFiles.lookup id = none
  awaited : t.outstanding.filter (·.streamId = id) = []
  asked : Tiles 0 d.size (t.requested id)
  index : ∀ r ∈ t.sent.filter (·.streamId = id), r.index = asI32 d.fileIndex

/-- The account of all streams. -/
structure Books (files : ℤ → Bytes) (all : List (ℕ × TransferFileDescriptor)) (t : Download) :
    Prop where
  stream : ∀ {id d}, (id, d) ∈ all → (∃ file, Loading files t id d file) ∨ Loaded t id d
  known : ∀ {id}, id ∈ t.backend.incomingFiles → ∃ d, (id, d) ∈ all
  asked : ∀ {r}, r ∈ t.outstanding → ∃ d, (r.streamId, d) ∈ all
  handles : ∀ {i j f g}, t.backend.incomingFiles.lookup i = some f →
    t.backend.incomingFiles.lookup j = some g → f.file = g.file → i = j
  sender : t.backend.sender = true

/-- The first request is that for the next chunk of a file of which nothing has come. -/
theorem firstRequest_eq {d : TransferFileDescriptor} (hd : 0 < d.size) (id file : ℕ) :
    firstRequest d id = nextRequest (opened d id file) id := by
  simp [firstRequest, nextRequest, opened, hd]

/-- The requests on one stream of several. -/
theorem filter_firstRequest {all : List (ℕ × TransferFileDescriptor)}
    (hall : (all.map Prod.fst).Nodup) {id : ℕ} {d : TransferFileDescriptor} (h : (id, d) ∈ all) :
    (all.map fun stream => firstRequest stream.2 stream.1).filter (·.streamId = id) =
      [firstRequest d id] := by
  induction all with
  | nil => exact absurd h List.not_mem_nil
  | cons stream all ih =>
      rw [List.map_cons, List.nodup_cons] at hall
      rw [List.map_cons, List.filter_cons]
      have hothers : ∀ {k}, k ∉ all.map Prod.fst →
          (all.map fun stream => firstRequest stream.2 stream.1).filter (·.streamId = k) = [] := by
        intro k hk
        rw [List.filter_eq_nil_iff]
        intro r hr hrk
        obtain ⟨p, hp, rfl⟩ := List.mem_map.mp hr
        exact hk (List.mem_map.mpr ⟨p, hp, of_decide_eq_true hrk⟩)
      rcases List.mem_cons.mp h with rfl | h
      · rw [hothers hall.1, if_pos (by simp [firstRequest])]
      · have hne : stream.1 ≠ id := by
          rintro rfl
          exact hall.1 (List.mem_map.mpr ⟨_, h, rfl⟩)
        rw [if_neg (by simp [firstRequest, hne]), ih hall.2 h]

section

variable {files : ℤ → Bytes} {s : StagingFileTransfer} {descriptors : List TransferFileDescriptor}
  {portalSerial : ℕ}

theorem start_opened (s : StagingFileTransfer) (descriptors : List TransferFileDescriptor)
    (portalSerial : ℕ) :
    Opened (streams s.nextStreamId descriptors) (start s descriptors portalSerial).backend := by
  have hnone : Opened []
      { s.clearIncoming with portalSerial := some portalSerial, sender := true } :=
    ⟨fun h => absurd h (by simp [clearIncoming]), fun h => absurd h List.not_mem_nil,
      fun h => absurd h (by simp [clearIncoming])⟩
  exact prepareEach_opened hnone descriptors

theorem start_requests (s : StagingFileTransfer) (descriptors : List TransferFileDescriptor)
    (portalSerial : ℕ) :
    (start s descriptors portalSerial).sent =
      (streams s.nextStreamId descriptors).map fun stream => firstRequest stream.2 stream.1 :=
  prepareEach_requests _ descriptors

theorem start_books (hids : ((streams s.nextStreamId descriptors).map Prod.fst).Nodup)
    (hpos : ∀ d ∈ descriptors, 0 < d.size) :
    Books files (streams s.nextStreamId descriptors) (start s descriptors portalSerial) where
  stream {id d} hmem := by
    have hopened := start_opened s descriptors portalSerial
    have hd : 0 < d.size := hpos d (streams_snd s.nextStreamId descriptors ▸
      List.mem_map.mpr ⟨_, hmem, rfl⟩)
    obtain ⟨file, hfile⟩ := Option.isSome_iff_exists.mp
      (AList.lookup_isSome.mpr (hopened.present hmem))
    obtain ⟨d', hmem', hnew, -, -, hcontent⟩ := hopened.incoming hfile
    obtain rfl := descriptor_unique hids hmem' hmem
    -- the only request on its way is the first one
    have hsent := start_requests s descriptors portalSerial
    have hfirst := filter_firstRequest hids hmem
    rw [firstRequest_eq hd id file.file, ← hnew, ← hsent] at hfirst
    have hnone : file.receivedSize = 0 := by rw [hnew, opened]
    left
    refine ⟨file, hfile, ?_, ?_, ?_, ?_, ?_, ?_, hfirst, ?_, ?_, ?_⟩
    · rw [hnew, opened]
    · rw [hnew, opened]
    · rw [hnew, opened]
    · rw [hnew, opened]
    · rw [hnew, opened]
    · rwa [hnone]
    · -- nothing has been received, and a part is asked for
      have hmore : file.receivedSize < file.totalSize := by
        rw [hnone, hnew]
        exact hd
      rw [requested, hfirst, List.map_singleton]
      exact hnone ▸ tiles_singleton (nextRequest_pos hmore id)
    · intro r hr
      rw [hfirst] at hr
      rw [List.mem_singleton.mp hr, nextRequest, hnew, opened]
    · rw [hcontent, hnone, List.take_zero]
  -- a stream is known because its file was opened
  known {id} hid := by
    obtain ⟨file, hfile⟩ := Option.isSome_iff_exists.mp (AList.lookup_isSome.mpr hid)
    obtain ⟨d, hmem, -⟩ := (start_opened s descriptors portalSerial).incoming hfile
    exact ⟨d, hmem⟩
  asked {r} hr := by
    have hmem : r ∈ (streams s.nextStreamId descriptors).map fun stream =>
      firstRequest stream.2 stream.1 := start_requests s descriptors portalSerial ▸ hr
    obtain ⟨p, hp, rfl⟩ := List.mem_map.mp hmem
    exact ⟨p.2, hp⟩
  handles := (start_opened s descriptors portalSerial).handles
  sender := (prepareEach_rest _ descriptors).2.2

end

/-- What a step leaves as it is: everything of the other streams, and the contents of
the other files. -/
structure Frame (t t' : Download) (id file : ℕ) : Prop where
  incoming : ∀ {i}, i ≠ id →
    t'.backend.incomingFiles.lookup i = t.backend.incomingFiles.lookup i
  outstanding : ∀ {i}, i ≠ id →
    t'.outstanding.filter (·.streamId = i) = t.outstanding.filter (·.streamId = i)
  sent : ∀ {i}, i ≠ id → t'.sent.filter (·.streamId = i) = t.sent.filter (·.streamId = i)
  contents : ∀ {k}, k ≠ file → t'.backend.disk.contents k = t.backend.disk.contents k
  sender : t'.backend.sender = t.backend.sender

section

variable {files : ℤ → Bytes} {all : List (ℕ × TransferFileDescriptor)} {t t' : Download}
  {id i k n : ℕ} {d e : TransferFileDescriptor} {file f : IncomingFile}

theorem Loading.frame (h : Loading files t i e f) (hF : Frame t t' id k) (hi : i ≠ id)
    (hk : f.file ≠ k) : Loading files t' i e f :=
  { h with
    incoming := (hF.incoming hi).trans h.incoming
    awaited := (hF.outstanding hi).trans h.awaited
    asked := by
      rw [requested, hF.sent hi]
      exact h.asked
    index := by
      rw [hF.sent hi]
      exact h.index
    content := (hF.contents hk).trans h.content }

/-- A stream that is gone is not the one that is on its way. -/
theorem Loading.ne_of_gone (h : Loading files t id d file)
    (hgone : t.backend.incomingFiles.lookup i = none) : i ≠ id := by
  rintro rfl
  cases hgone.symm.trans h.incoming

/-- What is on its way after a stream has ended was on its way before, on another one. -/
theorem Frame.lookup_of_some (hF : Frame t t' id k) (h : Loaded t' id d)
    (hf : t'.backend.incomingFiles.lookup i = some f) :
    i ≠ id ∧ t.backend.incomingFiles.lookup i = some f := by
  have hne : i ≠ id := by
    rintro rfl
    cases h.gone.symm.trans hf
  exact ⟨hne, (hF.incoming hne).symm.trans hf⟩

theorem Loaded.frame (h : Loaded t i e) (hF : Frame t t' id k) (hi : i ≠ id) :
    Loaded t' i e where
  gone := (hF.incoming hi).trans h.gone
  awaited := (hF.outstanding hi).trans h.awaited
  asked := by
    rw [requested, hF.sent hi]
    exact h.asked
  index := by
    rw [hF.sent hi]
    exact h.index

/-- A step keeps the account of all streams if it keeps that of its own. -/
theorem Books.step (hB : Books files all t) (hids : (all.map Prod.fst).Nodup)
    (hmem : (id, d) ∈ all) (hL : Loading files t id d file) (hF : Frame t t' id file.file)
    (hnew : (∃ file', Loading files t' id d file' ∧ file'.file = file.file) ∨ Loaded t' id d) :
    Books files all t' where
  stream {i e} hi := by
    by_cases hne : i = id
    · subst hne
      rw [descriptor_unique hids hi hmem]
      rcases hnew with ⟨file', h, -⟩ | h
      · exact .inl ⟨file', h⟩
      · exact .inr h
    · rcases hB.stream hi with ⟨f, h⟩ | h
      · exact .inl ⟨f, h.frame hF hne fun hf => hne (hB.handles h.incoming hL.incoming hf)⟩
      · exact .inr (h.frame hF hne)
  known {i} hi := by
    by_cases hne : i = id
    · exact ⟨d, hne ▸ hmem⟩
    · rw [← AList.lookup_isSome, hF.incoming hne, AList.lookup_isSome] at hi
      exact hB.known hi
  asked {r} hr := by
    by_cases hne : r.streamId = id
    · exact ⟨d, hne ▸ hmem⟩
    · have hin : r ∈ t'.outstanding.filter (·.streamId = r.streamId) := by simp [hr]
      rw [hF.outstanding hne] at hin
      exact hB.asked (List.mem_of_mem_filter hin)
  handles {i j f g} hf hg hfg := by
    -- each open file was open before, through the same handle
    have hold : ∀ {i f}, t'.backend.incomingFiles.lookup i = some f →
        ∃ f', t.backend.incomingFiles.lookup i = some f' ∧ f'.file = f.file := by
      intro i f hf
      by_cases hne : i = id
      · subst hne
        rcases hnew with ⟨file', h, hsame⟩ | h
        · obtain rfl := Option.some.inj (h.incoming.symm.trans hf)
          exact ⟨file, hL.incoming, hsame.symm⟩
        · exact absurd (h.gone.symm.trans hf) (by simp)
      · exact ⟨f, (hF.incoming hne).symm.trans hf, rfl⟩
    obtain ⟨f', hf', hff⟩ := hold hf
    obtain ⟨g', hg', hgg⟩ := hold hg
    exact hB.handles hf' hg' (hff.trans (hfg.trans hgg.symm))
  sender := hF.sender.trans hB.sender

/-! ### One answer -/

/-- A request in a list, and the list without it. -/
theorem exists_split {α : Type*} {l : List α} {n : ℕ} {a : α} (h : l[n]? = some a) :
    ∃ pre post, l = pre ++ a :: post ∧ l.eraseIdx n = pre ++ post := by
  obtain ⟨hn, rfl⟩ := List.getElem?_eq_some_iff.mp h
  refine ⟨l.take n, l.drop (n + 1), ?_, List.eraseIdx_eq_take_drop_succ l n⟩
  rw [List.getElem_cons_drop, List.take_append_drop]

/-- The only request of its stream. -/
theorem filter_eraseIdx {l : List CliprdrFileContentsRequest} {r q : CliprdrFileContentsRequest}
    (h : l[n]? = some r) (hid : r.streamId = id) (hone : l.filter (·.streamId = id) = [q]) :
    r = q ∧ (l.eraseIdx n).filter (·.streamId = id) = [] ∧
      ∀ {i}, i ≠ id → (l.eraseIdx n).filter (·.streamId = i) = l.filter (·.streamId = i) := by
  obtain ⟨pre, post, rfl, herase⟩ := exists_split h
  rw [herase]
  rw [List.filter_append, List.filter_cons, if_pos (decide_eq_true hid)] at hone
  obtain ⟨hpre, hpost⟩ : pre.filter (·.streamId = id) = [] ∧
      r :: post.filter (·.streamId = id) = [q] := by
    rcases List.append_eq_singleton_iff.mp hone with h | ⟨-, hnil⟩
    · exact h
    · cases hnil
  refine ⟨(List.cons.inj hpost).1, ?_, ?_⟩
  · rw [List.filter_append, hpre, (List.cons.inj hpost).2, List.append_nil]
  · intro i hi
    have hri : ¬ r.streamId = i := fun heq => hi (heq.symm.trans hid)
    simp [List.filter_append, hri]

theorem filter_append_self {l : List CliprdrFileContentsRequest} {r : CliprdrFileContentsRequest}
    (h : r.streamId = id) :
    (l ++ [r]).filter (·.streamId = id) = l.filter (·.streamId = id) ++ [r] := by
  simp [List.filter_append, h]

theorem filter_append_other {l : List CliprdrFileContentsRequest} {r : CliprdrFileContentsRequest}
    (h : r.streamId = id) (hi : i ≠ id) :
    (l ++ [r]).filter (·.streamId = i) = l.filter (·.streamId = i) := by
  have hri : ¬ r.streamId = i := fun heq => hi (heq.symm.trans h)
  simp [List.filter_append, hri]

/-- What the client answers to the request for the next chunk: all of it. -/
theorem Loading.answer (h : Loading files t id d file)
    (hfile : (files (asI32 d.fileIndex)).length = d.size) :
    (answerOf files (nextRequest file id)).length = (nextRequest file id).requestedSize ∧
      (files (asI32 d.fileIndex)).take file.receivedSize ++ answerOf files (nextRequest file id) =
        (files (asI32 d.fileIndex)).take
          (file.receivedSize + (nextRequest file id).requestedSize) := by
  have hle : file.receivedSize + (nextRequest file id).requestedSize ≤ d.size :=
    h.totalSize ▸ nextRequest_le (h.totalSize ▸ h.more.le) id
  have hindex : (nextRequest file id).index = asI32 d.fileIndex := by
    rw [nextRequest, h.fileIndex]
  have hposition : (nextRequest file id).position = file.receivedSize := rfl
  rw [answerOf, hindex, hposition]
  constructor
  · rw [List.length_take, List.length_drop, hfile]
    exact Nat.min_eq_left (by omega)
  · exact (List.take_add ..).symm

/-- The step on a request that is known. -/
theorem step_eq {r : CliprdrFileContentsRequest} (hr : t.outstanding[n]? = some r)
    (h : step files t n = some t') :
    t' =
      { backend := (t.backend.deliverFileData r.streamId (answerOf files r) false .ok).backend
        sent := t.sent ++
          (t.backend.deliverFileData r.streamId (answerOf files r) false .ok).requests
        outstanding := t.outstanding.eraseIdx n ++
          (t.backend.deliverFileData r.streamId (answerOf files r) false .ok).requests
        events := t.events ++
          (t.backend.deliverFileData r.streamId (answerOf files r) false .ok).events } := by
  rw [step, hr] at h
  exact (Option.some.inj h).symm

/-- A step answers the next chunk of a file that is on its way. -/
theorem step_loading (hB : Books files all t) (h : step files t n = some t') :
    ∃ id d file, (id, d) ∈ all ∧ Loading files t id d file ∧
      t.outstanding[n]? = some (nextRequest file id) := by
  obtain ⟨r, hr, -⟩ := Option.map_eq_some_iff.mp h
  have hin : r ∈ t.outstanding := List.mem_of_getElem? hr
  obtain ⟨d, hmem⟩ := hB.asked hin
  rcases hB.stream hmem with ⟨file, hL⟩ | hL
  · obtain ⟨heq, -⟩ := filter_eraseIdx hr rfl hL.awaited
    exact ⟨_, d, file, hmem, hL, hr.trans (congrArg some heq)⟩
  · have hfilter : r ∈ t.outstanding.filter (·.streamId = r.streamId) := by simp [hin]
    rw [hL.awaited] at hfilter
    exact absurd hfilter List.not_mem_nil

/-- The file after the answer. -/
def received (files : ℤ → Bytes) (file : IncomingFile) (id : ℕ) : IncomingFile :=
  { file with
    position := file.position + (answerOf files (nextRequest file id)).length
    receivedSize := file.receivedSize + (answerOf files (nextRequest file id)).length }

/-- The content of the file after the answer. -/
theorem Loading.written (h : Loading files t id d file)
    (hfile : (files (asI32 d.fileIndex)).length = d.size) :
    (t.backend.disk.write file.file file.position
        (answerOf files (nextRequest file id))).contents file.file =
      (files (asI32 d.fileIndex)).take
        (file.receivedSize + (nextRequest file id).requestedSize) := by
  have hlen : ((files (asI32 d.fileIndex)).take file.receivedSize).length = file.position := by
    rw [List.length_take, hfile, h.position]
    exact Nat.min_eq_left h.more.le
  refine (Function.update_self ..).trans ?_
  rw [h.content, ← hlen, Disk.overwrite_end]
  exact (h.answer hfile).2

theorem Loading.step_more (h : Loading files t id d file)
    (hn : t.outstanding[n]? = some (nextRequest file id))
    (hfile : (files (asI32 d.fileIndex)).length = d.size) (hsender : t.backend.sender = true)
    (hmore : file.receivedSize + (nextRequest file id).requestedSize < d.size)
    (hstep : step files t n = some t') :
    Frame t t' id file.file ∧ Loading files t' id d (received files file id) ∧
      t'.events = t.events ∧ t'.backend.disk.entries = t.backend.disk.entries ∧
      t'.backend.portalSerial = t.backend.portalSerial ∧
      t'.backend.completedFiles = t.backend.completedFiles := by
  have hlen := (h.answer hfile).1
  have hid : (nextRequest file id).streamId = id := rfl
  have hnext : (nextRequest (received files file id) id).streamId = id := rfl
  have hreceived : (received files file id).receivedSize =
      file.receivedSize + (nextRequest file id).requestedSize :=
    -- the answer is written, and the next part is asked for
    congrArg (file.receivedSize + ·) hlen
  have hdeliver : t.backend.deliverFileData id (answerOf files (nextRequest file id)) false .ok =
      ⟨.ok (), [nextRequest (received files file id) id], [],
        (t.backend.writeThrough id file (answerOf files (nextRequest file id))
          (answerOf files (nextRequest file id)).length).1⟩ := by
    rw [deliver_more h.incoming rfl (by rw [hlen, h.totalSize]; omega),
      if_pos ⟨h.totalSize ▸ Nat.zero_lt_of_lt h.more, hsender⟩]
    rfl
  obtain ⟨-, hnil, hothers⟩ := filter_eraseIdx hn hid h.awaited
  obtain rfl := step_eq hn hstep
  rw [hid, hdeliver]
  -- the other streams and files stay as they were
  refine ⟨⟨?_, ?_, ?_, ?_, rfl⟩, ?_, by simp, rfl, rfl, rfl⟩
  · intro i hi
    exact AList.lookup_insert_ne hi
  · intro i hi
    exact (filter_append_other hnext hi).trans (hothers hi)
  · intro i hi
    exact filter_append_other hnext hi
  · intro k hk
    exact Function.update_of_ne hk _ _
  · -- the file is longer by the part, and waits for the next
    refine ⟨AList.lookup_insert _, h.filename, h.totalSize, h.tempPath, h.fileIndex,
      congrArg (· + _) h.position, hreceived ▸ hmore, ?_, ?_, ?_, ?_⟩
    · exact (filter_append_self hnext).trans (by rw [hnil, List.nil_append])
    · have hpos : (received files file id).receivedSize < (received files file id).totalSize := by
        rw [hreceived]
        exact h.totalSize.symm ▸ hmore
      have htiles := h.asked.snoc (nextRequest_pos hpos id)
      rw [requested, filter_append_self hnext, List.map_append, List.map_singleton]
      rw [← hreceived] at htiles
      exact htiles
    · intro r hr
      rw [filter_append_self hnext] at hr
      rcases List.mem_append.mp hr with hr | hr
      · exact h.index r hr
      · rw [List.mem_singleton.mp hr, nextRequest, received, h.fileIndex]
    · exact (h.written hfile).trans (by rw [hreceived])

/-- What giving a file its name does to the directory, and to the account of the files
that are complete. -/
inductive Named (t t' : Download) (temp name : String) : Prop
  /-- the temporary file is no longer there -/
  | missing : t.backend.disk.entries temp = none →
      t'.backend.disk.entries = t.backend.disk.entries → Named t t' temp name
  | renamed (k : ℕ) : t.backend.disk.entries temp = some k →
      t'.backend.disk.entries =
        Function.update (Function.update t.backend.disk.entries temp none) name (some k) →
      (t'.backend.incomingFiles.keys = [] →
        t'.events = t.events ++ t.backend.portalSerial.toList.map
          (.filesReady (t.backend.completedFiles ++ [name]))) →
      (t'.backend.incomingFiles.keys ≠ [] →
        t'.events = t.events ∧ t'.backend.portalSerial = t.backend.portalSerial ∧
          t'.backend.completedFiles = t.backend.completedFiles ++ [name]) →
      Named t t' temp name

/-- A file that is finalized is given its name. -/
theorem named_of_finalize {s : StagingFileTransfer}
    (hentries : s.disk.entries = t.backend.disk.entries)
    (hserial : s.portalSerial = t.backend.portalSerial)
    (hcompleted : s.completedFiles = t.backend.completedFiles)
    (hbackend : t'.backend = (s.finalize .ok id file).backend)
    (hevents : t'.events = t.events ++ (s.finalize .ok id file).events) :
    Named t t' file.tempPath file.filename := by
  -- the file has its name, or it has gone and the rename fails
  rcases hk : s.disk.entries file.tempPath with - | k
  · rw [finalize_missing hk] at hbackend
    exact .missing (hentries ▸ hk) (hbackend ▸ hentries)
  · rw [finalize_renamed hk] at hbackend hevents
    have hsource : t.backend.disk.entries file.tempPath = some k := hentries ▸ hk
    dsimp only at hbackend hevents
    -- with the last stream the manager is told, and not before
    by_cases hkeys : (s.incomingFiles.erase id).keys = []
    · rw [if_pos hkeys] at hbackend hevents
      refine .renamed k hsource ?_ (fun _ => ?_) fun hne => ?_
      · rw [hbackend, ← hentries]
      · rw [hevents, ← hserial, ← hcompleted]
      · rw [hbackend] at hne
        exact absurd hkeys hne
    · rw [if_neg hkeys] at hbackend hevents
      refine .renamed k hsource ?_ (fun hnil => ?_) fun _ => ⟨?_, ?_, ?_⟩
      · rw [hbackend, ← hentries]
      · rw [hbackend] at hnil
        exact absurd hnil hkeys
      · rw [hevents, List.append_nil]
      · rw [hbackend, ← hserial]
      · rw [hbackend, ← hcompleted]

theorem Loading.step_complete (h : Loading files t id d file)
    (hn : t.outstanding[n]? = some (nextRequest file id))
    (hfile : (files (asI32 d.fileIndex)).length = d.size)
    (hall : file.receivedSize + (nextRequest file id).requestedSize = d.size)
    (hstep : step files t n = some t') :
    Frame t t' id file.file ∧ Loaded t' id d ∧
      t'.backend.disk.contents file.file = files (asI32 d.fileIndex) ∧
      Named t t' (tempName d.filename id) d.filename := by
  have hlen := (h.answer hfile).1
  have hid : (nextRequest file id).streamId = id := rfl
  -- the part is the last one: it is written, and the file is closed and named
  have hdeliver : t.backend.deliverFileData id (answerOf files (nextRequest file id)) false .ok =
      (t.backend.writeThrough id file (answerOf files (nextRequest file id))
        (answerOf files (nextRequest file id)).length).1.finalize .ok id
          (received files file id) :=
    deliver_complete h.incoming rfl (h.totalSize ▸ Nat.zero_lt_of_lt h.more)
      (by rw [hlen, h.totalSize]; omega)
  generalize hs : (t.backend.writeThrough id file (answerOf files (nextRequest file id))
        (answerOf files (nextRequest file id)).length).1 = s at hdeliver
  have hcontents : s.disk.contents file.file = files (asI32 d.fileIndex) := by
    rw [← hs]
    refine (h.written hfile).trans ?_
    rw [hall, ← hfile, List.take_length]
  obtain ⟨-, hnil, hothers⟩ := filter_eraseIdx hn hid h.awaited
  obtain ⟨hrequests, hincoming, hdisk, hsender⟩ := finalize_ok s id (received files file id)
  obtain rfl := step_eq hn hstep
  rw [hid, hdeliver, hrequests, List.append_nil, List.append_nil]
  -- the other streams and files stay as they were
  refine ⟨⟨?_, ?_, ?_, ?_, ?_⟩, ⟨?_, hnil, ?_, h.index⟩, ?_, ?_⟩
  · intro i hi
    rw [hincoming, AList.lookup_erase_ne hi, ← hs]
    exact AList.lookup_insert_ne hi
  · intro i hi
    exact hothers hi
  · intro i hi
    rfl
  · intro k hk
    rw [hdisk, ← hs]
    exact Function.update_of_ne hk _ _
  · rw [hsender, ← hs]
    rfl
  · rw [hincoming, AList.lookup_erase]
  · exact hall ▸ h.asked
  · rw [hdisk, hcontents]
  · have htemp : (received files file id).tempPath = tempName d.filename id := h.tempPath
    have hname : (received files file id).filename = d.filename := h.filename
    rw [← htemp, ← hname]
    exact named_of_finalize (hs ▸ rfl) (hs ▸ rfl) (hs ▸ rfl) rfl rfl

/-- One step: the next chunk of a file on its way is answered, and there is more to come
or the file is complete. -/
theorem step_cases (hB : Books files all t)
    (hfiles : ∀ {id d}, (id, d) ∈ all → (files (asI32 d.fileIndex)).length = d.size)
    (h : step files t n = some t') :
    ∃ id d file, (id, d) ∈ all ∧ Loading files t id d file ∧
      t.outstanding[n]? = some (nextRequest file id) ∧ Frame t t' id file.file ∧
      ((Loading files t' id d (received files file id) ∧ t'.events = t.events ∧
          t'.backend.disk.entries = t.backend.disk.entries ∧
          t'.backend.portalSerial = t.backend.portalSerial ∧
          t'.backend.completedFiles = t.backend.completedFiles) ∨
        (file.totalSize ≤ file.receivedSize + (answerOf files (nextRequest file id)).length ∧
          Loaded t' id d ∧ t'.backend.disk.contents file.file = files (asI32 d.fileIndex) ∧
          Named t t' (tempName d.filename id) d.filename)) := by
  obtain ⟨id, d, file, hmem, hL, hn⟩ := step_loading hB h
  have hle := nextRequest_le (hL.totalSize ▸ hL.more.le) id
  rw [hL.totalSize] at hle
  refine ⟨id, d, file, hmem, hL, hn, ?_⟩
  rcases hle.lt_or_eq with hmore | hall
  · obtain ⟨hF, hrest⟩ := hL.step_more hn (hfiles hmem) hB.sender hmore h
    exact ⟨hF, .inl hrest⟩
  · obtain ⟨hF, hrest⟩ := hL.step_complete hn (hfiles hmem) hall h
    refine ⟨hF, .inr ⟨?_, hrest⟩⟩
    rw [(hL.answer (hfiles hmem)).1, hL.totalSize, hall]

/-- The account of the streams holds all along. -/
theorem books_step (hB : Books files all t) (hids : (all.map Prod.fst).Nodup)
    (hfiles : ∀ {id d}, (id, d) ∈ all → (files (asI32 d.fileIndex)).length = d.size)
    (h : step files t n = some t') : Books files all t' := by
  obtain ⟨id, d, file, hmem, hL, -, hF, hnew⟩ := step_cases hB hfiles h
  refine hB.step hids hmem hL hF ?_
  rcases hnew with ⟨hL', -⟩ | ⟨-, hL', -⟩
  · exact .inl ⟨_, hL', rfl⟩
  · exact .inr hL'

/-- When no request is open, no file is awaited. -/
theorem Books.rest (hB : Books files all t) (hrest : t.outstanding = []) {id : ℕ}
    {d : TransferFileDescriptor} (hmem : (id, d) ∈ all) : Loaded t id d := by
  rcases hB.stream hmem with ⟨file, hL⟩ | hL
  · have hawaited := hL.awaited
    rw [hrest] at hawaited
    cases hawaited
  · exact hL

/-! ### The number of answers -/

/-- How much of a file has come. -/
def progress (t : Download) (stream : ℕ × TransferFileDescriptor) : ℕ :=
  match t.backend.incomingFiles.lookup stream.1 with
  | some file => file.receivedSize
  | none => stream.2.size

theorem Loading.progress (h : Loading files t id d file) :
    t.progress (id, d) = file.receivedSize := by
  rw [Download.progress, h.incoming]

theorem Loaded.progress (h : Loaded t id d) : t.progress (id, d) = d.size := by
  rw [Download.progress, h.gone]

theorem Frame.progress (hF : Frame t t' id k) (hi : i ≠ id) :
    t'.progress (i, e) = t.progress (i, e) := by
  rw [Download.progress, hF.incoming hi, Download.progress]

/-- Every answer brings something. -/
theorem progress_step (hB : Books files all t) (hids : (all.map Prod.fst).Nodup)
    (hfiles : ∀ {id d}, (id, d) ∈ all → (files (asI32 d.fileIndex)).length = d.size)
    (h : step files t n = some t') :
    (all.map t.progress).sum < (all.map t'.progress).sum := by
  obtain ⟨id, d, file, hmem, hL, -, hF, hnew⟩ := step_cases hB hfiles h
  have hmore : t.progress (id, d) < t'.progress (id, d) := by
    rw [hL.progress]
    rcases hnew with ⟨hL', -⟩ | ⟨-, hL', -⟩
    · have hpos := nextRequest_pos (hL.totalSize ▸ hL.more) id
      rw [hL'.progress, received, (hL.answer (hfiles hmem)).1]
      exact Nat.lt_add_of_pos_right hpos
    · rw [hL'.progress]
      exact hL.more
  refine List.sum_lt_sum _ _ (fun stream hs => ?_) ⟨(id, d), hmem, hmore⟩
  by_cases hi : stream.1 = id
  · obtain rfl : stream = (id, d) :=
      Prod.ext hi (descriptor_unique hids (hi ▸ hs) hmem)
    exact hmore.le
  · exact (hF.progress hi).ge

theorem progress_le (hB : Books files all t) :
    (all.map t.progress).sum ≤ (all.map fun stream => stream.2.size).sum := by
  refine List.sum_le_sum fun stream hs => ?_
  rcases hB.stream hs with ⟨file, hL⟩ | hL
  · rw [hL.progress]
    exact hL.more.le
  · exact hL.progress.le

/-! ### The directory -/

/-- The directory, as long as no name was taken that stood for another file: what is on
its way stands under its temporary name, what has come under its own. -/
structure Stored (files : ℤ → Bytes) (all : List (ℕ × TransferFileDescriptor))
    (portalSerial : ℕ) (t : Download) : Prop where
  temps : ∀ {id file}, t.backend.incomingFiles.lookup id = some file →
    t.backend.disk.entries file.tempPath = some file.file
  stored : ∀ {id d}, (id, d) ∈ all → t.backend.incomingFiles.lookup id = none →
    ∃ k, t.backend.disk.entries d.filename = some k ∧
      t.backend.disk.contents k = files (asI32 d.fileIndex) ∧
      ∀ {i f}, t.backend.incomingFiles.lookup i = some f → f.file ≠ k ∧ f.tempPath ≠ d.filename
  waiting : t.backend.incomingFiles.keys ≠ [] →
    t.events = [] ∧ t.backend.portalSerial = some portalSerial ∧
      t.backend.completedFiles.Nodup ∧
      ∀ {name}, name ∈ t.backend.completedFiles ↔
        ∃ id d, (id, d) ∈ all ∧ t.backend.incomingFiles.lookup id = none ∧ d.filename = name
  done : t.backend.incomingFiles.keys = [] →
    ∃ paths, t.events = [.filesReady paths portalSerial] ∧
      paths.Perm (all.map fun stream => stream.2.filename)

/-- A file that has come is not under its name, or will not stay there. -/
def Lost (all : List (ℕ × TransferFileDescriptor)) (t : Download) : Prop :=
  ∃ id d, (id, d) ∈ all ∧ t.backend.incomingFiles.lookup id = none ∧
    ((∃ i f, t.backend.incomingFiles.lookup i = some f ∧ f.tempPath = d.filename) ∨
      t.backend.disk.entries d.filename = none)

/-- A file name belongs to one stream. -/
theorem stream_unique (hnames : (all.map fun stream => stream.2.filename).Nodup)
    (hi : (i, e) ∈ all) (hmem : (id, d) ∈ all) (h : e.filename = d.filename) : i = id :=
  (Prod.mk.inj (List.inj_on_of_nodup_map hnames hi hmem h)).1

theorem Loading.keys (h : Loading files t id d file) : t.backend.incomingFiles.keys ≠ [] := by
  have hmem : id ∈ t.backend.incomingFiles.keys := AList.lookup_isSome.mp (h.incoming ▸ rfl)
  exact List.ne_nil_of_mem hmem

/-- A file that is awaited belongs to a stream. -/
theorem Books.loading (hB : Books files all t)
    (hl : t.backend.incomingFiles.lookup id = some file) :
    ∃ d, (id, d) ∈ all ∧ Loading files t id d file := by
  obtain ⟨d, hmem⟩ := hB.known (AList.lookup_isSome.mp (Option.isSome_iff_exists.mpr ⟨_, hl⟩))
  rcases hB.stream hmem with ⟨file', hL⟩ | hL
  · obtain rfl := Option.some.inj (hL.incoming.symm.trans hl)
    exact ⟨d, hmem, hL⟩
  · exact absurd (hL.gone.symm.trans hl) (by simp)

/-- A lost file stays lost. -/
theorem lost_step (hB : Books files all t)
    (hnames : (all.map fun stream => stream.2.filename).Nodup)
    (hfiles : ∀ {id d}, (id, d) ∈ all → (files (asI32 d.fileIndex)).length = d.size)
    (h : step files t n = some t') (hlost : Lost all t) : Lost all t' := by
  obtain ⟨id, d, file, hmem, hL, -, hF, hnew⟩ := step_cases hB hfiles h
  obtain ⟨i, e, hi, hgone, hlost⟩ := hlost
  have hne : i ≠ id := hL.ne_of_gone hgone
  have hname : e.filename ≠ d.filename := fun heq => hne (stream_unique hnames hi hmem heq)
  refine ⟨i, e, hi, (hF.incoming hne).trans hgone, ?_⟩
  rcases hnew with ⟨hL', -, hentries, -⟩ | ⟨-, hL', -, hnamed⟩
  · rcases hlost with ⟨j, f, hj, hf⟩ | hlost
    · left
      by_cases hji : j = id
      · subst hji
        obtain rfl := Option.some.inj (hL.incoming.symm.trans hj)
        exact ⟨j, _, hL'.incoming, hf⟩
      · exact ⟨j, f, (hF.incoming hji).trans hj, hf⟩
    · exact .inr (hentries ▸ hlost)
  · -- the file that is given its name is not the lost one
    have hkeep : t.backend.disk.entries e.filename = none →
        t'.backend.disk.entries e.filename = none := by
      intro hnone
      cases hnamed with
      | missing _ hentries => rwa [hentries]
      | renamed k _ hentries =>
          rw [hentries, Function.update_of_ne hname]
          by_cases htemp : e.filename = tempName d.filename id
          · rw [htemp, Function.update_self]
          · rwa [Function.update_of_ne htemp]
    rcases hlost with ⟨j, f, hj, hf⟩ | hlost
    · by_cases hji : j = id
      · -- its name was the temporary name that goes now
        subst hji
        obtain rfl := Option.some.inj (hL.incoming.symm.trans hj)
        have htemp : e.filename = tempName d.filename j := hf.symm.trans hL.tempPath
        right
        cases hnamed with
        | missing hsource hentries => rw [hentries, htemp, hsource]
        | renamed k _ hentries =>
            rw [hentries, Function.update_of_ne hname, htemp, Function.update_self]
      · exact .inl ⟨j, f, (hF.incoming hji).trans hj, hf⟩
    · exact .inr (hkeep hlost)

/-- A name that was the temporary name of another file is lost. -/
theorem lost_of_not_apart (hB : Books files all t)
    (hfiles : ∀ {id d}, (id, d) ∈ all → (files (asI32 d.fileIndex)).length = d.size)
    (h : step files t n = some t') (hapart : ¬ Apart files t n) : Lost all t' := by
  obtain ⟨id, d, file, hmem, hL, hn, hF, hnew⟩ := step_cases hB hfiles h
  simp only [Apart, not_forall, not_ne_iff] at hapart
  obtain ⟨r, hr, file', hfile', hall, ⟨i, f⟩, hf, hne, hclash⟩ := hapart
  obtain rfl := Option.some.inj (hn.symm.trans hr)
  obtain rfl := Option.some.inj (hL.incoming.symm.trans hfile')
  have hf : t.backend.incomingFiles.lookup i = some f := AList.mem_lookup_iff.mpr hf
  rcases hnew with ⟨hL', -⟩ | ⟨-, hL', -⟩
  · -- the file is complete
    have hmore : file.receivedSize + (answerOf files (nextRequest file id)).length < d.size :=
      hL'.more
    have htotal := hL.totalSize
    omega
  · refine ⟨id, d, hmem, hL'.gone, .inl ⟨i, f, (hF.incoming hne).trans hf, ?_⟩⟩
    exact hclash.trans hL.filename

/-- An answer after which there is more to come keeps the directory. -/
theorem stored_more {portalSerial : ℕ} {file' : IncomingFile}
    (hS : Stored files all portalSerial t) (hL : Loading files t id d file)
    (hF : Frame t t' id file.file) (hL' : Loading files t' id d file')
    (hfile : file'.file = file.file) (hevents : t'.events = t.events)
    (hentries : t'.backend.disk.entries = t.backend.disk.entries)
    (hserial : t'.backend.portalSerial = t.backend.portalSerial)
    (hcompleted : t'.backend.completedFiles = t.backend.completedFiles) :
    Stored files all portalSerial t' := by
  -- an open file was open before, through the same handle and under the same name
  have hold : ∀ {i f}, t'.backend.incomingFiles.lookup i = some f →
      ∃ f', t.backend.incomingFiles.lookup i = some f' ∧ f'.file = f.file ∧
        f'.tempPath = f.tempPath := by
    intro i f hf
    by_cases hi : i = id
    · subst hi
      obtain rfl := Option.some.inj (hL'.incoming.symm.trans hf)
      exact ⟨file, hL.incoming, hfile.symm, hL.tempPath.trans hL'.tempPath.symm⟩
    · exact ⟨f, (hF.incoming hi).symm.trans hf, rfl, rfl⟩
  have hnone : ∀ {i}, t'.backend.incomingFiles.lookup i = none ↔
      t.backend.incomingFiles.lookup i = none := by
    intro i
    by_cases hi : i = id
    · subst hi
      simp [hL.incoming, hL'.incoming]
    · rw [hF.incoming hi]
  refine ⟨?_, ?_, ?_, fun hkeys => absurd hkeys hL'.keys⟩
  · intro i f hf
    obtain ⟨f', hf', hsame, htemp⟩ := hold hf
    rw [hentries, ← htemp, ← hsame]
    exact hS.temps hf'
  · intro i e hi hgone
    obtain ⟨k, hentry, hcontent, hothers⟩ := hS.stored hi (hnone.mp hgone)
    refine ⟨k, hentries ▸ hentry, ?_, ?_⟩
    · rw [hF.contents fun hk => (hothers hL.incoming).1 hk.symm, hcontent]
    · intro j f hf
      obtain ⟨f', hf', hsame, htemp⟩ := hold hf
      exact hsame ▸ htemp ▸ hothers hf'
  · intro _
    obtain ⟨hnothing, hwaits, hnodup, hnames⟩ := hS.waiting hL.keys
    refine ⟨hevents.trans hnothing, hserial.trans hwaits, hcompleted ▸ hnodup, ?_⟩
    intro name
    rw [hcompleted, hnames]
    simp only [hnone]

/-- The files that are complete once a stream has ended: those before, and its own. -/
theorem complete_iff (hids : (all.map Prod.fst).Nodup) (hmem : (id, d) ∈ all)
    (hL : Loading files t id d file) (hF : Frame t t' id k) (hL' : Loaded t' id d)
    {name : String} :
    (∃ i e, (i, e) ∈ all ∧ t'.backend.incomingFiles.lookup i = none ∧ e.filename = name) ↔
      (∃ i e, (i, e) ∈ all ∧ t.backend.incomingFiles.lookup i = none ∧ e.filename = name) ∨
        name = d.filename := by
  constructor
  · rintro ⟨i, e, hi, hgone, rfl⟩
    by_cases hne : i = id
    · subst hne
      rw [descriptor_unique hids hi hmem]
      exact .inr rfl
    · exact .inl ⟨i, e, hi, (hF.incoming hne).symm.trans hgone, rfl⟩
  · rintro (⟨i, e, hi, hgone, heq⟩ | rfl)
    · exact ⟨i, e, hi, (hF.incoming (hL.ne_of_gone hgone)).trans hgone, heq⟩
    · exact ⟨id, d, hmem, hL'.gone, rfl⟩

/-- The file that is complete now is not yet in the account. -/
theorem nodup_completed {portalSerial : ℕ}
    (hnames : (all.map fun stream => stream.2.filename).Nodup)
    (hS : Stored files all portalSerial t) (hmem : (id, d) ∈ all)
    (hL : Loading files t id d file) :
    (t.backend.completedFiles ++ [d.filename]).Nodup := by
  obtain ⟨-, -, hnodup, hmembers⟩ := hS.waiting hL.keys
  refine List.nodup_append.mpr ⟨hnodup, List.nodup_singleton _, ?_⟩
  rintro _ ha _ hb rfl
  obtain ⟨i, e, hi, hgone, heq⟩ := hmembers.mp ha
  exact hL.ne_of_gone hgone
    (stream_unique hnames hi hmem (heq.trans (List.mem_singleton.mp hb)))

/-- When no file is on its way, all names are those of files that are complete. -/
theorem names_of_keys (hkeys : t.backend.incomingFiles.keys = []) {name : String} :
    (∃ i e, (i, e) ∈ all ∧ t.backend.incomingFiles.lookup i = none ∧ e.filename = name) ↔
      name ∈ all.map fun stream => stream.2.filename := by
  rw [List.mem_map]
  constructor
  · rintro ⟨i, e, hi, -, heq⟩
    exact ⟨(i, e), hi, heq⟩
  · rintro ⟨⟨i, e⟩, hi, heq⟩
    refine ⟨i, e, hi, AList.lookup_eq_none.mpr fun hin => ?_, heq⟩
    have hin' : i ∈ t.backend.incomingFiles.keys := hin
    rw [hkeys] at hin'
    exact List.not_mem_nil hin'

/-- An answer that completes a file whose name stands for no other keeps the directory. -/
theorem stored_complete {portalSerial : ℕ} (hB : Books files all t)
    (hids : (all.map Prod.fst).Nodup)
    (hnames : (all.map fun stream => stream.2.filename).Nodup)
    (hS : Stored files all portalSerial t) (hmem : (id, d) ∈ all)
    (hL : Loading files t id d file) (hF : Frame t t' id file.file) (hL' : Loaded t' id d)
    (hcontents : t'.backend.disk.contents file.file = files (asI32 d.fileIndex))
    (hnamed : Named t t' (tempName d.filename id) d.filename)
    (hapart : ∀ {i f}, t.backend.incomingFiles.lookup i = some f → i ≠ id →
      f.tempPath ≠ d.filename) : Stored files all portalSerial t' := by
  -- another stream was on its way until now, so nothing had been told
  obtain ⟨hnothing, hwaits, -, hmembers⟩ := hS.waiting hL.keys
  have hsource := hS.temps hL.incoming
  rw [hL.tempPath] at hsource
  cases hnamed with
  | missing hnone => cases hnone.symm.trans hsource
  | renamed k hk hentries hlast hmore =>
  obtain rfl := Option.some.inj (hsource.symm.trans hk)
  have hnodup := nodup_completed hnames hS hmem hL
  -- the names stored are those of the streams that have ended
  have hnow : ∀ {name}, name ∈ t.backend.completedFiles ++ [d.filename] ↔
      ∃ i e, (i, e) ∈ all ∧ t'.backend.incomingFiles.lookup i = none ∧ e.filename = name := by
    intro name
    rw [complete_iff hids hmem hL hF hL', List.mem_append, hmembers, List.mem_singleton]
  refine ⟨?_, ?_, ?_, ?_⟩
  · -- a stream that goes on keeps its temporary file
    intro i f hf
    obtain ⟨hne, hf⟩ := hF.lookup_of_some hL' hf
    obtain ⟨e, hi, hLf⟩ := hB.loading hf
    rw [hentries, Function.update_of_ne (hapart hf hne), Function.update_of_ne]
    · exact hS.temps hf
    · rw [hLf.tempPath]
      exact fun heq => hne (tempName_inj heq)
  · -- one that has ended has its contents under its name: the new one by the step, an older one
    -- still
    intro i e hi hgone
    by_cases hne : i = id
    · subst hne
      obtain rfl := descriptor_unique hids hi hmem
      refine ⟨file.file, hentries ▸ Function.update_self .., hcontents, ?_⟩
      intro j f hf
      obtain ⟨hj, hf⟩ := hF.lookup_of_some hL' hf
      exact ⟨fun heq => hj (hB.handles hf hL.incoming heq), hapart hf hj⟩
    · obtain ⟨k, hentry, hcontent, hothers⟩ :=
        hS.stored hi ((hF.incoming hne).symm.trans hgone)
      obtain ⟨hk, htemp⟩ := hothers hL.incoming
      have hname : e.filename ≠ d.filename := fun heq => hne (stream_unique hnames hi hmem heq)
      refine ⟨k, ?_, ?_, fun hf => hothers (hF.lookup_of_some hL' hf).2⟩
      · rw [hentries, Function.update_of_ne hname, Function.update_of_ne, hentry]
        exact fun heq => htemp (hL.tempPath.trans heq.symm)
      · rw [hF.contents fun heq => hk heq.symm, hcontent]
  · -- while others go on the manager waits; behind the last it has every name
    intro hkeys
    obtain ⟨hevents, hserial, hcompleted⟩ := hmore hkeys
    exact ⟨hevents.trans hnothing, hserial.trans hwaits, hcompleted ▸ hnodup,
      hcompleted ▸ hnow⟩
  · intro hkeys
    refine ⟨_, (hlast hkeys).trans (by rw [hnothing, hwaits]; rfl), ?_⟩
    refine (List.perm_ext_iff_of_nodup hnodup hnames).mpr fun name => ?_
    rw [hnow, names_of_keys hkeys]

/-- A step that takes no other file's name keeps the directory. -/
theorem stored_step {portalSerial : ℕ} (hB : Books files all t)
    (hids : (all.map Prod.fst).Nodup)
    (hnames : (all.map fun stream => stream.2.filename).Nodup)
    (hfiles : ∀ {id d}, (id, d) ∈ all → (files (asI32 d.fileIndex)).length = d.size)
    (hS : Stored files all portalSerial t) (h : step files t n = some t')
    (hapart : Apart files t n) : Stored files all portalSerial t' := by
  obtain ⟨id, d, file, hmem, hL, hn, hF, hnew⟩ := step_cases hB hfiles h
  rcases hnew with ⟨hL', hevents, hentries, hserial, hcompleted⟩ |
    ⟨hall, hL', hcontents, hnamed⟩
  · exact stored_more hS hL hF hL' rfl hevents hentries hserial hcompleted
  · refine stored_complete hB hids hnames hS hmem hL hF hL' hcontents hnamed ?_
    intro i f hf hne
    exact hL.filename ▸ hapart _ hn file hL.incoming hall ⟨i, f⟩ (AList.mem_lookup_iff.mp hf) hne

end

/-! ### A whole download -/

section

variable {files : ℤ → Bytes} {s : StagingFileTransfer} {descriptors : List TransferFileDescriptor}
  {portalSerial : ℕ} {es : List ℕ} {t : Download}

theorem start_stored (hne : descriptors ≠ []) :
    Stored files (streams s.nextStreamId descriptors) portalSerial
      (start s descriptors portalSerial) := by
  have hopened := start_opened s descriptors portalSerial
  obtain ⟨hserial, hcompleted, -⟩ := prepareEach_rest
    { s.clearIncoming with portalSerial := some portalSerial, sender := true } descriptors
  have hpresent : ∀ {id d}, (id, d) ∈ streams s.nextStreamId descriptors →
      (start s descriptors portalSerial).backend.incomingFiles.lookup id ≠ none := by
    intro id d hmem hnone
    exact AList.lookup_eq_none.mp hnone (hopened.present hmem)
  -- every stream has just been opened, so none has ended
  refine ⟨?_, fun hmem hnone => absurd hnone (hpresent hmem), ?_, ?_⟩
  · intro id file hl
    obtain ⟨-, -, -, -, hentry, -⟩ := hopened.incoming hl
    exact hentry
  · intro _
    refine ⟨rfl, hserial, ?_, ?_⟩
    · exact hcompleted.symm ▸ List.nodup_nil
    · intro name
      constructor
      · intro hin
        exact absurd (hcompleted ▸ hin) List.not_mem_nil
      · rintro ⟨id, d, hmem, hnone, -⟩
        exact absurd hnone (hpresent hmem)
  · -- there is a descriptor, and so a stream
    intro hkeys
    obtain ⟨d, ds, rfl⟩ := List.exists_cons_of_ne_nil hne
    have hin := hopened.present (List.mem_cons_self : (s.nextStreamId.toNat, d) ∈ _)
    have hin' : s.nextStreamId.toNat ∈
        (start s (d :: ds) portalSerial).backend.incomingFiles.keys := hin
    rw [hkeys] at hin'
    exact absurd hin' List.not_mem_nil

/-- What a call of `prepare_files` can download: some files, none of them empty, on
streams that differ. -/
structure Sound (descriptors : List TransferFileDescriptor) : Prop where
  nonempty : descriptors ≠ []
  sizes : ∀ d ∈ descriptors, 0 < d.size
  length : descriptors.length ≤ 2 ^ 32

/-- The requests are only added to. -/
theorem sent_mono (hrun : Run (StepOf (step files)) (start s descriptors portalSerial) es t) :
    (start s descriptors portalSerial).sent <+: t.sent := by
  refine hrun.invariant (P := fun t => (start s descriptors portalSerial).sent <+: t.sent)
    List.prefix_rfl fun {t e u} hpre hst => ?_
  obtain ⟨r, -, rfl⟩ := Option.map_eq_some_iff.mp hst
  exact hpre.trans (List.prefix_append _ _)

theorem firstRequest_pos (d : TransferFileDescriptor) (id : ℕ) :
    0 < (firstRequest d id).requestedSize := by
  by_cases hd : 0 < d.size
  · rw [firstRequest_eq hd id 0]
    exact nextRequest_pos hd id
  · simp [firstRequest, hd, maxChunkSize_pos]

/-- The first requests of a stream all ask for the first byte. -/
theorem countP_firstRequest (all : List (ℕ × TransferFileDescriptor)) (id : ℕ) :
    (((all.map fun stream => firstRequest stream.2 stream.1).filter (·.streamId = id)).map
      fun r => (r.position, r.requestedSize)).countP (inChunk 0) =
      (all.map Prod.fst).count id := by
  induction all with
  | nil => rfl
  | cons stream all ih =>
      rw [List.map_cons, List.filter_cons, List.map_cons, List.count_cons, ← ih]
      by_cases hid : stream.1 = id
      · have hin : inChunk 0 ((firstRequest stream.2 stream.1).position,
            (firstRequest stream.2 stream.1).requestedSize) = true := by
          have hpos := firstRequest_pos stream.2 stream.1
          exact decide_eq_true ⟨le_rfl, (Nat.zero_add _).symm ▸ hpos⟩
        have hstream : (firstRequest stream.2 stream.1).streamId = id := hid
        rw [if_pos (decide_eq_true hstream), List.map_cons, List.countP_cons, hin]
        simp [hid]
      · have hstream : ¬ (firstRequest stream.2 stream.1).streamId = id := hid
        simp [hstream, hid]

/-- A download that is complete was of files that can be downloaded. -/
theorem sound_of_complete
    (hrun : Run (StepOf (step files)) (start s descriptors portalSerial) es t)
    (h : Complete files (streams s.nextStreamId descriptors) portalSerial t) :
    Sound descriptors := by
  -- the first requests, as they are counted among those of their stream
  have hfirst : ∀ {id d}, (id, d) ∈ streams s.nextStreamId descriptors →
      ((streams s.nextStreamId descriptors).map Prod.fst).count id ≤
        (t.requested id).countP (inChunk 0) := by
    intro id d _
    have hpre := (sent_mono hrun).sublist
    rw [start_requests] at hpre
    rw [← countP_firstRequest]
    exact ((hpre.filter _).map _).countP_le
  have hmem : ∀ {d}, d ∈ descriptors → ∃ id, (id, d) ∈ streams s.nextStreamId descriptors := by
    intro d hd
    rw [← streams_snd s.nextStreamId descriptors] at hd
    obtain ⟨⟨id, d⟩, hin, rfl⟩ := List.mem_map.mp hd
    exact ⟨id, hin⟩
  refine ⟨?_, ?_, ?_⟩
  · rintro rfl
    obtain ⟨paths, hevents, -⟩ := h.announced
    have hnil := hrun.invariant (P := fun t => t.outstanding = [] ∧ t.events = []) ⟨rfl, rfl⟩
      fun {t e u} hP hst => by simp [StepOf, step, hP.1] at hst
    rw [hnil.2] at hevents
    cases hevents
  · intro d hd
    obtain ⟨id, hin⟩ := hmem hd
    by_contra hzero
    have hnil : t.requested id = [] := by
      have htiles := h.tiled hin
      rw [Nat.eq_zero_of_not_pos hzero] at htiles
      exact tiles_self htiles
    have hcount := hfirst hin
    rw [hnil] at hcount
    have hpos := List.count_pos_iff.mpr (List.mem_map.mpr ⟨_, hin, rfl⟩ :
      id ∈ (streams s.nextStreamId descriptors).map Prod.fst)
    simp at hcount
    omega
  · rw [← streams_nodup_iff s.nextStreamId, List.nodup_iff_count_le_one]
    intro id
    by_cases hid : id ∈ (streams s.nextStreamId descriptors).map Prod.fst
    · obtain ⟨⟨id, d⟩, hin, rfl⟩ := List.mem_map.mp hid
      refine (hfirst hin).trans ?_
      exact (h.tiled hin).countP_le_one 0
    · exact (List.count_eq_zero.mpr hid).trans_le zero_le_one

section

variable (hsound : Sound descriptors)
  (hfiles : ∀ {id d}, (id, d) ∈ streams s.nextStreamId descriptors →
    (files (asI32 d.fileIndex)).length = d.size)
  (hrun : Run (StepOf (step files)) (start s descriptors portalSerial) es t)
include hsound hfiles

theorem books_run (hrun : Run (StepOf (step files)) (start s descriptors portalSerial) es t) :
    Books files (streams s.nextStreamId descriptors) t := by
  have hids := (streams_nodup_iff s.nextStreamId descriptors).mpr hsound.length
  exact hrun.invariant (start_books hids hsound.sizes)
    fun hB hst => books_step hB hids hfiles hst

include hrun

theorem answers_progress :
    es.length ≤ ((streams s.nextStreamId descriptors).map t.progress).sum := by
  have hids := (streams_nodup_iff s.nextStreamId descriptors).mpr hsound.length
  induction hrun with
  | nil => exact Nat.zero_le _
  | snoc hr hst ih =>
      rw [List.length_append]
      exact Nat.lt_of_le_of_lt ih
        (progress_step (books_run hsound hfiles hr) hids hfiles hst)

/-- Every answer brings something, so there are no more of them than bytes. -/
theorem answers_le : es.length ≤ (descriptors.map fun d => d.size).sum := by
  have hle := progress_le (books_run hsound hfiles hrun)
  rw [streams_map fun d => d.size] at hle
  exact (answers_progress hsound hfiles hrun).trans hle

/-- A run in which some file took another's name has lost it. -/
theorem guarded_or_lost
    (hnames : ((streams s.nextStreamId descriptors).map fun stream => stream.2.filename).Nodup) :
    Run (Guarded (StepOf (step files)) (Apart files)) (start s descriptors portalSerial) es t ∨
      Lost (streams s.nextStreamId descriptors) t := by
  induction hrun with
  | nil => exact .inl .nil
  | @snoc _ t n u hr hst ih =>
      have hB := books_run hsound hfiles hr
      rcases ih with hguarded | hlost
      · by_cases hapart : Apart files t n
        · exact .inl (hguarded.snoc ⟨hst, hapart⟩)
        · exact .inr (lost_of_not_apart hB hfiles hst hapart)
      · exact .inr (lost_step hB hnames hfiles hst hlost)

/-- What is lost is not found when no request is open. -/
theorem not_complete_of_lost (hrest : t.outstanding = [])
    (hlost : Lost (streams s.nextStreamId descriptors) t) :
    ¬ Complete files (streams s.nextStreamId descriptors) portalSerial t := by
  intro h
  have hB := books_run hsound hfiles hrun
  obtain ⟨id, d, hmem, -, ⟨i, f, hf, -⟩ | hnone⟩ := hlost
  · obtain ⟨e, hi, -⟩ := hB.loading hf
    exact absurd ((hB.rest hrest hi).gone.symm.trans hf) (by simp)
  · have hread := h.stored hmem
    rw [Disk.read, hnone] at hread
    cases hread

end

/-- When no file took another's name, all is in place once no request is open. -/
theorem complete_of_guarded (hsound : Sound descriptors)
    (hfiles : ∀ {id d}, (id, d) ∈ streams s.nextStreamId descriptors →
      (files (asI32 d.fileIndex)).length = d.size)
    (hnames : ((streams s.nextStreamId descriptors).map fun stream => stream.2.filename).Nodup)
    (hguarded : Run (Guarded (StepOf (step files)) (Apart files))
      (start s descriptors portalSerial) es t) (hrest : t.outstanding = []) :
    Complete files (streams s.nextStreamId descriptors) portalSerial t := by
  have hids := (streams_nodup_iff s.nextStreamId descriptors).mpr hsound.length
  have hB := books_run hsound hfiles hguarded.unguard
  have hS : Stored files (streams s.nextStreamId descriptors) portalSerial t := by
    clear hrest hB
    induction hguarded with
    | nil => exact start_stored hsound.nonempty
    | snoc hr hst ih =>
        exact stored_step (books_run hsound hfiles hr.unguard) hids hnames hfiles ih hst.1 hst.2
  refine ⟨fun hmem => (hB.rest hrest hmem).asked, ?_, ?_, hS.done ?_⟩
  · intro id d hmem r hr hid
    exact (hB.rest hrest hmem).index r (List.mem_filter.mpr ⟨hr, decide_eq_true hid⟩)
  · intro id d hmem
    obtain ⟨k, hentry, hcontent, -⟩ := hS.stored hmem (hB.rest hrest hmem).gone
    rw [Disk.read, hentry, Option.map_some, hcontent]
  · rw [List.eq_nil_iff_forall_not_mem]
    intro id hid
    obtain ⟨d, hmem⟩ := hB.known hid
    exact AList.lookup_eq_none.mp (hB.rest hrest hmem).gone hid

/-- A download, from any state of the backend, of files under different names.

It takes no more answers than there are bytes.  When no request is open, every file has
been asked for exactly once, is stored as the client has it and is announced by the only
event, exactly if the files can be downloaded and no file was given a name that was the
temporary name of another. -/
theorem staging_download_iff (files : ℤ → Bytes) (s : StagingFileTransfer)
    (descriptors : List TransferFileDescriptor) (portalSerial : ℕ)
    (hnames : (descriptors.map fun d => d.filename).Nodup)
    (hfiles : ∀ d ∈ descriptors, (files (asI32 d.fileIndex)).length = d.size)
    (hrun : Run (StepOf (step files)) (start s descriptors portalSerial) es t) :
    (Sound descriptors → es.length ≤ (descriptors.map fun d => d.size).sum) ∧
      (t.outstanding = [] →
        (Complete files (streams s.nextStreamId descriptors) portalSerial t ↔
          Sound descriptors ∧
            Run (Guarded (StepOf (step files)) (Apart files))
              (start s descriptors portalSerial) es t)) := by
  rw [← streams_map (fun d => d.filename) s.nextStreamId] at hnames
  have hfiles' : ∀ {id d}, (id, d) ∈ streams s.nextStreamId descriptors →
      (files (asI32 d.fileIndex)).length = d.size := fun hin =>
    hfiles _ (streams_snd s.nextStreamId descriptors ▸ List.mem_map.mpr ⟨_, hin, rfl⟩)
  refine ⟨fun hsound => answers_le hsound hfiles' hrun, fun hrest => ⟨fun hcomplete => ?_, ?_⟩⟩
  · have hsound := sound_of_complete hrun hcomplete
    refine ⟨hsound, ?_⟩
    rcases guarded_or_lost hsound hfiles' hrun hnames with hguarded | hlost
    · exact hguarded
    · exact absurd hcomplete (not_complete_of_lost hsound hfiles' hrun hrest hlost)
  · rintro ⟨hsound, hguarded⟩
    exact complete_of_guarded hsound hfiles' hnames hguarded hrest

/-- Two files. -/
def twoFiles : List TransferFileDescriptor :=
  [{ filename := "a", size := 2, fileIndex := 0, clipDataId := 0 },
    { filename := "b", size := 1, fileIndex := 1, clipDataId := 0 }]

/-- The contents of two files. -/
def twoContents (index : ℤ) : Bytes := if index = 0 then [1, 2] else [3]

/-- Two files, the second answered first. -/
theorem staging_download_two :
    ∃ t, Run (StepOf (step twoContents)) (start .new twoFiles 7) [1, 0] t ∧
      t.outstanding = [] ∧ Complete twoContents (streams 1 twoFiles) 7 t := by
  obtain ⟨t, hguarded, ht⟩ : ∃ t, Run (Guarded (StepOf (step twoContents)) (Apart twoContents))
      (start .new twoFiles 7) [1, 0] t ∧ t.outstanding = [] :=
    Run.exists_guarded_of_foldlM Download.outstanding (by decide)
  have hdownload := staging_download_iff twoContents .new twoFiles 7 (by decide) (by decide)
    hguarded.unguard
  refine ⟨t, hguarded.unguard, ht, (hdownload.2 ht).mpr ⟨⟨?_, ?_, ?_⟩, hguarded⟩⟩
  · simp [twoFiles]
  · decide
  · decide

/-- A file of no bytes. -/
def emptyFile : List TransferFileDescriptor :=
  [{ filename := "a", size := 0, fileIndex := 0, clipDataId := 0 }]

/-- A file of no bytes is answered, and never announced. -/
theorem empty_file_not_complete :
    ∃ t, Run (StepOf (step fun _ => [])) (start .new emptyFile 1) [0] t ∧ t.outstanding = [] ∧
      ¬ Complete (fun _ => []) (streams 1 emptyFile) 1 t := by
  obtain ⟨t, hrun, ht⟩ : ∃ t, Run (StepOf (step fun _ => [])) (start .new emptyFile 1) [0] t ∧
      (t.outstanding, t.events) = ([], []) :=
    Run.exists_of_foldlM (fun t : Download => (t.outstanding, t.events)) (by decide)
  refine ⟨t, hrun, congrArg Prod.fst ht, fun h => ?_⟩
  obtain ⟨paths, hevents, -⟩ := h.announced
  cases (congrArg Prod.snd ht).symm.trans hevents

end

end Download

end LamcoRdp
