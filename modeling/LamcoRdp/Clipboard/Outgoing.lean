/-
LamcoRdp/Clipboard/Outgoing.lean

Files offered to the client: the two ways of publishing a list of them, and the requests
that the client makes for the files of the list.

`prepare_outgoing_file_copy` lists the files of a copy that is announced;
`handle_file_descriptor_request` answers a request for the list.  Each hands a list of
`OutgoingFileInfo` to the backend, and a request names a file by its position in the list
that was sent.  The backends look that position up in their own list.  The first way
fills both lists in step; the second leaves the files that cannot be read out of one of
them (`outgoing_requests_iff`).
-/
import LamcoRdp.Clipboard.Staging

namespace LamcoRdp

/-! ### Local files -/

/-- A component of a path, as `Path::components` gives it. -/
inductive PathComponent
  | normal (name : String)
  | parentDir
  deriving DecidableEq, Repr

/-- An absolute path: its components. -/
abbrev LocalPath := List PathComponent

/-- `Path::file_name`: the last component, unless that is `..`. -/
def fileName (path : LocalPath) : Option String :=
  match path.getLast? with
  | some (.normal name) => some name
  | _ => none

/-- What the file system tells of a file. -/
structure Metadata where
  len : ℕ
  isDir : Bool
  deriving DecidableEq, Repr

/-- `OutgoingFileInfo`. -/
structure OutgoingFileInfo where
  listIndex : ℕ
  path : LocalPath
  size : ℕ
  filename : String
  deriving DecidableEq, Repr

/-- The attributes that a descriptor may have. -/
inductive ClipboardFileAttributes
  | directory
  | archive
  deriving DecidableEq, Repr

/-- `FileDescriptor`. -/
structure FileDescriptor where
  name : String
  fileSize : Option ℕ
  attributes : Option ClipboardFileAttributes
  deriving DecidableEq, Repr

/-! ### The two ways of publishing -/

section

-- what the clipboard provider reads: the data of a MIME type, or nothing
variable (provider : Option (Mime → Option Bytes)) (parseFileUris : Bytes → List LocalPath)
  (metadata : LocalPath → Option Metadata)

/-- The data of one MIME type, or of another when there is none. -/
def readOr (read : Mime → Option Bytes) (mime other : Mime) : Option Bytes :=
  match read mime with
  | some [] => read other
  | some data => some data
  | none => read other

/-- The paths that `prepare_outgoing_file_copy` finds. -/
def copyPaths : List LocalPath :=
  match provider.bind fun read => readOr read uriListMime gnomeFilesMime with
  | some data => parseFileUris data
  | none => []

/-- The size that is published: that of the metadata, and 0 without. -/
def publishedSize (path : LocalPath) : ℕ := ((metadata path).map Metadata.len).getD 0

/-- `FileDescriptor` of a path, with its published size. -/
def fileDescriptor (filename : String) (path : LocalPath) : FileDescriptor where
  name := filename
  fileSize := some (publishedSize metadata path)
  attributes := some <|
    if ((metadata path).map Metadata.isDir).getD false then .directory else .archive

/-- One round of the loop of `prepare_outgoing_file_copy`. -/
def copyRound (lists : List FileDescriptor × List OutgoingFileInfo) (path : LocalPath) :
    List FileDescriptor × List OutgoingFileInfo :=
  match fileName path with
  | none => lists
  | some "" => lists
  | some filename =>
      (lists.1 ++ [fileDescriptor metadata filename path],
        lists.2 ++ [{ listIndex := lists.1.length % 2 ^ 32, path
                      size := publishedSize metadata path, filename }])

/-- `prepare_outgoing_file_copy`: the descriptors, which `SendInitiateFileCopy` takes to
the client, and what the backend is told. -/
def prepareOutgoingFileCopy : Option (List FileDescriptor × List OutgoingFileInfo) :=
  let lists := (copyPaths provider parseFileUris).foldl (copyRound metadata) ([], [])
  if lists.1 = [] then none else some lists

/-- The paths that `handle_file_descriptor_request` finds; without a provider or data it
answers as for no paths. -/
def requestPaths : List LocalPath :=
  match provider.bind fun read => readOr read gnomeFilesMime uriListMime with
  | some data => parseFileUris data
  | none => []

/-- What `handle_file_descriptor_request` keeps of a path. -/
def requestInfo (index : ℕ) (path : LocalPath) : Option OutgoingFileInfo :=
  (metadata path).map fun m =>
    { listIndex := index % 2 ^ 32, path, size := m.len
      filename := (fileName path).getD "unknown" }

/-- The answer to a request for the list. -/
inductive FormatDataResponse
  | data (descriptors : List FileDescriptor)
  | error
  deriving DecidableEq, Repr

/-- `handle_file_descriptor_request`: the answer, and what the backend is told. -/
def handleFileDescriptorRequest
    (buildFileGroupDescriptorW : List LocalPath → Option (List FileDescriptor)) :
    FormatDataResponse × Option (List OutgoingFileInfo) :=
  let filePaths := requestPaths provider parseFileUris
  if filePaths = [] then (.error, none)
  else
    let outgoing := (filePaths.zipIdx.filterMap fun p => requestInfo metadata p.2 p.1)
    match buildFileGroupDescriptorW filePaths with
    | some descriptors => (.data descriptors, some outgoing)
    | none => (.error, some outgoing)

end

/-! ### Requests -/

/-- An answer to the client: a size, a range of data, or an error. -/
inductive FileContentsResponse
  | size (streamId size : ℕ)
  | data (streamId : ℕ) (data : Bytes)
  | error (streamId : ℕ)
  deriving DecidableEq, Repr

/-- What the system calls of a request return: whether the seek succeeds, and how much
at most is read, if anything. -/
structure ReadIo where
  seek : Bool
  read : Option ℕ
  deriving DecidableEq, Repr

/-- A request of the client for the size of a file or for a range of it. -/
structure OutgoingRequest where
  streamId : ℕ
  listIndex : UInt32
  position : ℕ
  requestedSize : ℕ
  isSizeRequest : Bool
  deriving DecidableEq, Repr

/-- What a backend reads of an open file: FUSE passes over errors, staging does not. -/
def FileTransferBackend.readChunk (backend : FileTransferBackend) (content : Bytes)
    (position size : ℕ) (io : ReadIo) : Option Bytes :=
  match backend with
  | .fuse _ =>
      let start := if io.seek then position else 0
      some ((content.drop start).take (min size (io.read.getD 0)))
  | .staging =>
      if io.seek then io.read.map fun most => (content.drop position).take (min size most)
      else none

/-- `handle_outgoing_request`; `contents` is what there is to read now. -/
def FileTransferBackend.handleOutgoingRequest (backend : FileTransferBackend)
    (outgoing : List OutgoingFileInfo) (contents : LocalPath → Option Bytes) (io : ReadIo)
    (r : OutgoingRequest) : Except ClipboardError FileContentsResponse :=
  match outgoing[r.listIndex.toNat]? with
  | none => .error (.invalidState ("File index " ++ toString r.listIndex ++ " not found"))
  | some info =>
      if r.isSizeRequest then .ok (.size r.streamId info.size)
      else
        match (contents info.path).bind fun content =>
          backend.readChunk content r.position r.requestedSize io with
        | some data => .ok (.data r.streamId data)
        | none => .ok (.error r.streamId)

/-! ### Positions -/

/-- A list without some of its elements has the others in their places exactly if none
of them stands behind one that is left out. -/
theorem filter_positions_iff {α : Type*} (keep : α → Bool) (l : List α) (n : ℕ) :
    (∀ i < n, ∀ a, (l.filter keep)[i]? = some a → l[i]? = some a) ↔
      ∀ i < n, ∀ j a b, i < j → l[i]? = some a → l[j]? = some b → keep b = true →
        keep a = true := by
  induction l generalizing n with
  | nil => simp
  | cons x l ih =>
      cases n with
      | zero => simp
      | succ n =>
          by_cases hx : keep x = true
          · rw [List.filter_cons_of_pos hx]
            constructor
            · intro h i hi j a b hij ha hb hkeep
              obtain ⟨j, rfl⟩ := Nat.exists_eq_add_one_of_ne_zero (Nat.ne_zero_of_lt hij)
              cases i with
              | zero => exact Option.some.inj ha ▸ hx
              | succ i =>
                  have hrest := (ih n).mp fun i hi a => h (i + 1) (Nat.succ_lt_succ hi) a
                  exact hrest i (Nat.lt_of_succ_lt_succ hi) j a b (Nat.lt_of_succ_lt_succ hij)
                    ha hb hkeep
            · intro h i hi a ha
              cases i with
              | zero => exact ha
              | succ i =>
                  have hrest := (ih n).mpr fun i hi j a b hij =>
                    h (i + 1) (Nat.succ_lt_succ hi) (j + 1) a b (Nat.succ_lt_succ hij)
                  exact hrest i (Nat.lt_of_succ_lt_succ hi) a ha
          · rw [List.filter_cons_of_neg hx]
            constructor
            · -- the first that is kept would be in the place of `x`
              intro h i hi j a b hij ha hb hkeep
              obtain ⟨j, rfl⟩ := Nat.exists_eq_add_one_of_ne_zero (Nat.ne_zero_of_lt hij)
              have hin : b ∈ l.filter keep :=
                List.mem_filter.mpr ⟨List.mem_of_getElem? hb, hkeep⟩
              obtain ⟨c, cs, hc⟩ := List.exists_cons_of_ne_nil (List.ne_nil_of_mem hin)
              have hcx : x = c := Option.some.inj (h 0 (Nat.succ_pos n) c (by rw [hc]; rfl))
              have hkept : c ∈ l.filter keep := hc ▸ List.mem_cons_self
              exact absurd (hcx ▸ (List.mem_filter.mp hkept).2) hx
            · intro h i hi a ha
              have hin := List.mem_filter.mp (List.mem_of_getElem? ha)
              obtain ⟨j, hj⟩ := List.getElem?_of_mem hin.1
              exact absurd (h 0 (Nat.succ_pos n) (j + 1) x a (Nat.succ_pos j) rfl hj hin.2) hx

/-- The property that is asked of a backend: every answer is about the path behind the
descriptor at the position that was asked for, or it is a refusal. -/
def FileTransferBackend.Serves (backend : FileTransferBackend) (outgoing : List OutgoingFileInfo)
    (described : List LocalPath) (size : LocalPath → ℕ) : Prop :=
  ∀ contents io r response,
    backend.handleOutgoingRequest outgoing contents io r = .ok response →
    match response with
    | .size _ n => ∃ path, described[r.listIndex.toNat]? = some path ∧ n = size path
    | .data _ data => ∃ path content, described[r.listIndex.toNat]? = some path ∧
        contents path = some content ∧
        backend.readChunk content r.position r.requestedSize io = some data
    | .error _ => True

/-- A backend serves a list exactly if its own list has the same paths in the same
places, with their sizes. -/
theorem FileTransferBackend.serves_iff (backend : FileTransferBackend)
    (outgoing : List OutgoingFileInfo) (described : List LocalPath) (size : LocalPath → ℕ) :
    backend.Serves outgoing described size ↔
      ∀ i < 2 ^ 32, ∀ info, outgoing[i]? = some info →
        described[i]? = some info.path ∧ info.size = size info.path := by
  constructor
  · intro h i hi info hinfo
    have hindex : (UInt32.ofNat i).toNat = i := UInt32.toNat_ofNat_of_lt' hi
    -- all files are empty but that of the path that is read
    obtain ⟨path, content, hpath, hcontent, hchunk⟩ := h
      (fun path => if path = info.path then some [0] else some [])
      { seek := true, read := some 1 }
      { streamId := 0, listIndex := .ofNat i, position := 0, requestedSize := 1
        isSizeRequest := false } (.data 0 [0])
      (by cases backend <;> simp [handleOutgoingRequest, hindex, hinfo, readChunk])
    have hsame : path = info.path := by
      by_contra hne
      obtain rfl := Option.some.inj ((if_neg hne).symm.trans hcontent)
      cases backend <;> simp [readChunk] at hchunk
    subst hsame
    obtain ⟨path, hpath', hsize⟩ := h (fun _ => none) { seek := true, read := none }
      { streamId := 0, listIndex := .ofNat i, position := 0, requestedSize := 0
        isSizeRequest := true } (.size 0 info.size) (by simp [handleOutgoingRequest, hindex, hinfo])
    rw [hindex] at hpath hpath'
    obtain rfl := Option.some.inj (hpath.symm.trans hpath')
    exact ⟨hpath, hsize⟩
  · intro h contents io r response hresponse
    unfold handleOutgoingRequest at hresponse
    split at hresponse
    · cases hresponse
    · rename_i info hinfo
      obtain ⟨hpath, hsize⟩ := h _ r.listIndex.toNat_lt info hinfo
      split at hresponse
      · obtain rfl := Except.ok.inj hresponse
        exact ⟨info.path, hpath, hsize⟩
      · split at hresponse
        · rename_i data hdata
          obtain rfl := Except.ok.inj hresponse
          obtain ⟨content, hcontent, hchunk⟩ := Option.bind_eq_some_iff.mp hdata
          exact ⟨info.path, content, hpath, hcontent, hchunk⟩
        · obtain rfl := Except.ok.inj hresponse
          trivial

/-! ### The list that is sent, and the list that is served -/

section

variable (provider : Option (Mime → Option Bytes)) (parseFileUris : Bytes → List LocalPath)
  (metadata : LocalPath → Option Metadata)

/-- The paths that have a file name. -/
def named (paths : List LocalPath) : List LocalPath :=
  paths.filter fun path => ((fileName path).getD "" != "")

/-- The descriptor of a path that has a file name. -/
def describe (path : LocalPath) : FileDescriptor :=
  fileDescriptor metadata ((fileName path).getD "") path

/-- The two lists of a copy grow in step. -/
theorem copyRound_foldl (paths : List LocalPath)
    (lists : List FileDescriptor × List OutgoingFileInfo) (described : List LocalPath)
    (hdesc : lists.1 = described.map (describe metadata))
    (hinfo : lists.2.map (fun info => (info.path, info.size)) =
      described.map fun path => (path, publishedSize metadata path)) :
    (paths.foldl (copyRound metadata) lists).1 =
        (described ++ named paths).map (describe metadata) ∧
      (paths.foldl (copyRound metadata) lists).2.map (fun info => (info.path, info.size)) =
        (described ++ named paths).map fun path => (path, publishedSize metadata path) := by
  induction paths generalizing lists described with
  | nil => exact ⟨by simp [hdesc, named], by simp [hinfo, named]⟩
  | cons path paths ih =>
      rw [List.foldl_cons]
      -- a path without a name is left out of both lists
      by_cases hname : (fileName path).getD "" = ""
      · have hskip : copyRound metadata lists path = lists := by
          rcases hn : fileName path with - | name
          · simp [copyRound, hn]
          · rw [hn] at hname
            obtain rfl : name = "" := hname
            simp [copyRound, hn]
        have hnamed : named (path :: paths) = named paths := by simp [named, hname]
        rw [hskip, hnamed]
        exact ih lists described hdesc hinfo
      · -- any other is put at the end of both, with one size
        obtain ⟨name, hn⟩ : ∃ name, fileName path = some name := by
          rcases hn : fileName path with - | name
          · exact absurd (by rw [hn]; rfl) hname
          · exact ⟨name, rfl⟩
        have hname' : name ≠ "" := by simpa [hn] using hname
        have hpush : copyRound metadata lists path =
            (lists.1 ++ [fileDescriptor metadata name path],
              lists.2 ++ [{ listIndex := lists.1.length % 2 ^ 32, path
                            size := publishedSize metadata path, filename := name }]) := by
          simp [copyRound, hn]
        have hnamed : named (path :: paths) = path :: named paths := by
          simp [named, hname]
        rw [hnamed, List.append_cons]
        refine ih _ _ ?_ ?_
        · rw [hpush]
          simp [hdesc, describe, hn]
        · rw [hpush]
          simp [hinfo]

/-- Two lists with the same paths and sizes serve each other. -/
theorem FileTransferBackend.serves_of_map_eq {outgoing : List OutgoingFileInfo}
    {described : List LocalPath} (backend : FileTransferBackend)
    (h : outgoing.map (fun info => (info.path, info.size)) =
      described.map fun path => (path, publishedSize metadata path)) :
    backend.Serves outgoing described (publishedSize metadata) := by
  rw [serves_iff]
  intro i _ info hinfo
  have hi := congrArg (·[i]?) h
  simp only [List.getElem?_map, hinfo, Option.map_some] at hi
  obtain ⟨path, hpath, heq⟩ := Option.map_eq_some_iff.mp hi.symm
  obtain ⟨rfl, hsize⟩ := Prod.mk.inj heq
  exact ⟨hpath, hsize.symm⟩

/-- `prepare_outgoing_file_copy` describes the paths with a name, and serves them. -/
theorem prepareOutgoingFileCopy_serves (backend : FileTransferBackend)
    {descriptors : List FileDescriptor} {outgoing : List OutgoingFileInfo}
    (h : prepareOutgoingFileCopy provider parseFileUris metadata = some (descriptors, outgoing)) :
    descriptors = (named (copyPaths provider parseFileUris)).map (describe metadata) ∧
      backend.Serves outgoing (named (copyPaths provider parseFileUris))
        (publishedSize metadata) := by
  obtain ⟨hdesc, hinfo⟩ :=
    copyRound_foldl metadata (copyPaths provider parseFileUris) ([], []) [] rfl rfl
  obtain ⟨-, hlists⟩ := Option.ite_none_left_eq_some.mp h
  rw [Option.some.inj hlists] at hdesc hinfo
  exact ⟨hdesc, backend.serves_of_map_eq metadata hinfo⟩

/-- What `handle_file_descriptor_request` keeps: the paths that can be read. -/
theorem requestInfo_map (paths : List LocalPath) (n : ℕ) :
    ((paths.zipIdx n).filterMap fun p => requestInfo metadata p.2 p.1).map
        (fun info => (info.path, info.size)) =
      (paths.filter fun path => (metadata path).isSome).map
        fun path => (path, publishedSize metadata path) := by
  induction paths generalizing n with
  | nil => rfl
  | cons path paths ih =>
      rw [List.zipIdx_cons, List.filterMap_cons]
      rcases hm : metadata path with - | m
      · have hinfo : requestInfo metadata n path = none := by simp [requestInfo, hm]
        rw [hinfo, List.filter_cons_of_neg (by simp [hm])]
        exact ih (n + 1)
      · have hinfo : requestInfo metadata n path = some
            { listIndex := n % 2 ^ 32, path, size := m.len
              filename := (fileName path).getD "unknown" } := by simp [requestInfo, hm]
        have hsize : publishedSize metadata path = m.len := by simp [publishedSize, hm]
        rw [hinfo, List.filter_cons_of_pos (by simp [hm]), List.map_cons, List.map_cons, ih,
          hsize]

/-- No path that can be read stands behind one that cannot, as far as a request can ask
for. -/
def ReadableFirst (paths : List LocalPath) : Prop :=
  ∀ i < 2 ^ 32, ∀ j p q, i < j → paths[i]? = some p → paths[j]? = some q →
    (metadata q).isSome = true → (metadata p).isSome = true

/-- `handle_file_descriptor_request` serves the paths it describes exactly if those that
can be read come first. -/
theorem requestInfo_serves_iff (backend : FileTransferBackend) (paths : List LocalPath) :
    backend.Serves (paths.zipIdx.filterMap fun p => requestInfo metadata p.2 p.1) paths
        (publishedSize metadata) ↔ ReadableFirst metadata paths := by
  have hmap := requestInfo_map metadata paths 0
  generalize (paths.zipIdx.filterMap fun p => requestInfo metadata p.2 p.1) = outgoing at hmap
  have hget : ∀ i : ℕ, outgoing[i]?.map (fun info => (info.path, info.size)) =
      (paths.filter fun path => (metadata path).isSome)[i]?.map
        fun path => (path, publishedSize metadata path) := by
    intro i
    rw [← List.getElem?_map, hmap, List.getElem?_map]
  rw [backend.serves_iff, ReadableFirst, ← filter_positions_iff]
  constructor
  · intro h i hi path hpath
    have hi' := hget i
    rw [hpath, Option.map_some] at hi'
    obtain ⟨info, hinfo, heq⟩ := Option.map_eq_some_iff.mp hi'
    obtain ⟨rfl, -⟩ := Prod.mk.inj heq
    exact (h i hi info hinfo).1
  · intro h i hi info hinfo
    have hi' := hget i
    rw [hinfo, Option.map_some] at hi'
    obtain ⟨path, hpath, heq⟩ := Option.map_eq_some_iff.mp hi'.symm
    obtain ⟨rfl, hsize⟩ := Prod.mk.inj heq
    exact ⟨h i hi _ hpath, hsize.symm⟩

/-- The requests of the client are served from the files they name.

A copy that is announced is always served.  A list that was asked for is served exactly
if the paths that can be read come first, where the library makes one descriptor of each
path, in order. -/
theorem outgoing_requests_iff (backend : FileTransferBackend)
    (buildFileGroupDescriptorW : List LocalPath → Option (List FileDescriptor))
    (describes : LocalPath → FileDescriptor → Prop)
    (hbuild : ∀ {paths descriptors}, buildFileGroupDescriptorW paths = some descriptors →
      List.Forall₂ describes paths descriptors) :
    (∀ {descriptors outgoing},
      prepareOutgoingFileCopy provider parseFileUris metadata = some (descriptors, outgoing) →
        descriptors = (named (copyPaths provider parseFileUris)).map (describe metadata) ∧
          backend.Serves outgoing (named (copyPaths provider parseFileUris))
            (publishedSize metadata)) ∧
      ∀ {descriptors outgoing},
        handleFileDescriptorRequest provider parseFileUris metadata buildFileGroupDescriptorW =
            (.data descriptors, some outgoing) →
          List.Forall₂ describes (requestPaths provider parseFileUris) descriptors ∧
            (backend.Serves outgoing (requestPaths provider parseFileUris)
                (publishedSize metadata) ↔
              ReadableFirst metadata (requestPaths provider parseFileUris)) := by
  refine ⟨prepareOutgoingFileCopy_serves provider parseFileUris metadata backend, ?_⟩
  intro descriptors outgoing h
  unfold handleFileDescriptorRequest at h
  dsimp only at h
  -- without paths, or without descriptors for them, there is no data to send
  split at h
  · cases h
  · split at h
    · rename_i descs hdescs
      obtain ⟨hd, ho⟩ := Prod.mk.inj h
      obtain rfl := FormatDataResponse.data.inj hd
      obtain rfl := Option.some.inj ho
      exact ⟨hbuild hdescs, requestInfo_serves_iff metadata backend _⟩
    · cases h

end

/-- A clipboard with one list of files. -/
def oneList : Option (Mime → Option Bytes) := some fun _ => some [0]

/-- A file in the home directory. -/
def pathA : LocalPath := [.normal "home", .normal "a"]

/-- Another one beside it. -/
def pathB : LocalPath := [.normal "home", .normal "b"]

/-- Only the second file can be read. -/
def onlyB (path : LocalPath) : Option Metadata :=
  if path = pathB then some { len := 1, isDir := false } else none

/-- A library that describes a path by its name. -/
def buildByName (paths : List LocalPath) : Option (List FileDescriptor) :=
  some (paths.map fun path => ⟨(fileName path).getD "", none, none⟩)

/-- Two files, of which the one that can be read comes first. -/
theorem outgoing_requests_readable_first :
    ∃ descriptors outgoing,
      handleFileDescriptorRequest oneList (fun _ => [pathB, pathA]) onlyB buildByName =
        (.data descriptors, some outgoing) ∧
      FileTransferBackend.staging.Serves outgoing [pathB, pathA] (publishedSize onlyB) := by
  have hpublished : handleFileDescriptorRequest oneList (fun _ => [pathB, pathA]) onlyB
      buildByName = (.data [⟨"b", none, none⟩, ⟨"a", none, none⟩],
        some [{ listIndex := 0, path := pathB, size := 1, filename := "b" }]) := by decide
  have hserves := outgoing_requests_iff oneList (fun _ => [pathB, pathA]) onlyB .staging
    buildByName (fun path descriptor => descriptor.name = (fileName path).getD "") (by
      intro paths descriptors h
      obtain rfl := Option.some.inj h
      simp [List.forall₂_map_right_iff])
  refine ⟨_, _, hpublished, (hserves.2 hpublished).2.mpr ?_⟩
  intro i _ j p q hij _ hq hread
  match j with
  | 0 => exact absurd hij (Nat.not_lt_zero i)
  | 1 =>
      obtain rfl := Option.some.inj hq
      exact absurd hread (by decide)
  | j + 2 => cases hq

/-- A file that cannot be read before one that can: a request for the first is served
from the second. -/
theorem unreadable_first_serves_other :
    ∃ descriptors outgoing,
      handleFileDescriptorRequest oneList (fun _ => [pathA, pathB]) onlyB buildByName =
        (.data descriptors, some outgoing) ∧
      ¬ FileTransferBackend.staging.Serves outgoing [pathA, pathB] (publishedSize onlyB) := by
  refine ⟨[⟨"a", none, none⟩, ⟨"b", none, none⟩],
    [{ listIndex := 1, path := pathB, size := 1, filename := "b" }], by decide, fun h => ?_⟩
  -- the size of the second file is reported as that of the first
  obtain ⟨path, hpath, hsize⟩ := h (fun _ => none) { seek := true, read := none }
    { streamId := 0, listIndex := 0, position := 0, requestedSize := 8, isSizeRequest := true }
    (.size 0 1) (by decide)
  obtain rfl := Option.some.inj hpath
  revert hsize
  decide

end LamcoRdp
