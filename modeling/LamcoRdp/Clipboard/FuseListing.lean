/-
LamcoRdp/Clipboard/FuseListing.lean

The directory of the clipboard's files: `readdir`, `getattr`, `access`, `open` and
`opendir` of `clipboard/fuse.rs`.

`readdir` lists the two entries for directories and then the files, in the order of
the hash map, which may be any but does not change while the map does not.  A reader
that goes on from the cookies it was given gets every entry once, however small its
buffer (`fuse_listing`).  Each file listed can be opened for reading, by its inode;
its name leads to it exactly if no later file has that name.
-/
import LamcoRdp.Clipboard.FuseNames
import LamcoRdp.Lib.Paging

namespace LamcoRdp

open LastWrite Paging

/-! ### The file system -/

/-- The errors of the calls below. -/
inductive Errno
  | noEnt
  | notDir
  | acces
  deriving DecidableEq, Repr

/-- The kinds of entries. -/
inductive FileType
  | directory
  | regularFile
  deriving DecidableEq, Repr

/-- The attributes that differ from file to file. -/
structure FileAttr where
  ino : ℕ
  size : ℕ
  blocks : ℕ
  kind : FileType
  perm : ℕ
  nlink : ℕ
  deriving DecidableEq, Repr

/-- `to_attr`: read-only. -/
def VirtualFile.toAttr (file : VirtualFile) : FileAttr where
  ino := file.inode
  size := file.size
  blocks := (file.size + 511) / 512
  kind := .regularFile
  perm := 0o444
  nlink := 1

/-- `root_attr`. -/
def rootAttr : FileAttr where
  ino := rootInode
  size := 0
  blocks := 0
  kind := .directory
  perm := 0o555
  nlink := 2

/-- An entry of the directory. -/
structure DirEntry where
  inode : ℕ
  kind : FileType
  name : String
  deriving DecidableEq, Repr

namespace FuseMount

/-- `getattr`. -/
def getattr (m : FuseMount) (ino : ℕ) : Except Errno FileAttr :=
  if ino = rootInode then .ok rootAttr
  else
    match m.transfer.files ino with
    | some file => .ok file.toAttr
    | none => .error .noEnt

/-- `access`, which grants an inode that is there whatever is asked for. -/
def access (m : FuseMount) (ino : ℕ) : Except Errno Unit :=
  if ino = rootInode || (m.transfer.files ino).isSome then .ok () else .error .noEnt

/-- `open`: the file handle is the inode.  1 is O_WRONLY and 2 is O_RDWR. -/
def openFile (m : FuseMount) (ino : ℕ) (flags : ℕ) : Except Errno ℕ :=
  if flags &&& 1 ≠ 0 ∨ flags &&& 2 ≠ 0 then .error .acces
  else if (m.transfer.files ino).isSome then .ok ino
  else .error .noEnt

/-- `opendir`: there is one directory. -/
def opendir (ino : ℕ) : Except Errno ℕ := if ino = rootInode then .ok 0 else .error .notDir

/-- The entries of the directory; `order` is that of `files.values()`. -/
def entries (m : FuseMount) (order : List ℕ) : List DirEntry :=
  [⟨rootInode, .directory, "."⟩, ⟨rootInode, .directory, ".."⟩] ++
    order.filterMap fun ino =>
      (m.transfer.files ino).map fun file => ⟨file.inode, .regularFile, file.filename⟩

/-- `readdir`: what fits into the reader's buffer, with the cookies. -/
def readdir (m : FuseMount) (order : List ℕ) (ino offset room : ℕ) :
    Except Errno (List (ℕ × DirEntry)) :=
  if ino ≠ rootInode then .error .notDir else .ok (page (m.entries order) offset room)

/-- A reader of the directory `ino` from an offset on, with the room in its buffer at each call.
It goes on from the last cookie, until a call gives nothing: the entries, and whether it came to
the end. -/
def readdirAll (m : FuseMount) (order : List ℕ) (ino : ℕ) :
    ℕ → List ℕ → Except Errno (List DirEntry × Bool)
  | _, [] => .ok ([], false)
  | offset, room :: rooms => do
      let replies ← m.readdir order ino offset room
      match replies.getLast? with
      | none => .ok ([], true)
      | some (cookie, _) =>
          let (rest, ended) ← m.readdirAll order ino cookie rooms
          .ok (replies.map Prod.snd ++ rest, ended)

/-- In the root the calls read the entries page by page. -/
theorem readdirAll_root (m : FuseMount) (order : List ℕ) (offset : ℕ) (rooms : List ℕ) :
    m.readdirAll order rootInode offset rooms = .ok (readAll (m.entries order) offset rooms) := by
  induction rooms generalizing offset with
  | nil => rfl
  | cons room rooms ih =>
      have hpage : m.readdir order rootInode offset room =
          .ok (page (m.entries order) offset room) := if_neg (not_not.mpr rfl)
      rw [readdirAll, hpage, readAll]
      show (match (page (m.entries order) offset room).getLast? with
        | none => Except.ok ([], true)
        | some (cookie, _) => (m.readdirAll order rootInode cookie rooms).bind fun p =>
            .ok ((page (m.entries order) offset room).map Prod.snd ++ p.1, p.2)) = _
      rcases (page (m.entries order) offset room).getLast? with - | ⟨cookie, e⟩
      · rfl
      · dsimp only
        rw [ih cookie]
        rfl

/-- The order of the hash map: every inode of a file, once. -/
structure Enumerates (m : FuseMount) (order : List ℕ) : Prop where
  nodup : order.Nodup
  mem_iff : ∀ ino, ino ∈ order ↔ (m.transfer.files ino).isSome

/-! ### After a copy -/

variable {m : FuseMount} {descriptors : List FuseDescriptor} {clipDataId : Option ℕ}

/-- No file has the inode of the root or an inode below. -/
theorem files_setFiles_lt {ino : ℕ} (h : ino < firstFileInode) :
    (m.setFiles descriptors clipDataId).1.transfer.files ino = none := by
  induction descriptors using List.reverseRecOn with
  | nil => rfl
  | append_singleton descriptors desc ih =>
      have hnext := (written_setFiles m descriptors clipDataId).nextInode
      rw [setFiles, List.foldl_append]
      show Function.update (m.setFiles descriptors clipDataId).1.transfer.files
        (m.setFiles descriptors clipDataId).1.transfer.nextInode (some _) ino = none
      rw [hnext, Function.update_of_ne (by omega), ih]

/-- The files of a copy are those of its descriptors. -/
theorem files_setFiles_isSome_iff (ino : ℕ) :
    ((m.setFiles descriptors clipDataId).1.transfer.files ino).isSome ↔
      ino ∈ (List.range descriptors.length).map (firstFileInode + ·) := by
  rw [List.mem_map]
  constructor
  · intro h
    rcases Nat.lt_or_ge ino firstFileInode with hlt | hge
    · rw [files_setFiles_lt hlt] at h
      cases h
    · obtain ⟨index, rfl⟩ := Nat.exists_eq_add_of_le hge
      rw [(written_setFiles m descriptors clipDataId).files, Option.isSome_map] at h
      exact ⟨index, List.mem_range.mpr (by simpa using h), rfl⟩
  · rintro ⟨index, hindex, rfl⟩
    rw [(written_setFiles m descriptors clipDataId).files, Option.isSome_map]
    simpa using hindex

/-- The entry of the descriptor with the given index. -/
def entryOf (index : ℕ) (desc : FuseDescriptor) : DirEntry :=
  ⟨firstFileInode + index, .regularFile, desc.filename⟩

/-- The two entries for directories, and one for each descriptor. -/
def copyEntries (descriptors : List FuseDescriptor) : List DirEntry :=
  [⟨rootInode, .directory, "."⟩, ⟨rootInode, .directory, ".."⟩] ++ descriptors.mapIdx entryOf

theorem mapIdx_eq_filterMap {α β : Type*} (f : ℕ → α → β) (l : List α) :
    l.mapIdx f = (List.range l.length).filterMap fun i => l[i]?.map (f i) := by
  induction l using List.reverseRecOn with
  | nil => rfl
  | append_singleton l a ih =>
      rw [List.mapIdx_concat, ih, List.length_append, List.length_singleton, List.range_succ,
        List.filterMap_append]
      congr 1
      · refine List.filterMap_congr fun i hi => ?_
        rw [List.getElem?_append_left (List.mem_range.mp hi)]
      · rw [List.filterMap_cons_some (b := f l.length a)]
        · rfl
        · rw [List.getElem?_concat_length]
          rfl

/-- Whatever the order of the hash map, the entries are those of the copy. -/
theorem entries_perm {order : List ℕ}
    (horder : (m.setFiles descriptors clipDataId).1.Enumerates order) :
    ((m.setFiles descriptors clipDataId).1.entries order).Perm (copyEntries descriptors) := by
  have hperm : order.Perm ((List.range descriptors.length).map (firstFileInode + ·)) := by
    refine (List.perm_ext_iff_of_nodup horder.nodup ?_).mpr fun ino => ?_
    · exact List.nodup_range.map fun _ _ h => Nat.add_left_cancel h
    · rw [horder.mem_iff, files_setFiles_isSome_iff]
  refine List.Perm.append_left _ ((hperm.filterMap _).trans (List.Perm.of_eq ?_))
  rw [List.filterMap_map, mapIdx_eq_filterMap]
  refine List.filterMap_congr fun index _ => ?_
  show ((m.setFiles descriptors clipDataId).1.transfer.files (firstFileInode + index)).map _ = _
  rw [(written_setFiles m descriptors clipDataId).files, Option.map_map]
  rfl

/-- A file that is listed is there, read-only. -/
theorem openFile_setFiles {index : ℕ} {desc : FuseDescriptor}
    (h : descriptors[index]? = some desc) (flags : ℕ) :
    (m.setFiles descriptors clipDataId).1.openFile (firstFileInode + index) flags =
      if flags &&& 1 ≠ 0 ∨ flags &&& 2 ≠ 0 then .error .acces else .ok (firstFileInode + index) := by
  have hfile := (written_setFiles m descriptors clipDataId).files index
  rw [h] at hfile
  rw [openFile, hfile]
  rfl

theorem getattr_setFiles {index : ℕ} {desc : FuseDescriptor}
    (h : descriptors[index]? = some desc) :
    (m.setFiles descriptors clipDataId).1.getattr (firstFileInode + index) =
      .ok ⟨firstFileInode + index, desc.size, (desc.size + 511) / 512, .regularFile, 0o444, 1⟩ := by
  have hfile := (written_setFiles m descriptors clipDataId).files index
  have hroot : firstFileInode + index ≠ rootInode := by
    show 2 + index ≠ 1
    omega
  rw [h] at hfile
  rw [getattr, if_neg hroot, hfile]
  rfl

/-- A name leads to the inode it is listed with. -/
def Resolves (m : FuseMount) (e : DirEntry) : Prop :=
  (m.lookup rootInode e.name).map VirtualFile.inode = some e.inode

/-- Every name listed leads to its file exactly if no name is listed twice. -/
theorem resolves_iff_nodup :
    (∀ e ∈ descriptors.mapIdx entryOf, (m.setFiles descriptors clipDataId).1.Resolves e) ↔
      (descriptors.map (·.filename)).Nodup := by
  have hwritten := written_setFiles m descriptors clipDataId
  have hlookup : ∀ name, (m.setFiles descriptors clipDataId).1.lookup rootInode name =
      (assign (fun _ => none) (nameWrites descriptors) name).bind
        (m.setFiles descriptors clipDataId).1.transfer.files := by
    intro name
    rw [lookup, if_neg (not_not.mpr rfl), hwritten.names]
  constructor
  · intro h
    -- a name that is listed twice leads to one inode only
    rw [List.nodup_iff_injective_get, Function.Injective]
    intro i j hij
    have hleads : ∀ k : Fin (descriptors.map (·.filename)).length,
        ((m.setFiles descriptors clipDataId).1.lookup rootInode
          ((descriptors.map (·.filename)).get k)).map VirtualFile.inode =
            some (firstFileInode + k) := by
      intro k
      have hk : (k : ℕ) < descriptors.length := Nat.lt_of_lt_of_eq k.isLt (List.length_map _)
      have hmem : entryOf k descriptors[k] ∈ descriptors.mapIdx entryOf :=
        List.mem_mapIdx.mpr ⟨k, hk, rfl⟩
      have hname : (descriptors.map (·.filename)).get k = descriptors[k].filename := by simp
      rw [hname]
      exact h _ hmem
    have heq := (hleads i).symm.trans ((congrArg _ (congrArg _ hij)).trans (hleads j))
    exact Fin.ext (Nat.add_left_cancel (Option.some.inj heq))
  · intro hnodup e he
    obtain ⟨index, hindex, rfl⟩ := List.mem_mapIdx.mp he
    have hdesc : descriptors[index]? = some descriptors[index] := List.getElem?_eq_getElem hindex
    show ((m.setFiles descriptors clipDataId).1.lookup rootInode descriptors[index].filename).map
      VirtualFile.inode = some (firstFileInode + index)
    rw [hlookup, nameToInode_of_nodup hnodup hdesc]
    show ((m.setFiles descriptors clipDataId).1.transfer.files (firstFileInode + index)).map _ = _
    rw [hwritten.files, hdesc]
    rfl

/-- **The directory after a copy**, whatever the order of the hash map and however small the
reader's buffer, as long as it takes one entry.  Reading on from the cookies lists the files of
the copy, each once; each can be opened by its inode and not written to; and every name listed
leads to its file exactly if no two files have the same name. -/
theorem fuse_listing (m : FuseMount) (descriptors : List FuseDescriptor) (clipDataId : Option ℕ)
    (order rooms : List ℕ) (horder : (m.setFiles descriptors clipDataId).1.Enumerates order)
    (hrooms : ∀ room ∈ rooms, 1 ≤ room) (henough : descriptors.length + 2 < rooms.length) :
    (∃ listing, (m.setFiles descriptors clipDataId).1.readdirAll order rootInode 0 rooms =
        .ok (listing, true) ∧ listing.Perm (copyEntries descriptors)) ∧
      (∀ index desc flags, descriptors[index]? = some desc →
        (m.setFiles descriptors clipDataId).1.getattr (firstFileInode + index) =
            .ok ⟨firstFileInode + index, desc.size, (desc.size + 511) / 512, .regularFile, 0o444, 1⟩ ∧
          (m.setFiles descriptors clipDataId).1.openFile (firstFileInode + index) flags =
            if flags &&& 1 ≠ 0 ∨ flags &&& 2 ≠ 0 then .error .acces
            else .ok (firstFileInode + index)) ∧
      ((∀ e ∈ descriptors.mapIdx entryOf, (m.setFiles descriptors clipDataId).1.Resolves e) ↔
        (descriptors.map (·.filename)).Nodup) := by
  have hperm := entries_perm horder
  have hall : readAll ((m.setFiles descriptors clipDataId).1.entries order) 0 rooms =
      ((m.setFiles descriptors clipDataId).1.entries order, true) := by
    refine readAll_eq hrooms ?_
    rw [Nat.sub_zero, hperm.length_eq, copyEntries, List.length_append, List.length_mapIdx,
      Nat.add_comm]
    exact henough
  refine ⟨⟨_, ?_, hperm⟩, fun index desc flags h =>
    ⟨getattr_setFiles h, openFile_setFiles h flags⟩, resolves_iff_nodup⟩
  rw [readdirAll_root, hall]

/-- A mount without files. -/
def emptyMount : FuseMount := ⟨.init, fun _ => none, "/run/clip", by decide⟩

/-- Two files, listed in the order in which the map has them, one entry on a page. -/
theorem fuse_listing_two :
    ∃ listing, (emptyMount.setFiles [⟨"a", 1⟩, ⟨"b", 2⟩] none).1.readdirAll [3, 2] rootInode 0
        [1, 1, 1, 1, 1] = .ok (listing, true) ∧
      listing.Perm (copyEntries [⟨"a", 1⟩, ⟨"b", 2⟩]) := by
  have horder : (emptyMount.setFiles [⟨"a", 1⟩, ⟨"b", 2⟩] none).1.Enumerates [3, 2] := by
    refine ⟨by decide, fun ino => ?_⟩
    rw [files_setFiles_isSome_iff]
    show ino ∈ [3, 2] ↔ ino ∈ [2, 3]
    simp [or_comm]
  exact (fuse_listing emptyMount [⟨"a", 1⟩, ⟨"b", 2⟩] none [3, 2] [1, 1, 1, 1, 1] horder
    (by decide) (by decide)).1

end FuseMount

end LamcoRdp
