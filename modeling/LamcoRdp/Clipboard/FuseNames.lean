/-
LamcoRdp/Clipboard/FuseNames.lean

The files of a copy under their names.

`set_files` makes a virtual file for each descriptor and keeps two maps: the files by
their inodes, and the inodes by the file names.  An inode is taken once, a name may come
twice: the later file then has the name, and the two paths given out are one.
`set_files_addressable_iff` says when every file is found under the name of its path.
The index of a file is kept in 32 bits, and the names `""`, `"."` and `".."` name no file.
-/
import LamcoRdp.Clipboard.Conversion
import LamcoRdp.Lib.LastWrite
import LamcoRdp.Lib.UnixPath

namespace LamcoRdp

open LastWrite UnixPath

/-! ### The mount -/

/-- `ROOT_INODE`. -/
def rootInode : ℕ := 1

/-- The files of the mount, with the names they are found under. -/
structure FuseMount where
  transfer : FuseTransfer
  /-- `name_to_inode` -/
  nameToInode : String → Option ℕ
  mountPoint : String
  mountPoint_ne : mountPoint ≠ ""

namespace FuseMount

/-- `ClipboardFs::lookup`. -/
def lookup (m : FuseMount) (parent : ℕ) (name : String) : Option VirtualFile :=
  if parent ≠ rootInode then none else (m.nameToInode name).bind m.transfer.files

/-- `clear_files`. -/
def clearFiles (m : FuseMount) : FuseMount :=
  { m with transfer := m.transfer.clearFiles, nameToInode := fun _ => none }

/-- A round of the loop of `set_files`. -/
def addFile (clipDataId : Option ℕ) (acc : FuseMount × List String) (desc : FuseDescriptor) :
    FuseMount × List String :=
  let m := acc.1
  ({ m with
      transfer := m.transfer.insertFile desc clipDataId
      nameToInode := Function.update m.nameToInode desc.filename (some m.transfer.nextInode) },
    acc.2 ++ [join m.mountPoint desc.filename])

/-- `set_files`. -/
def setFiles (m : FuseMount) (descriptors : List FuseDescriptor) (clipDataId : Option ℕ) :
    FuseMount × List String :=
  descriptors.foldl (addFile clipDataId) (m.clearFiles, [])

/-- `prepare_files`. -/
def prepareFiles (m : FuseMount) (isMounted : Bool) (descriptors : List TransferFileDescriptor) :
    FuseMount × PrepareResult :=
  if !isMounted then (m, .failed)
  else
    let clipDataId := (descriptors.head?.map (·.clipDataId)).getD 1
    let fuseDescriptors := descriptors.map fun d => ⟨d.filename, d.size⟩
    let (m, paths) := m.setFiles fuseDescriptors (some clipDataId)
    (m, if paths = [] then .failed else .ready paths)

/-! ### The two maps after a call -/

/-- The file of the descriptor with the given index. -/
def fileOf (copy : ℕ) (clipDataId : Option ℕ) (index : ℕ) (desc : FuseDescriptor) : VirtualFile :=
  { inode := firstFileInode + index, filename := desc.filename, size := desc.size,
    fileIndex := index % 2 ^ 32, clipDataId, copy }

/-- What `set_files` writes down about names. -/
def nameWrites (descriptors : List FuseDescriptor) : List (String × Option ℕ) :=
  descriptors.mapIdx fun index desc => (desc.filename, some (firstFileInode + index))

variable {m : FuseMount} {descriptors : List FuseDescriptor} {clipDataId : Option ℕ}

/-- Everything that the loop has written. -/
structure Written (m : FuseMount) (clipDataId : Option ℕ) (descriptors : List FuseDescriptor)
    (acc : FuseMount × List String) : Prop where
  mountPoint : acc.1.mountPoint = m.mountPoint
  transfer : acc.1.transfer =
    (LamcoRdp.setFiles descriptors clipDataId).foldl FuseTransfer.step m.transfer
  nextInode : acc.1.transfer.nextInode = firstFileInode + descriptors.length
  copy : acc.1.transfer.copy = m.transfer.copy + 1
  files : ∀ index, acc.1.transfer.files (firstFileInode + index) =
    descriptors[index]?.map (fileOf (m.transfer.copy + 1) clipDataId index)
  names : acc.1.nameToInode = assign (fun _ => none) (nameWrites descriptors)
  paths : acc.2 = descriptors.map fun desc => join m.mountPoint desc.filename

theorem written_nil : Written m clipDataId [] (m.clearFiles, []) where
  mountPoint := rfl
  transfer := rfl
  nextInode := rfl
  copy := rfl
  files _ := rfl
  names := rfl
  paths := rfl

theorem Written.addFile {acc : FuseMount × List String} (h : Written m clipDataId descriptors acc)
    (desc : FuseDescriptor) :
    Written m clipDataId (descriptors ++ [desc]) (addFile clipDataId acc desc) where
  mountPoint := h.mountPoint
  transfer := by
    show acc.1.transfer.insertFile desc clipDataId = _
    rw [LamcoRdp.setFiles, List.map_append, ← List.cons_append, List.foldl_append, h.transfer]
    rfl
  nextInode := by
    show acc.1.transfer.nextInode + 1 = _
    rw [h.nextInode, List.length_append]
    rfl
  copy := h.copy
  files index := by
    show Function.update acc.1.transfer.files acc.1.transfer.nextInode (some _) _ = _
    rw [h.nextInode, h.copy]
    -- the new file has the next index, and the others keep theirs
    by_cases hindex : index = descriptors.length
    · subst hindex
      rw [Function.update_self, List.getElem?_concat_length, Nat.add_sub_cancel_left]
      rfl
    · rw [Function.update_of_ne (fun heq => hindex (Nat.add_left_cancel heq)), h.files]
      rcases Nat.lt_or_gt_of_ne hindex with hlt | hgt
      · rw [List.getElem?_append_left hlt]
      · rw [List.getElem?_eq_none (Nat.le_of_lt hgt), List.getElem?_eq_none]
        rw [List.length_append]
        exact hgt
  names := by
    show Function.update acc.1.nameToInode desc.filename (some acc.1.transfer.nextInode) = _
    rw [h.names, h.nextInode, nameWrites, nameWrites, List.mapIdx_concat, assign_snoc]
  paths := by
    show acc.2 ++ [join acc.1.mountPoint desc.filename] = _
    rw [h.paths, h.mountPoint, List.map_append]
    rfl

theorem written_setFiles (m : FuseMount) (descriptors : List FuseDescriptor)
    (clipDataId : Option ℕ) :
    Written m clipDataId descriptors (m.setFiles descriptors clipDataId) := by
  unfold setFiles
  induction descriptors using List.reverseRecOn with
  | nil => exact written_nil
  | append_singleton descriptors desc ih =>
      rw [List.foldl_append]
      exact ih.addFile desc

/-- The inode maps of a mount are those of the transfer that reads from it. -/
theorem setFiles_transfer : (m.setFiles descriptors clipDataId).1.transfer =
    (LamcoRdp.setFiles descriptors clipDataId).foldl FuseTransfer.step m.transfer :=
  (written_setFiles m descriptors clipDataId).transfer

/-- An empty list of files is a failure, and so is a mount that is not there. -/
theorem prepareFiles_result (isMounted : Bool) (files : List TransferFileDescriptor)
    (hend : m.mountPoint.toList.getLast? ≠ some '/')
    (hslash : ∀ d ∈ files, '/' ∉ d.filename.toList) :
    (m.prepareFiles isMounted files).2 =
      (FileTransferBackend.fuse m.mountPoint).prepareFiles isMounted files := by
  cases isMounted with
  | false => rfl
  | true =>
      have hpaths := (written_setFiles m (files.map fun d => ⟨d.filename, d.size⟩)
        (some ((files.head?.map (·.clipDataId)).getD 1))).paths
      have hjoin : ∀ d ∈ files,
          join m.mountPoint d.filename = m.mountPoint ++ "/" ++ d.filename := by
        intro d hd
        have hhead : d.filename.toList.head? ≠ some '/' :=
          fun h => hslash d hd (List.mem_of_mem_head? h)
        rw [join, if_neg hhead, if_neg (by simp [m.mountPoint_ne, hend])]
      rw [List.map_map] at hpaths
      have hfuse := hpaths.trans (List.map_congr_left hjoin)
      show (if (m.setFiles _ _).2 = [] then PrepareResult.failed else .ready (m.setFiles _ _).2) =
        if files = [] then .failed else .ready (fusePaths m.mountPoint files)
      rw [hfuse]
      simp only [fusePaths, List.map_eq_nil_iff]

/-! ### Names and indices -/

theorem nameWrites_concat (desc : FuseDescriptor) :
    nameWrites (descriptors ++ [desc]) =
      nameWrites descriptors ++ [(desc.filename, some (firstFileInode + descriptors.length))] :=
  List.mapIdx_concat

/-- A name leads to a file that has it. -/
theorem exists_index {name : String} {inode : ℕ}
    (h : assign (fun _ => none) (nameWrites descriptors) name = some inode) :
    ∃ index desc, descriptors[index]? = some desc ∧ desc.filename = name ∧
      inode = firstFileInode + index := by
  induction descriptors using List.reverseRecOn with
  | nil => cases h
  | append_singleton descriptors desc ih =>
      rw [nameWrites_concat, assign_snoc] at h
      by_cases hname : name = desc.filename
      · subst hname
        rw [Function.update_self] at h
        exact ⟨_, desc, List.getElem?_concat_length, rfl, (Option.some.inj h).symm⟩
      · rw [Function.update_of_ne hname] at h
        obtain ⟨index, desc', hindex, hdesc, hinode⟩ := ih h
        refine ⟨index, desc', ?_, hdesc, hinode⟩
        rw [List.getElem?_append_left (List.getElem?_eq_some_iff.mp hindex).1]
        exact hindex

/-- A name that comes once leads to its file. -/
theorem nameToInode_of_nodup (hnodup : (descriptors.map (·.filename)).Nodup) {index : ℕ}
    {desc : FuseDescriptor} (h : descriptors[index]? = some desc) :
    assign (fun _ => none) (nameWrites descriptors) desc.filename =
      some (firstFileInode + index) := by
  -- on the files from the last: the name that is written last has another file, or this one
  induction descriptors using List.reverseRecOn with
  | nil => cases h
  | append_singleton descriptors last ih =>
      rw [List.map_append, List.nodup_append] at hnodup
      obtain ⟨hfront, -, hdisjoint⟩ := hnodup
      rw [nameWrites_concat, assign_snoc]
      rcases Nat.lt_or_ge index descriptors.length with hlt | hge
      · rw [List.getElem?_append_left hlt] at h
        have hne : desc.filename ≠ last.filename :=
          hdisjoint _ (List.mem_map_of_mem (List.mem_of_getElem? h)) _ List.mem_cons_self
        rw [Function.update_of_ne hne]
        exact ih hfront h
      · rw [List.getElem?_append_right hge] at h
        have hzero : index - descriptors.length = 0 := by
          by_contra hne
          rw [List.getElem?_eq_none (by simpa using Nat.one_le_iff_ne_zero.mpr hne)] at h
          cases h
        obtain rfl : index = descriptors.length :=
          Nat.le_antisymm (Nat.sub_eq_zero_iff_le.mp hzero) hge
        rw [hzero] at h
        obtain rfl := Option.some.inj h
        rw [Function.update_self]

/-- What a look-up finds has the name, the size and the index of one of the descriptors. -/
theorem lookup_setFiles {name : String} {file : VirtualFile}
    (h : (m.setFiles descriptors clipDataId).1.lookup rootInode name = some file) :
    ∃ index desc, descriptors[index]? = some desc ∧ desc.filename = name ∧
      file = fileOf (m.transfer.copy + 1) clipDataId index desc := by
  have hwritten := written_setFiles m descriptors clipDataId
  rw [lookup, if_neg (not_not.mpr rfl), hwritten.names] at h
  obtain ⟨inode, hname, hfile⟩ := Option.bind_eq_some_iff.mp h
  obtain ⟨index, desc, hindex, hdesc, rfl⟩ := exists_index hname
  rw [hwritten.files, hindex] at hfile
  exact ⟨index, desc, hindex, hdesc, (Option.some.inj hfile).symm⟩

/-- Every file is found under the name of its path, and nothing else is. -/
structure Addressable (m : FuseMount) (paths : List String) (descriptors : List FuseDescriptor) :
    Prop where
  length : paths.length = descriptors.length
  distinct : paths.Pairwise fun p q => components p ≠ components q
  found : ∀ index desc path, descriptors[index]? = some desc → paths[index]? = some path →
    ∃ name file, UnixPath.fileName path = some name ∧ m.lookup rootInode name = some file ∧
      file.size = desc.size ∧ file.fileIndex = index
  dropped : ∀ name, name ∉ descriptors.map (·.filename) → m.lookup rootInode name = none

/-- The names are different, and names, and there are no more files than indices. -/
structure ProperNames (descriptors : List FuseDescriptor) : Prop where
  nodup : (descriptors.map (·.filename)).Nodup
  proper : ∀ desc ∈ descriptors,
    desc.filename ≠ "" ∧ desc.filename ≠ "." ∧ desc.filename ≠ ".."
  length_le : descriptors.length ≤ 2 ^ 32

theorem ProperNames.addressable (h : ProperNames descriptors)
    (hslash : ∀ desc ∈ descriptors, '/' ∉ desc.filename.toList) :
    Addressable (m.setFiles descriptors clipDataId).1 (m.setFiles descriptors clipDataId).2
      descriptors := by
  have hwritten := written_setFiles m descriptors clipDataId
  rw [hwritten.paths]
  have hcomponents : ∀ desc ∈ descriptors, components (join m.mountPoint desc.filename) =
      components m.mountPoint ++ [.normal desc.filename] := by
    intro desc hdesc
    obtain ⟨hempty, hdot, hdots⟩ := h.proper desc hdesc
    rw [components_join m.mountPoint_ne (hslash desc hdesc), part_name hempty hdot hdots]
    rfl
  refine ⟨List.length_map _, ?_, ?_, ?_⟩
  · -- the paths differ in their last components
    rw [List.pairwise_map]
    refine (List.pairwise_map.mp h.nodup).imp_of_mem ?_
    intro d e hd he hne heq
    rw [hcomponents d hd, hcomponents e he] at heq
    exact hne (Component.normal.inj (List.cons.inj (List.append_cancel_left heq)).1)
  · intro index desc path hdesc hpath
    rw [List.getElem?_map, hdesc] at hpath
    obtain rfl := Option.some.inj hpath
    have hmem := List.mem_of_getElem? hdesc
    obtain ⟨hempty, hdot, hdots⟩ := h.proper desc hmem
    refine ⟨desc.filename, fileOf (m.transfer.copy + 1) clipDataId index desc,
      fileName_join m.mountPoint_ne (hslash desc hmem) hempty hdot hdots, ?_, rfl, ?_⟩
    · rw [lookup, if_neg (not_not.mpr rfl), hwritten.names, nameToInode_of_nodup h.nodup hdesc]
      show (m.setFiles descriptors clipDataId).1.transfer.files (firstFileInode + index) = _
      rw [hwritten.files, hdesc]
      rfl
    · have hlt := (List.getElem?_eq_some_iff.mp hdesc).1
      exact Nat.mod_eq_of_lt (Nat.lt_of_lt_of_le hlt h.length_le)
  · intro name hname
    rcases hfile : (m.setFiles descriptors clipDataId).1.lookup rootInode name with - | file
    · rfl
    · obtain ⟨index, desc, hindex, rfl, -⟩ := lookup_setFiles hfile
      exact absurd (List.mem_map_of_mem (List.mem_of_getElem? hindex)) hname

theorem Addressable.properNames
    (h : Addressable (m.setFiles descriptors clipDataId).1 (m.setFiles descriptors clipDataId).2
      descriptors) : ProperNames descriptors := by
  have hpaths := (written_setFiles m descriptors clipDataId).paths
  have hfound : ∀ index desc, descriptors[index]? = some desc → ∃ name index' desc',
      UnixPath.fileName (join m.mountPoint desc.filename) = some name ∧
      (m.setFiles descriptors clipDataId).1.lookup rootInode name =
        some (fileOf (m.transfer.copy + 1) clipDataId index' desc') ∧
      descriptors[index']? = some desc' ∧ desc'.filename = name ∧ index' % 2 ^ 32 = index := by
    intro index desc hdesc
    obtain ⟨name, file, hname, hfile, -, hindex⟩ := h.found index desc _ hdesc (by
      rw [hpaths, List.getElem?_map, hdesc]
      rfl)
    obtain ⟨index', desc', hdesc', hname', rfl⟩ := lookup_setFiles hfile
    exact ⟨name, index', desc', hname, hfile, hdesc', hname', hindex⟩
  have hlength : descriptors.length ≤ 2 ^ 32 := by
    by_contra hlong
    have hlt := Nat.lt_of_not_le hlong
    obtain ⟨-, index', -, -, -, -, -, hindex⟩ := hfound _ _ (List.getElem?_eq_getElem hlt)
    exact absurd hindex (Nat.ne_of_lt (Nat.mod_lt index' (by decide)))
  -- the file that is found is the one whose path it is
  have hown : ∀ index desc, descriptors[index]? = some desc →
      UnixPath.fileName (join m.mountPoint desc.filename) = some desc.filename ∧
      (m.setFiles descriptors clipDataId).1.lookup rootInode desc.filename =
        some (fileOf (m.transfer.copy + 1) clipDataId index desc) := by
    intro index desc hdesc
    obtain ⟨name, index', desc', hname, hfile, hdesc', hname', hindex⟩ := hfound index desc hdesc
    have hlt := Nat.lt_of_lt_of_le (List.getElem?_eq_some_iff.mp hdesc').1 hlength
    rw [Nat.mod_eq_of_lt hlt] at hindex
    subst hindex
    obtain rfl := Option.some.inj (hdesc'.symm.trans hdesc)
    subst hname'
    exact ⟨hname, hfile⟩
  refine ⟨?_, ?_, hlength⟩
  · rw [List.nodup_iff_getElem?_ne_getElem?]
    intro i j hij hj heq
    rw [List.length_map] at hj
    have hi := Nat.lt_trans hij hj
    rw [List.getElem?_map, List.getElem?_map, List.getElem?_eq_getElem hi,
      List.getElem?_eq_getElem hj] at heq
    have hname : descriptors[i].filename = descriptors[j].filename := Option.some.inj heq
    have hi := (hown i _ (List.getElem?_eq_getElem hi)).2
    rw [hname, (hown j _ (List.getElem?_eq_getElem hj)).2] at hi
    have hinode := congrArg VirtualFile.inode (Option.some.inj hi)
    exact absurd (Nat.add_left_cancel hinode) (Nat.ne_of_gt hij)
  · intro desc hdesc
    obtain ⟨index, hindex⟩ := List.mem_iff_getElem?.mp hdesc
    exact fileName_ne (hown index desc hindex).1

/-- Every file of a list is found under the name of its path exactly if the names are
different, each is a name, and there are no more than `2 ^ 32` of them. -/
theorem set_files_addressable_iff (m : FuseMount) (descriptors : List FuseDescriptor)
    (clipDataId : Option ℕ) (hslash : ∀ desc ∈ descriptors, '/' ∉ desc.filename.toList) :
    Addressable (m.setFiles descriptors clipDataId).1 (m.setFiles descriptors clipDataId).2
      descriptors ↔ ProperNames descriptors :=
  ⟨Addressable.properNames, fun h => h.addressable hslash⟩

/-- A mount without files. -/
def empty : FuseMount where
  transfer := .init
  nameToInode _ := none
  mountPoint := "/run/user/1000/lamco-clipboard-fuse"
  mountPoint_ne := by decide

/-- Two files of different names. -/
theorem two_names_addressable :
    let files : List FuseDescriptor := [⟨"a.txt", 1⟩, ⟨"b.txt", 2⟩]
    Addressable (empty.setFiles files (some 1)).1 (empty.setFiles files (some 1)).2 files := by
  intro files
  obtain ⟨hslash, hnodup, hproper⟩ :
      (∀ desc ∈ files, '/' ∉ desc.filename.toList) ∧ (files.map (·.filename)).Nodup ∧
        ∀ desc ∈ files, desc.filename ≠ "" ∧ desc.filename ≠ "." ∧ desc.filename ≠ ".." := by
    decide +kernel
  exact (set_files_addressable_iff empty files (some 1) hslash).mpr ⟨hnodup, hproper, by decide⟩

/-- Two files of one name: the second one is found under it. -/
theorem shared_name_not_addressable :
    let files : List FuseDescriptor := [⟨"a.txt", 1⟩, ⟨"a.txt", 2⟩]
    (∀ desc ∈ files, '/' ∉ desc.filename.toList) ∧
      ¬ Addressable (empty.setFiles files (some 1)).1 (empty.setFiles files (some 1)).2 files := by
  refine ⟨by decide +kernel, fun h => ?_⟩
  have hnodup := h.properNames.nodup
  exact absurd hnodup (by decide +kernel)

end FuseMount

end LamcoRdp
