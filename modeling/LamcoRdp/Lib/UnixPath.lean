/-
LamcoRdp/Lib/UnixPath.lean

Unix paths, as the standard library of Rust reads them.

A path is a text that slashes cut into segments.  Two paths are the same if their
components are: empty segments and `.` count for nothing, except for the slash or the
`.` at the beginning.  `join` puts a path behind another one, and `fileName` is the last
component, if it is a name.

`components_join` says what the components are when one segment is put behind a path.
-/
import Mathlib.Data.List.Basic

namespace UnixPath

/-- `std::path::Component`. -/
inductive Component
  | rootDir
  | curDir
  | parentDir
  | normal (name : String)
  deriving DecidableEq, Repr

/-- What is between the slashes. -/
def segments (path : String) : List (List Char) := path.toList.splitOn '/'

/-- The component that a segment is. -/
def part (segment : List Char) : Option Component :=
  if segment = [] ∨ segment = ['.'] then none
  else if segment = ['.', '.'] then some .parentDir
  else some (.normal (String.ofList segment))

/-- The component that the beginning of a path is. -/
def root : List (List Char) → List Component
  | [] => []
  | segment :: rest =>
      if segment = [] ∧ rest ≠ [] then [.rootDir] else if segment = ['.'] then [.curDir] else []

/-- `Path::components`. -/
def components (path : String) : List Component :=
  root (segments path) ++ (segments path).filterMap part

/-- `Path::file_name`. -/
def fileName (path : String) : Option String :=
  match (components path).getLast? with
  | some (.normal name) => some name
  | _ => none

/-- `Path::join`. -/
def join (base path : String) : String :=
  if path.toList.head? = some '/' then path
  else if base = "" ∨ base.toList.getLast? = some '/' then base ++ path
  else base ++ "/" ++ path

variable {base name : String}

/-- A slash at the end begins one more segment. -/
theorem root_concat {l : List (List Char)} (h : l ≠ []) (x y : List Char) :
    root (l ++ [x]) = root (l ++ [y]) := by
  obtain ⟨a, l, rfl⟩ := List.exists_cons_of_ne_nil h
  simp [root]

theorem root_concat_of_ne {l : List (List Char)} (h : l ≠ []) (hl : l ≠ [[]]) (x : List Char) :
    root (l ++ [x]) = root l := by
  obtain ⟨a, l, rfl⟩ := List.exists_cons_of_ne_nil h
  by_cases hrest : l = []
  · subst hrest
    have ha : a ≠ [] := fun ha => hl (congrArg (fun b => [b]) ha)
    simp [root, ha]
  · simp [root, hrest]

/-- A name is neither empty nor a dot, nor two. -/
theorem normal_mem_components {path : String} (h : .normal name ∈ components path) :
    name ≠ "" ∧ name ≠ "." ∧ name ≠ ".." := by
  -- the root is no normal component
  rcases List.mem_append.mp h with h | h
  · unfold root at h
    split at h
    · cases h
    · split at h
      · simp at h
      · split at h <;> simp at h
  · -- and the segments "", "." and ".." are filtered out
    obtain ⟨segment, -, hsegment⟩ := List.mem_filterMap.mp h
    unfold part at hsegment
    split at hsegment
    · cases hsegment
    · next hdot =>
        split at hsegment
        · cases hsegment
        · next hdots =>
            obtain rfl := Component.normal.inj (Option.some.inj hsegment)
            rw [not_or] at hdot
            refine ⟨fun h => hdot.1 ?_, fun h => hdot.2 ?_, fun h => hdots ?_⟩
            · rw [← String.toList_ofList (l := segment), h]
              rfl
            · rw [← String.toList_ofList (l := segment), h]
              rfl
            · rw [← String.toList_ofList (l := segment), h]
              rfl

/-- A segment behind a path is a component behind its components. -/
theorem components_join (hbase : base ≠ "") (hname : '/' ∉ name.toList) :
    components (join base name) = components base ++ (part name.toList).toList := by
  have hchars : base.toList ≠ [] := fun h => hbase (String.toList_inj.mp h)
  have hhead : name.toList.head? ≠ some '/' := by
    intro h
    exact hname (List.mem_of_mem_head? h)
  have hsegment : name.toList.splitOn '/' = [name.toList] := List.splitOn_eq_singleton hname
  have hpart : ∀ l : List (List Char), (l ++ [name.toList]).filterMap part =
      l.filterMap part ++ (part name.toList).toList := by
    intro l
    rw [List.filterMap_append]
    rcases h : part name.toList with - | c <;> simp [h]
  rw [join, if_neg hhead]
  by_cases hlast : base.toList.getLast? = some '/'
  · -- the base ends in a slash
    rw [if_pos (.inr hlast)]
    obtain ⟨front, hfront⟩ := List.getLast?_eq_some_iff.mp hlast
    have hne := List.splitOn_ne_nil '/' front
    have hold : segments base = front.splitOn '/' ++ [[]] := by
      rw [segments, hfront, List.splitOn_append_cons_self, List.splitOn_nil]
    have hnew : segments (base ++ name) = front.splitOn '/' ++ [name.toList] := by
      rw [segments, String.toList_append, hfront, List.append_assoc, List.singleton_append,
        List.splitOn_append_cons_self, hsegment]
    rw [components, components, hold, hnew, hpart, root_concat hne name.toList [],
      List.filterMap_append, List.append_assoc, List.append_assoc]
    rfl
  · rw [if_neg (by simp [hbase, hlast])]
    have hne := List.splitOn_ne_nil '/' base.toList
    have hnonempty : base.toList.splitOn '/' ≠ [[]] := by
      intro h
      have hjoin : ['/'].intercalate (base.toList.splitOn '/') = base.toList :=
        List.intercalate_splitOn '/'
      rw [h] at hjoin
      exact hchars hjoin.symm
    have hnew : segments (base ++ "/" ++ name) = base.toList.splitOn '/' ++ [name.toList] := by
      rw [segments, String.toList_append, String.toList_append, List.append_assoc]
      show (base.toList ++ '/' :: name.toList).splitOn '/' = _
      rw [List.splitOn_append_cons_self, hsegment]
    rw [components, components, hnew, hpart, root_concat_of_ne hne hnonempty, List.append_assoc]
    rfl

theorem part_name (hempty : name ≠ "") (hdot : name ≠ ".") (hdots : name ≠ "..") :
    part name.toList = some (.normal name) := by
  rw [part, if_neg, if_neg, String.ofList_toList]
  · exact fun h => hdots (String.toList_inj.mp h)
  · rintro (h | h)
    · exact hempty (String.toList_inj.mp h)
    · exact hdot (String.toList_inj.mp h)

/-- The name of a path with a name behind it. -/
theorem fileName_join (hbase : base ≠ "") (hname : '/' ∉ name.toList)
    (hempty : name ≠ "") (hdot : name ≠ ".") (hdots : name ≠ "..") :
    fileName (join base name) = some name := by
  rw [fileName, components_join hbase hname, part_name hempty hdot hdots]
  simp

/-- A path that has a name has a proper one. -/
theorem fileName_ne {path : String} (h : fileName path = some name) :
    name ≠ "" ∧ name ≠ "." ∧ name ≠ ".." := by
  rw [fileName] at h
  rcases hlast : (components path).getLast? with - | c
  · rw [hlast] at h
    cases h
  · rw [hlast] at h
    cases c with
    | normal n =>
        obtain rfl : n = name := Option.some.inj h
        exact normal_mem_components (List.mem_of_getLast? hlast)
    | rootDir | curDir | parentDir => cases h

end UnixPath
