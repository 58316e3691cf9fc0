/-
LamcoRdp/Damage/Merge.lean

What `merge_regions` returns (`damage/mod.rs`).

A round visits the regions in order; each one that is still unused takes in every
later unused region adjacent to what it has grown to, and leaves a flag at the
regions it has taken.  A region that has grown can be adjacent to one that an
earlier visit passed over, and only the next round finds that.

`mergeRound` transcribes the two loops with their flags, `MergeWhile` the loop around
them.  `mergeRound_eq` says that a round is `mergePass` of the regions, and
`mergeLoop_runs` that the loop ends, with what `mergeLoop` gives.

Two facts are then read off the steps of merging.  `Regroups`: the regions can be
dealt out into groups, one for each region returned, which is the bounding box of its
group.  `Apart`: a round that changes nothing has compared every pair.
-/
import LamcoRdp.Damage.Region
import Mathlib.Order.Bounds.Basic
import Mathlib.Data.List.Forall2

namespace LamcoRdp

/-! ### The loops of the source -/

/-- The body of the loop over `j`; beside `current` stand `used` and `changed`. -/
def scanAt (mergeDistance : ℕ) (regions : List DamageRegion)
    (s : DamageRegion × List Bool × Bool) (j : ℕ) : DamageRegion × List Bool × Bool :=
  match s.2.1[j]?, regions[j]? with
  | some false, some r =>
      if s.1.isAdjacent r mergeDistance then (s.1.union r, s.2.1.set j true, true) else s
  | _, _ => s

/-- `for j in (i + 1)..regions.len()`. -/
def scanFrom (mergeDistance : ℕ) (regions : List DamageRegion) (k : ℕ)
    (s : DamageRegion × List Bool × Bool) : DamageRegion × List Bool × Bool :=
  (List.range' k (regions.length - k)).foldl (scanAt mergeDistance regions) s

/-- What a round keeps beside the regions. -/
structure MergeRound where
  merged : List DamageRegion
  used : List Bool
  changed : Bool

/-- The body of the loop over `i`. -/
def visitAt (mergeDistance : ℕ) (regions : List DamageRegion) (s : MergeRound) (i : ℕ) :
    MergeRound :=
  match s.used[i]?, regions[i]? with
  | some false, some r =>
      let (current, used, changed) :=
        scanFrom mergeDistance regions (i + 1) (r, s.used.set i true, s.changed)
      { merged := s.merged ++ [current], used, changed }
  | _, _ => s

/-- `for i in 0..regions.len()`, from the index `k` on. -/
def visitFrom (mergeDistance : ℕ) (regions : List DamageRegion) (k : ℕ) (s : MergeRound) :
    MergeRound :=
  (List.range' k (regions.length - k)).foldl (visitAt mergeDistance regions) s

/-- One round of the loop. -/
def mergeRound (mergeDistance : ℕ) (regions : List DamageRegion) : MergeRound :=
  visitFrom mergeDistance regions 0
    { merged := [], used := List.replicate regions.length false, changed := false }

/-- `while changed`: the loop, entered with these regions, ends with those. -/
inductive MergeWhile (mergeDistance : ℕ) : List DamageRegion → List DamageRegion → Prop
  | last {regions} (h : (mergeRound mergeDistance regions).changed = false) :
      MergeWhile mergeDistance regions (mergeRound mergeDistance regions).merged
  | again {regions out} (h : (mergeRound mergeDistance regions).changed = true)
      (hrest : MergeWhile mergeDistance (mergeRound mergeDistance regions).merged out) :
      MergeWhile mergeDistance regions out

/-- `merge_regions` returns. -/
inductive MergeReturns (mergeDistance : ℕ) : List DamageRegion → List DamageRegion → Prop
  | early {regions} (h : regions.length ≤ 1) : MergeReturns mergeDistance regions regions
  | loop {regions out} (h : 1 < regions.length) (hloop : MergeWhile mergeDistance regions out) :
      MergeReturns mergeDistance regions out

/-! ### A round is a pass over the unused regions -/

/-- The regions from an index on whose flag is not set. -/
def unusedFrom (regions : List DamageRegion) (used : List Bool) (k : ℕ) : List DamageRegion :=
  ((regions.drop k).zip (used.drop k)).filterMap fun p => if p.2 then none else some p.1

section Round

variable {d : ℕ} {regions : List DamageRegion} {used : List Bool} {k : ℕ}

theorem unusedFrom_of_le (h : regions.length ≤ k) : unusedFrom regions used k = [] := by
  unfold unusedFrom
  rw [List.drop_eq_nil_of_le h]
  rfl

theorem unusedFrom_step {r : DamageRegion} {u : Bool} (hr : regions[k]? = some r)
    (hu : used[k]? = some u) :
    unusedFrom regions used k
      = if u then unusedFrom regions used (k + 1) else r :: unusedFrom regions used (k + 1) := by
  obtain ⟨hk, rfl⟩ := List.getElem?_eq_some_iff.mp hr
  obtain ⟨hk', rfl⟩ := List.getElem?_eq_some_iff.mp hu
  unfold unusedFrom
  rw [List.drop_eq_getElem_cons hk, List.drop_eq_getElem_cons hk', List.zip_cons_cons,
    List.filterMap_cons]
  cases used[k] <;> rfl

/-- A flag below the index does not matter. -/
theorem unusedFrom_set {i : ℕ} (h : i < k) (u : Bool) :
    unusedFrom regions (used.set i u) k = unusedFrom regions used k := by
  unfold unusedFrom
  rw [List.drop_set_of_lt h]

/-- No flag set. -/
theorem unusedFrom_replicate :
    unusedFrom regions (List.replicate regions.length false) 0 = regions := by
  unfold unusedFrom
  rw [List.drop_zero, List.drop_zero]
  induction regions with
  | nil => rfl
  | cons r rest ih =>
      rw [List.length_cons, List.replicate_succ, List.zip_cons_cons, List.filterMap_cons]
      exact congrArg (r :: ·) ih

theorem range'_of_lt (hk : k < regions.length) :
    List.range' k (regions.length - k)
      = k :: List.range' (k + 1) (regions.length - (k + 1)) := by
  rw [show regions.length - k = regions.length - (k + 1) + 1 by omega, List.range'_succ]

theorem range'_of_le (hk : regions.length ≤ k) :
    List.range' k (regions.length - k) = [] := by
  rw [Nat.sub_eq_zero_of_le hk]
  rfl

/-- The loop over `j` scans the unused regions, and leaves the flags below alone. -/
theorem scanFrom_eq (n : ℕ) (hn : regions.length - k ≤ n) (hlen : used.length = regions.length)
    (current : DamageRegion) (changed : Bool) :
    ∃ used', scanFrom d regions k (current, used, changed)
        = ((mergeInto d current (unusedFrom regions used k)).1, used',
            changed || (mergeInto d current (unusedFrom regions used k)).2.2) ∧
      used'.length = regions.length ∧ (∀ i < k, used'[i]? = used[i]?) ∧
      unusedFrom regions used' k = (mergeInto d current (unusedFrom regions used k)).2.1 := by
  induction n generalizing k used current changed with
  | zero =>
      have hk : regions.length ≤ k := by omega
      refine ⟨used, ?_, hlen, fun _ _ => rfl, ?_⟩
      · rw [scanFrom, range'_of_le hk, unusedFrom_of_le hk, mergeInto, Bool.or_false]
        rfl
      · rw [unusedFrom_of_le hk]
        rfl
  | succ n ih =>
      rcases Nat.lt_or_ge k regions.length with hk | hk
      swap
      · exact ih (by omega) hlen current changed
      have hr : regions[k]? = some regions[k] := List.getElem?_eq_getElem hk
      have hku : k < used.length := hlen ▸ hk
      have hu : used[k]? = some used[k] := List.getElem?_eq_getElem hku
      have hnext : scanFrom d regions k (current, used, changed)
          = scanFrom d regions (k + 1) (scanAt d regions (current, used, changed) k) := by
        rw [scanFrom, range'_of_lt hk, List.foldl_cons]
        rfl
      have hbody : scanAt d regions (current, used, changed) k
          = if used[k] = false ∧ current.isAdjacent regions[k] d = true then
              (current.union regions[k], used.set k true, true)
            else (current, used, changed) := by
        simp only [scanAt, hr, hu]
        cases used[k] <;> simp
      rw [hnext, hbody, unusedFrom_step hr hu]
      cases hflag : used[k] with
      | true =>
          obtain ⟨used', hscan, hlen', hbelow, hrest⟩ :=
            ih (k := k + 1) (by omega) hlen current changed
          rw [hflag] at hu
          refine ⟨used', ?_, hlen', fun i hi => hbelow i (Nat.lt_succ_of_lt hi), ?_⟩
          · rw [if_neg (by simp), hscan]
            rfl
          · rw [unusedFrom_step hr ((hbelow k (Nat.lt_succ_self k)).trans hu)]
            exact hrest
      | false =>
          rw [hflag] at hu
          simp only [Bool.false_eq_true, if_false, true_and]
          by_cases hadj : current.isAdjacent regions[k] d = true
          · -- the region is taken in, and its flag set
            obtain ⟨used', hscan, hlen', hbelow, hrest⟩ :=
              ih (k := k + 1) (by omega) (List.length_set.trans hlen : (used.set k true).length = _)
                (current.union regions[k]) true
            rw [unusedFrom_set (Nat.lt_succ_self k)] at hscan hrest
            have hset : used'[k]? = some true := by
              rw [hbelow k (Nat.lt_succ_self k), List.getElem?_set_self hku]
            refine ⟨used', ?_, hlen', fun i hi => ?_, ?_⟩
            · rw [if_pos hadj, hscan, mergeInto_of_adjacent hadj, Bool.true_or, Bool.or_true]
            · rw [hbelow i (Nat.lt_succ_of_lt hi), List.getElem?_set_ne (by omega)]
            · rw [unusedFrom_step hr hset, mergeInto_of_adjacent hadj]
              exact hrest
          · obtain ⟨used', hscan, hlen', hbelow, hrest⟩ :=
              ih (k := k + 1) (by omega) hlen current changed
            refine ⟨used', ?_, hlen', fun i hi => hbelow i (Nat.lt_succ_of_lt hi), ?_⟩
            · rw [if_neg hadj, hscan, mergeInto_of_apart hadj]
            · rw [unusedFrom_step hr ((hbelow k (Nat.lt_succ_self k)).trans hu),
                mergeInto_of_apart hadj]
              exact congrArg (regions[k] :: ·) hrest

theorem mergeInto_unused_le (current : DamageRegion) (rs : List DamageRegion) :
    (mergeInto d current rs).2.1.length + (mergeInto d current rs).2.2.toNat ≤ rs.length := by
  induction rs generalizing current with
  | nil => exact Nat.le_refl 0
  | cons r rest ih =>
      by_cases hadj : current.isAdjacent r d = true
      · have hle := ih (current.union r)
        rw [mergeInto_of_adjacent hadj, List.length_cons, Bool.toNat_true]
        dsimp only
        omega
      · have hle := ih current
        rw [mergeInto_of_apart hadj, List.length_cons, List.length_cons]
        dsimp only
        omega

/-- The loop over `i` is a pass over the unused regions. -/
theorem visitFrom_eq (n m : ℕ) (hn : regions.length - k ≤ n) (hlen : used.length = regions.length)
    (hm : (unusedFrom regions used k).length ≤ m) (merged : List DamageRegion) (changed : Bool) :
    ∃ used', visitFrom d regions k { merged, used, changed }
        = { merged := merged ++ (mergePass d m (unusedFrom regions used k)).1
            used := used'
            changed := changed || (mergePass d m (unusedFrom regions used k)).2 } := by
  -- on the regions left to visit, whatever has been used before
  induction n generalizing k m used merged changed with
  | zero =>
      have hk : regions.length ≤ k := by omega
      refine ⟨used, ?_⟩
      rw [visitFrom, range'_of_le hk, unusedFrom_of_le hk, mergePass_nil, List.append_nil,
        Bool.or_false]
      rfl
  | succ n ih =>
      rcases Nat.lt_or_ge k regions.length with hk | hk
      swap
      · exact ih m (by omega) hlen hm merged changed
      have hr : regions[k]? = some regions[k] := List.getElem?_eq_getElem hk
      have hku : k < used.length := hlen ▸ hk
      have hu : used[k]? = some used[k] := List.getElem?_eq_getElem hku
      have hnext : visitFrom d regions k { merged, used, changed }
          = visitFrom d regions (k + 1) (visitAt d regions { merged, used, changed } k) := by
        rw [visitFrom, range'_of_lt hk, List.foldl_cons]
        rfl
      rw [hnext]
      -- a region that a merge has used up is passed over
      cases hflag : used[k] with
      | true =>
          rw [hflag] at hu
          have hunused : unusedFrom regions used k = unusedFrom regions used (k + 1) :=
            unusedFrom_step hr hu
          have hbody :
              visitAt d regions { merged, used, changed } k = { merged, used, changed } := by
            simp only [visitAt, hu]
          rw [hbody, hunused]
          exact ih m (by omega) hlen (hunused ▸ hm) merged changed
      -- any other opens a merge, which uses up what it takes in
      | false =>
          rw [hflag] at hu
          have hunused :
              unusedFrom regions used k = regions[k] :: unusedFrom regions used (k + 1) :=
            unusedFrom_step hr hu
          obtain ⟨used', hscan, hlen', -, hrest⟩ :=
            scanFrom_eq (d := d) (k := k + 1) _ (Nat.le_refl _)
              (List.length_set.trans hlen : (used.set k true).length = _) regions[k] changed
          rw [unusedFrom_set (Nat.lt_succ_self k)] at hscan hrest
          obtain ⟨m, rfl⟩ : ∃ m', m = m' + 1 := by
            rw [hunused, List.length_cons] at hm
            exact ⟨m - 1, by omega⟩
          have hle := mergeInto_unused_le (d := d) regions[k] (unusedFrom regions used (k + 1))
          rw [hunused, List.length_cons] at hm
          obtain ⟨used'', hvisit⟩ := ih (k := k + 1) m (by omega) hlen'
            (by
              rw [hrest]
              exact Nat.le_trans (Nat.le_of_add_right_le hle) (Nat.le_of_succ_le_succ hm))
            (merged ++ [(mergeInto d regions[k] (unusedFrom regions used (k + 1))).1])
            (changed || (mergeInto d regions[k] (unusedFrom regions used (k + 1))).2.2)
          have hbody : visitAt d regions { merged, used, changed } k
              = { merged :=
                    merged ++ [(mergeInto d regions[k] (unusedFrom regions used (k + 1))).1]
                  used := used'
                  changed :=
                    changed || (mergeInto d regions[k] (unusedFrom regions used (k + 1))).2.2 } := by
            simp only [visitAt, hu, hr, hscan]
          refine ⟨used'', ?_⟩
          rw [hbody, hvisit, hrest, hunused, mergePass_cons, List.append_assoc, Bool.or_assoc]
          rfl

/-- **A round of the source** is a pass over its regions. -/
theorem mergeRound_eq (d : ℕ) (regions : List DamageRegion) :
    (mergeRound d regions).merged = (mergePass d regions.length regions).1 ∧
      (mergeRound d regions).changed = (mergePass d regions.length regions).2 := by
  have hlen : (List.replicate regions.length false).length = regions.length :=
    List.length_replicate
  obtain ⟨used', hvisit⟩ := visitFrom_eq (d := d) (k := 0) _ regions.length (Nat.le_refl _) hlen
    (by rw [unusedFrom_replicate]) [] false
  rw [unusedFrom_replicate] at hvisit
  rw [mergeRound, hvisit]
  exact ⟨rfl, Bool.false_or _⟩

end Round

/-! ### The loop ends -/

section Loop

variable {d : ℕ}

theorem mergePass_length (n : ℕ) (rs : List DamageRegion) :
    (mergePass d n rs).1.length + (mergePass d n rs).2.toNat ≤ rs.length := by
  induction n generalizing rs with
  | zero => exact Nat.le_refl _
  | succ n ih =>
      cases rs with
      | nil => exact Nat.le_refl 0
      | cons r rest =>
          have hinto := mergeInto_unused_le (d := d) r rest
          have hpass := ih (mergeInto d r rest).2.1
          rw [mergePass_cons, List.length_cons, List.length_cons]
          cases hc : (mergeInto d r rest).2.2 with
          | false =>
              rw [Bool.false_or]
              dsimp only
              omega
          | true =>
              rw [hc, Bool.toNat_true] at hinto
              rw [Bool.true_or, Bool.toNat_true]
              omega

/-- **The loop ends**: a round that changes something returns fewer regions. -/
theorem mergeLoop_runs (n : ℕ) (rs : List DamageRegion) (h : rs.length ≤ n) :
    MergeWhile d rs (mergeLoop d n rs) := by
  induction n generalizing rs with
  | zero =>
      obtain rfl : rs = [] := List.length_eq_zero_iff.mp (Nat.le_zero.mp h)
      exact .last rfl
  | succ n ih =>
      obtain ⟨hmerged, hchanged⟩ := mergeRound_eq d rs
      have hlen := mergePass_length (d := d) rs.length rs
      cases hc : (mergePass d rs.length rs).2 with
      | false =>
          have hout : mergeLoop d (n + 1) rs = (mergeRound d rs).merged := by
            rw [mergeLoop, hmerged]
            simp only [hc, Bool.false_eq_true, if_false]
          rw [hout]
          exact .last (hchanged.trans hc)
      | true =>
          have hout : mergeLoop d (n + 1) rs = mergeLoop d n (mergeRound d rs).merged := by
            rw [mergeLoop, hmerged]
            simp only [hc, if_true]
          rw [hout]
          refine .again (hchanged.trans hc) (ih _ ?_)
          rw [hc, Bool.toNat_true] at hlen
          rw [hmerged]
          omega

theorem mergeRegions_returns (rs : List DamageRegion) :
    MergeReturns d rs (mergeRegions rs d) := by
  unfold mergeRegions
  split
  · next h => exact .early h
  · next h => exact .loop (Nat.lt_of_not_le h) (mergeLoop_runs rs.length rs (Nat.le_refl _))

end Loop

/-! ### Groups and bounding boxes -/

/-- The region is the bounding box of a group of regions. -/
structure IsBoundingBox (group : List DamageRegion) (r : DamageRegion) : Prop where
  nonempty : group ≠ []
  left : IsLeast ((fun s : DamageRegion => s.x) '' {s | s ∈ group}) r.x
  top : IsLeast ((fun s : DamageRegion => s.y) '' {s | s ∈ group}) r.y
  right : IsGreatest ((fun s : DamageRegion => s.x + s.width) '' {s | s ∈ group}) (r.x + r.width)
  bottom :
    IsGreatest ((fun s : DamageRegion => s.y + s.height) '' {s | s ∈ group}) (r.y + r.height)

theorem isBoundingBox_singleton (r : DamageRegion) : IsBoundingBox [r] r := by
  have hmem : {s | s ∈ [r]} = {r} := by
    ext s
    exact List.mem_singleton
  refine ⟨List.cons_ne_nil r [], ?_, ?_, ?_, ?_⟩ <;> rw [hmem, Set.image_singleton]
  · exact isLeast_singleton
  · exact isLeast_singleton
  · exact isGreatest_singleton
  · exact isGreatest_singleton

namespace IsBoundingBox

variable {group group' : List DamageRegion} {r s : DamageRegion}

theorem fits (h : IsBoundingBox group r) (hfits : ∀ s ∈ group, s.Fits) : r.Fits := by
  obtain ⟨s, hs, hright⟩ := h.right.1
  obtain ⟨t, ht, hbottom⟩ := h.bottom.1
  exact ⟨hright ▸ (hfits s hs).1, hbottom ▸ (hfits t ht).2⟩

theorem union (h : IsBoundingBox group r) (h' : IsBoundingBox group' s) (hr : r.Fits)
    (hs : s.Fits) : IsBoundingBox (group ++ group') (r.union s) := by
  obtain ⟨hright, hbottom⟩ := DamageRegion.union_edges hr hs
  have hmem : {t | t ∈ group ++ group'} = {t | t ∈ group} ∪ {t | t ∈ group'} := by
    ext t
    exact List.mem_append
  refine ⟨List.append_ne_nil_of_left_ne_nil h.nonempty group', ?_, ?_, ?_, ?_⟩ <;>
    rw [hmem, Set.image_union]
  · exact h.left.union h'.left
  · exact h.top.union h'.top
  · rw [hright]
    exact h.right.union h'.right
  · rw [hbottom]
    exact h.bottom.union h'.bottom

/-- A bounding box covers the regions of its group. -/
theorem covers (h : IsBoundingBox group r) (hs : s ∈ group) {px py : ℕ} (hc : s.Covers px py) :
    r.Covers px py := by
  obtain ⟨hx, hx', hy, hy'⟩ := hc
  exact ⟨(h.left.2 ⟨s, hs, rfl⟩).trans hx, hx'.trans_le (h.right.2 ⟨s, hs, rfl⟩),
    (h.top.2 ⟨s, hs, rfl⟩).trans hy, hy'.trans_le (h.bottom.2 ⟨s, hs, rfl⟩)⟩

end IsBoundingBox

/-- The bounding box of a group of regions whose edges fit. -/
def Boxes (group : List DamageRegion) (r : DamageRegion) : Prop :=
  (∀ s ∈ group, s.Fits) ∧ IsBoundingBox group r

theorem exists_group_of_mem {groups : List (List DamageRegion)} {rs : List DamageRegion}
    (h : List.Forall₂ Boxes groups rs) {r : DamageRegion} (hr : r ∈ rs) :
    ∃ group ∈ groups, Boxes group r := by
  induction h with
  | nil => cases hr
  | cons hbox _ ih =>
      rcases List.mem_cons.mp hr with rfl | hr
      · exact ⟨_, List.mem_cons_self, hbox⟩
      · obtain ⟨group, hgroup, hbox⟩ := ih hr
        exact ⟨group, List.mem_cons_of_mem _ hgroup, hbox⟩

theorem exists_box_of_mem {groups : List (List DamageRegion)} {rs : List DamageRegion}
    (h : List.Forall₂ Boxes groups rs) {group : List DamageRegion} (hg : group ∈ groups) :
    ∃ r ∈ rs, Boxes group r := by
  induction h with
  | nil => cases hg
  | cons hbox _ ih =>
      rcases List.mem_cons.mp hg with rfl | hg
      · exact ⟨_, List.mem_cons_self, hbox⟩
      · obtain ⟨r, hr, hbox⟩ := ih hg
        exact ⟨r, List.mem_cons_of_mem _ hr, hbox⟩

/-- However the first regions bound groups, the second bound the same regions dealt out
anew. -/
def Regroups (rs ss : List DamageRegion) : Prop :=
  ∀ groups, List.Forall₂ Boxes groups rs →
    ∃ groups', groups'.flatten.Perm groups.flatten ∧ List.Forall₂ Boxes groups' ss

theorem mergeStable_regroups : MergeStable Regroups where
  refl _ groups h := ⟨groups, .refl _, h⟩
  trans h h' groups hgroups := by
    obtain ⟨groups', hperm, hgroups'⟩ := h groups hgroups
    obtain ⟨groups'', hperm', hgroups''⟩ := h' groups' hgroups'
    exact ⟨groups'', hperm'.trans hperm, hgroups''⟩
  cons r rs ss h groups hgroups := by
    obtain ⟨group, rest, hgroup, hrest, rfl⟩ := List.forall₂_cons_right_iff.mp hgroups
    obtain ⟨rest', hperm, hrest'⟩ := h rest hrest
    exact ⟨group :: rest', hperm.append_left group, .cons hgroup hrest'⟩
  swap r s rs groups hgroups := by
    obtain ⟨group, _, hgroup, htail, rfl⟩ := List.forall₂_cons_right_iff.mp hgroups
    obtain ⟨group', rest, hgroup', hrest, rfl⟩ := List.forall₂_cons_right_iff.mp htail
    refine ⟨group' :: group :: rest, ?_, .cons hgroup' (.cons hgroup hrest)⟩
    simp only [List.flatten_cons, ← List.append_assoc]
    exact List.perm_append_comm.append_right _
  union r s rs groups hgroups := by
    obtain ⟨group, _, ⟨hfits, hbox⟩, htail, rfl⟩ := List.forall₂_cons_right_iff.mp hgroups
    obtain ⟨group', rest, ⟨hfits', hbox'⟩, hrest, rfl⟩ := List.forall₂_cons_right_iff.mp htail
    refine ⟨(group ++ group') :: rest, ?_, .cons ⟨?_, ?_⟩ hrest⟩
    · simp only [List.flatten_cons, List.append_assoc]
      exact .refl _
    · intro t ht
      exact (List.mem_append.mp ht).elim (hfits t) (hfits' t)
    · exact hbox.union hbox' (hbox.fits hfits) (hbox'.fits hfits')

/-- Each region returned bounds a group of the regions given, and these groups are all
of them. -/
theorem mergeRegions_groups (d : ℕ) {rs : List DamageRegion} (hfits : ∀ r ∈ rs, r.Fits) :
    ∃ groups, groups.flatten.Perm rs ∧ List.Forall₂ Boxes groups (mergeRegions rs d) := by
  have hsingle : List.Forall₂ Boxes (rs.map fun r => [r]) rs := by
    rw [List.forall₂_map_left_iff, List.forall₂_same]
    intro r hr
    refine ⟨fun s hs => ?_, isBoundingBox_singleton r⟩
    rw [List.mem_singleton.mp hs]
    exact hfits r hr
  obtain ⟨groups, hperm, hgroups⟩ := mergeStable_regroups.mergeRegions d rs _ hsingle
  refine ⟨groups, hperm.trans ?_, hgroups⟩
  rw [← List.flatMap_def, List.flatMap_singleton']

theorem mergeRegions_fits (d : ℕ) {rs : List DamageRegion} (hfits : ∀ r ∈ rs, r.Fits) :
    ∀ r ∈ mergeRegions rs d, r.Fits := by
  obtain ⟨groups, -, hgroups⟩ := mergeRegions_groups d hfits
  intro r hr
  obtain ⟨group, -, hgroup, hbox⟩ := exists_group_of_mem hgroups hr
  exact hbox.fits hgroup

/-- Each region given lies within one of those returned. -/
theorem mergeRegions_covers (d : ℕ) {rs : List DamageRegion} (hfits : ∀ r ∈ rs, r.Fits)
    {s : DamageRegion} (hs : s ∈ rs) :
    ∃ r ∈ mergeRegions rs d, ∀ {px py}, s.Covers px py → r.Covers px py := by
  obtain ⟨groups, hperm, hgroups⟩ := mergeRegions_groups d hfits
  obtain ⟨group, hgroup, hmem⟩ := List.mem_flatten.mp (hperm.mem_iff.mpr hs)
  obtain ⟨r, hr, -, hbox⟩ := exists_box_of_mem hgroups hgroup
  exact ⟨r, hr, hbox.covers hmem⟩

/-! ### Nothing left to merge -/

/-- No region of the list is adjacent to a later one. -/
def Settled (d : ℕ) (rs : List DamageRegion) : Prop :=
  rs.Pairwise fun r s => ¬ r.isAdjacent s d = true

section Settled

variable {d : ℕ}

theorem mergeInto_unchanged (current : DamageRegion) (rs : List DamageRegion)
    (h : (mergeInto d current rs).2.2 = false) :
    mergeInto d current rs = (current, rs, false) ∧
      ∀ r ∈ rs, ¬ current.isAdjacent r d = true := by
  induction rs with
  | nil => exact ⟨rfl, nofun⟩
  | cons r rest ih =>
      by_cases hadj : current.isAdjacent r d = true
      · rw [mergeInto_of_adjacent hadj] at h
        cases h
      · rw [mergeInto_of_apart hadj] at h ⊢
        obtain ⟨heq, hrest⟩ := ih h
        rw [heq]
        exact ⟨rfl, List.forall_mem_cons.mpr ⟨hadj, hrest⟩⟩

theorem mergeInto_of_settled (current : DamageRegion) (rs : List DamageRegion)
    (h : ∀ r ∈ rs, ¬ current.isAdjacent r d = true) :
    mergeInto d current rs = (current, rs, false) := by
  induction rs with
  | nil => rfl
  | cons r rest ih =>
      obtain ⟨hadj, hrest⟩ := List.forall_mem_cons.mp h
      rw [mergeInto_of_apart hadj, ih hrest]

/-- A pass that changes nothing has compared every pair. -/
theorem mergePass_unchanged (n : ℕ) (rs : List DamageRegion) (hn : rs.length ≤ n)
    (h : (mergePass d n rs).2 = false) : (mergePass d n rs).1 = rs ∧ Settled d rs := by
  induction n generalizing rs with
  | zero =>
      obtain rfl : rs = [] := List.length_eq_zero_iff.mp (Nat.le_zero.mp hn)
      exact ⟨rfl, List.Pairwise.nil⟩
  | succ n ih =>
      cases rs with
      | nil => exact ⟨rfl, List.Pairwise.nil⟩
      | cons r rest =>
          rw [mergePass_cons] at h ⊢
          obtain ⟨hinto, hpass⟩ := Bool.or_eq_false_iff.mp h
          obtain ⟨heq, hapart⟩ := mergeInto_unchanged r rest hinto
          rw [heq] at hpass ⊢
          obtain ⟨hrest, hsettled⟩ := ih rest (Nat.le_of_succ_le_succ hn) hpass
          exact ⟨congrArg (r :: ·) hrest, List.pairwise_cons.mpr ⟨hapart, hsettled⟩⟩

theorem mergePass_of_settled (n : ℕ) (rs : List DamageRegion) (h : Settled d rs) :
    mergePass d n rs = (rs, false) := by
  induction n generalizing rs with
  | zero => rfl
  | succ n ih =>
      cases rs with
      | nil => rfl
      | cons r rest =>
          obtain ⟨hapart, hrest⟩ := List.pairwise_cons.mp h
          rw [mergePass_cons, mergeInto_of_settled r rest hapart, ih rest hrest]
          rfl

theorem mergeLoop_settled (n : ℕ) (rs : List DamageRegion) (hn : rs.length ≤ n) :
    Settled d (mergeLoop d n rs) := by
  induction n generalizing rs with
  | zero =>
      obtain rfl : rs = [] := List.length_eq_zero_iff.mp (Nat.le_zero.mp hn)
      exact List.Pairwise.nil
  | succ n ih =>
      have hlen := mergePass_length (d := d) rs.length rs
      unfold mergeLoop
      dsimp only
      split
      · next hchanged =>
          rw [hchanged, Bool.toNat_true] at hlen
          exact ih _ (by omega)
      · next hchanged =>
          obtain ⟨heq, hsettled⟩ := mergePass_unchanged rs.length rs (Nat.le_refl _)
            (Bool.eq_false_iff.mpr hchanged)
          rw [heq]
          exact hsettled

theorem mergeRegions_settled (rs : List DamageRegion) : Settled d (mergeRegions rs d) := by
  unfold mergeRegions
  split
  · next hlen =>
      match rs, hlen with
      | [], _ => exact List.Pairwise.nil
      | [r], _ => exact List.pairwise_singleton _ r
  · exact mergeLoop_settled rs.length rs (Nat.le_refl _)

theorem mergeRegions_of_settled {rs : List DamageRegion} (h : Settled d rs) :
    mergeRegions rs d = rs := by
  unfold mergeRegions
  split
  · rfl
  · cases hlen : rs.length with
    | zero => rfl
    | succ n =>
        rw [mergeLoop, mergePass_of_settled _ rs h]
        rfl

end Settled

namespace DamageRegion

variable {r s : DamageRegion} {d : ℕ}

/-- The gap between two intervals does not depend on their order. -/
theorem isAdjacent_comm (hr : r.Fits) (hs : s.Fits) : r.isAdjacent s d = s.isAdjacent r d := by
  have hgap : ∀ x w x' w' : ℕ, (if x' ≥ x + w then x' - (x + w) else x - (x' + w'))
      = if x ≥ x' + w' then x - (x' + w') else x' - (x + w) := by
    intro x w x' w'
    split_ifs <;> omega
  simp only [isAdjacent, hr.right_eq, hs.right_eq, hr.bottom_eq, hs.bottom_eq]
  rw [hgap r.x, hgap r.y]

end DamageRegion

/-- No two regions returned are adjacent. -/
theorem mergeRegions_apart (d : ℕ) {rs : List DamageRegion} (hfits : ∀ r ∈ rs, r.Fits) :
    (mergeRegions rs d).Pairwise fun r s =>
      r.isAdjacent s d = false ∧ s.isAdjacent r d = false := by
  have hout := mergeRegions_fits d hfits
  refine (mergeRegions_settled (d := d) rs).imp_of_mem fun hr hs hapart => ?_
  have hrs := Bool.eq_false_iff.mpr hapart
  exact ⟨hrs, (DamageRegion.isAdjacent_comm (hout _ hr) (hout _ hs)).symm.trans hrs⟩

/-- **Merging is a sound fixpoint.**  The loop ends; what it returns are the bounding
boxes of groups into which the regions given are dealt, each used once; no two of them
are adjacent; and merging them again changes nothing. -/
theorem merge_regions_fixpoint (mergeDistance : ℕ) (regions : List DamageRegion)
    (hfits : ∀ r ∈ regions, r.Fits) :
    MergeReturns mergeDistance regions (mergeRegions regions mergeDistance) ∧
      (∃ groups : List (List DamageRegion), groups.flatten.Perm regions ∧
        List.Forall₂ IsBoundingBox groups (mergeRegions regions mergeDistance)) ∧
      (mergeRegions regions mergeDistance).Pairwise (fun r s =>
        r.isAdjacent s mergeDistance = false ∧ s.isAdjacent r mergeDistance = false) ∧
      MergeReturns mergeDistance (mergeRegions regions mergeDistance)
        (mergeRegions regions mergeDistance) := by
  obtain ⟨groups, hperm, hgroups⟩ := mergeRegions_groups mergeDistance hfits
  refine ⟨mergeRegions_returns regions, ⟨groups, hperm, hgroups.imp fun _ _ h => h.2⟩, ?_, ?_⟩
  · exact mergeRegions_apart mergeDistance hfits
  · have hreturns := mergeRegions_returns (d := mergeDistance)
      (mergeRegions regions mergeDistance)
    rwa [mergeRegions_of_settled (mergeRegions_settled regions)] at hreturns

/-- Four regions, of which the second is taken in by the second round only. -/
def chainedRegions : List DamageRegion :=
  [⟨0, 0, 10, 10⟩, ⟨100, 100, 10, 10⟩, ⟨40, 0, 10, 110⟩, ⟨60, 100, 10, 10⟩]

theorem merge_regions_fixpoint_chained :
    mergeRegions chainedRegions 32 = [⟨0, 0, 110, 110⟩] ∧
      MergeReturns 32 chainedRegions [⟨0, 0, 110, 110⟩] := by
  have hmerged : mergeRegions chainedRegions 32 = [⟨0, 0, 110, 110⟩] := by decide
  have hfixpoint := merge_regions_fixpoint 32 chainedRegions (by
    unfold chainedRegions DamageRegion.Fits
    decide)
  exact ⟨hmerged, hmerged ▸ hfixpoint.1⟩

end LamcoRdp
