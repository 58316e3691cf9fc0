/-
LamcoRdp/Multimon/Transform.lean

From client coordinates to those of a monitor (`Layout` in `multimon/layout.rs`).

A client addresses the virtual desktop by points from (0, 0) on.  The coordinate space of a
monitor gives its position in there, relative to the corner of the virtual desktop;
`transform_rdp_to_monitor` compares a point with the position of the monitor itself.  The
two agree if the corner is (0, 0), and every monitor then is found from its points as long
as its ends are `i32`: `transform_inverts_iff`.
-/
import LamcoRdp.Multimon.Layout
import Mathlib.Data.List.Nodup
import Mathlib.Logic.Function.Basic

namespace LamcoRdp

/-! ### Layouts -/

/-- `CoordinateSpace`: a monitor, as the transformer knows it. -/
structure CoordinateSpace where
  name : String
  width : UInt32
  height : UInt32
  offsetX : Int32
  offsetY : Int32
  deriving DecidableEq, Repr

/-- The desktop with its coordinate spaces, as the transformer holds them. -/
structure Layout where
  virtualDesktop : VirtualDesktop
  /-- a map from the ids of the monitors -/
  coordinateSpaces : UInt32 → Option CoordinateSpace

/-- The coordinate space of a monitor. -/
def MonitorLayout.space (o : Overflow) (d : VirtualDesktop) (m : MonitorLayout) :
    Option CoordinateSpace := do
  let offsetX ← o.int32 (m.x.toInt - d.offsetX.toInt)
  let offsetY ← o.int32 (m.y.toInt - d.offsetY.toInt)
  some ⟨"monitor-" ++ toString m.id, m.width, m.height, offsetX, offsetY⟩

/-- One pass of the loop of `from_virtual_desktop`. -/
def addSpace (o : Overflow) (d : VirtualDesktop) (spaces : UInt32 → Option CoordinateSpace)
    (m : MonitorLayout) : Option (UInt32 → Option CoordinateSpace) := do
  let space ← m.space o d
  some (Function.update spaces m.id (some space))

/-- `Layout::from_virtual_desktop`. -/
def Layout.fromVirtualDesktop (o : Overflow) (d : VirtualDesktop) : Option Layout := do
  let spaces ← d.monitors.foldlM (addSpace o d) fun _ => none
  some ⟨d, spaces⟩

/-- The point is in the monitor, as `transform_rdp_to_monitor` finds out: it stops at the
first comparison that fails. -/
def MonitorLayout.hit (o : Overflow) (rdpX rdpY : Int32) (m : MonitorLayout) : Option Bool :=
  if m.x ≤ rdpX then do
    let endX ← m.endX o
    if rdpX < endX ∧ m.y ≤ rdpY then do
      let endY ← m.endY o
      some (rdpY < endY)
    else some false
  else some false

/-- The loop of `transform_rdp_to_monitor`. -/
def findMonitor (o : Overflow) (rdpX rdpY : Int32) :
    List MonitorLayout → Option (Option (UInt32 × Int32 × Int32))
  | [] => some none
  | m :: ms => do
      if ← m.hit o rdpX rdpY then
        let localX ← o.int32 (rdpX.toInt - m.x.toInt)
        let localY ← o.int32 (rdpY.toInt - m.y.toInt)
        some (some (m.id, localX, localY))
      else findMonitor o rdpX rdpY ms

/-- `transform_rdp_to_monitor`. -/
def Layout.transformRdpToMonitor (o : Overflow) (l : Layout) (rdpX rdpY : Int32) :
    Option (Option (UInt32 × Int32 × Int32)) :=
  findMonitor o rdpX rdpY l.virtualDesktop.monitors

/-! ### What the transformation should do -/

/-- Where a monitor is in the virtual desktop. -/
def VirtualDesktop.shown (d : VirtualDesktop) (m : MonitorLayout) : Rect ℤ :=
  ⟨m.x.toInt - d.offsetX.toInt, m.y.toInt - d.offsetY.toInt,
    m.x.toInt - d.offsetX.toInt + m.width.toNat, m.y.toInt - d.offsetY.toInt + m.height.toNat⟩

/-- Every point of a monitor, addressed through its coordinate space, is found there, and no
point of the virtual desktop outside all of them is found anywhere. -/
def VirtualDesktop.Inverts (o : Overflow) (d : VirtualDesktop) : Prop :=
  ∃ layout, Layout.fromVirtualDesktop o d = some layout ∧
    (∀ m ∈ d.monitors, ∃ space, layout.coordinateSpaces m.id = some space ∧
      ∀ lx ly : ℤ, 0 ≤ lx → lx < m.width.toNat → 0 ≤ ly → ly < m.height.toNat →
      ∀ rdpX rdpY : Int32, rdpX.toInt = space.offsetX.toInt + lx →
        rdpY.toInt = space.offsetY.toInt + ly →
      ∃ localX localY, layout.transformRdpToMonitor o rdpX rdpY =
          some (some (m.id, localX, localY)) ∧
        localX.toInt = lx ∧ localY.toInt = ly) ∧
    ∀ rdpX rdpY : Int32,
      (rdpX.toInt, rdpY.toInt) ∈ (Rect.mk 0 0 d.width.toNat d.height.toNat : Rect ℤ).points →
      (∀ m ∈ d.monitors, (rdpX.toInt, rdpY.toInt) ∉ (d.shown m).points) →
      layout.transformRdpToMonitor o rdpX rdpY = some none

/-- The monitor has no points. -/
def MonitorLayout.Empty (m : MonitorLayout) : Prop := m.width = 0 ∨ m.height = 0

/-- The number is an `i32`. -/
def IsInt32 (n : ℤ) : Prop := -2 ^ 31 ≤ n ∧ n < 2 ^ 31

/-- What it takes: the corner of the virtual desktop is (0, 0) and the ends of the monitors
are `i32`, unless there are no points at all (and, in a build that panics, the positions in
the virtual desktop can be computed). -/
def VirtualDesktop.AtOrigin (o : Overflow) (d : VirtualDesktop) : Prop :=
  (o = .panics → ∀ m ∈ d.monitors, IsInt32 (m.x.toInt - d.offsetX.toInt) ∧
    IsInt32 (m.y.toInt - d.offsetY.toInt)) ∧
  ((∀ m ∈ d.monitors, m.Empty) ∨
    d.offsetX = 0 ∧ d.offsetY = 0 ∧ ∀ m ∈ d.monitors, ¬ m.Empty →
      m.rect.right < 2 ^ 31 ∧ m.rect.bottom < 2 ^ 31)

/-! ### What `calculate_layout` says about its virtual desktop -/

section Desktops

variable {o : Overflow} {m : MonitorLayout} {ms : List MonitorLayout} {d : VirtualDesktop}

/-- The ends of a monitor can be added up. -/
def MonitorLayout.Summed (o : Overflow) (m : MonitorLayout) : Prop :=
  (∃ endX, m.endX o = some endX) ∧ ∃ endY, m.endY o = some endY

/-- One pass: the bounds reach as far as they did, and as far as the monitor. -/
theorem growBounds_inv {b b' : Rect Int32} (h : growBounds o b m = some b') :
    b'.left.toInt ≤ b.left.toInt ∧ b'.top.toInt ≤ b.top.toInt ∧
      b'.left.toInt ≤ m.x.toInt ∧ b'.top.toInt ≤ m.y.toInt ∧ m.Summed o := by
  obtain ⟨endX, hendX, h⟩ := Option.bind_eq_some_iff.mp h
  obtain ⟨endY, hendY, h⟩ := Option.bind_eq_some_iff.mp h
  obtain rfl := Option.some.inj h
  rw [Int32.toInt_min, Int32.toInt_min]
  exact ⟨Int.min_le_left _ _, Int.min_le_left _ _, Int.min_le_right _ _, Int.min_le_right _ _,
    ⟨endX, hendX⟩, endY, hendY⟩

/-- The loop: the bounds reach as far as every monitor. -/
theorem foldlM_growBounds_inv {b b' : Rect Int32} (h : ms.foldlM (growBounds o) b = some b') :
    b'.left.toInt ≤ b.left.toInt ∧ b'.top.toInt ≤ b.top.toInt ∧
      ∀ m ∈ ms, b'.left.toInt ≤ m.x.toInt ∧ b'.top.toInt ≤ m.y.toInt ∧ m.Summed o := by
  induction ms generalizing b with
  | nil =>
      obtain rfl := Option.some.inj h
      exact ⟨le_rfl, le_rfl, fun m hm => absurd hm List.not_mem_nil⟩
  | cons m ms ih =>
      rw [List.foldlM_cons] at h
      obtain ⟨b₁, hb₁, h⟩ := Option.bind_eq_some_iff.mp h
      obtain ⟨hleft, htop, hx, hy, hsummed⟩ := growBounds_inv hb₁
      obtain ⟨hleft', htop', hmem⟩ := ih h
      refine ⟨hleft'.trans hleft, htop'.trans htop, fun m' hm' => ?_⟩
      rcases List.mem_cons.mp hm' with rfl | hm'
      · exact ⟨hleft'.trans hx, htop'.trans hy, hsummed⟩
      · exact hmem m' hm'

/-- The corner of a virtual desktop is to the left of its monitors and above them, and
their ends have been added up. -/
theorem calculateLayout_corner {strategy : LayoutStrategy} {streams : List StreamInfo}
    (h : calculateLayout o strategy streams = some (.ok d)) :
    ∀ m ∈ d.monitors, d.offsetX.toInt ≤ m.x.toInt ∧ d.offsetY.toInt ≤ m.y.toInt ∧
      m.Summed o := by
  rw [calculateLayout] at h
  split at h
  · cases h
  · obtain ⟨arranged, -, h⟩ := Option.bind_eq_some_iff.mp h
    cases arranged with
    | error e => cases h
    | ok ms =>
        obtain ⟨d', hd', h⟩ := Option.bind_eq_some_iff.mp h
        obtain rfl := Except.ok.inj (Option.some.inj h)
        obtain ⟨b, hb, hd'⟩ := Option.bind_eq_some_iff.mp hd'
        obtain ⟨width, -, hd'⟩ := Option.bind_eq_some_iff.mp hd'
        obtain ⟨height, -, hd'⟩ := Option.bind_eq_some_iff.mp hd'
        obtain rfl := Option.some.inj hd'
        exact (foldlM_growBounds_inv hb).2.2

end Desktops

/-! ### Coordinate spaces -/

section Spaces

variable {o : Overflow} {d : VirtualDesktop} {m : MonitorLayout} {ms : List MonitorLayout}

/-- A monitor keeps its space if no other has its id. -/
theorem foldlM_addSpace_other {spaces spaces' : UInt32 → Option CoordinateSpace} {id : UInt32}
    (h : ms.foldlM (addSpace o d) spaces = some spaces') (hid : id ∉ ms.map MonitorLayout.id) :
    spaces' id = spaces id := by
  induction ms generalizing spaces with
  | nil => rw [Option.some.inj h]
  | cons m ms ih =>
      rw [List.map_cons, List.mem_cons, not_or] at hid
      rw [List.foldlM_cons] at h
      obtain ⟨spaces₁, hspaces₁, h⟩ := Option.bind_eq_some_iff.mp h
      obtain ⟨space, -, hupdate⟩ := Option.bind_eq_some_iff.mp hspaces₁
      rw [ih h hid.2, ← Option.some.inj hupdate, Function.update_of_ne hid.1]

/-- With distinct ids every monitor has its own space in the map. -/
theorem foldlM_addSpace_mem {spaces spaces' : UInt32 → Option CoordinateSpace}
    (h : ms.foldlM (addSpace o d) spaces = some spaces') (hids : (ms.map MonitorLayout.id).Nodup)
    (hm : m ∈ ms) : ∃ space, m.space o d = some space ∧ spaces' m.id = some space := by
  induction ms generalizing spaces with
  | nil => exact absurd hm List.not_mem_nil
  | cons m' ms ih =>
      rw [List.map_cons, List.nodup_cons] at hids
      rw [List.foldlM_cons] at h
      obtain ⟨spaces₁, hspaces₁, hrest⟩ := Option.bind_eq_some_iff.mp h
      rcases List.mem_cons.mp hm with rfl | hm
      · obtain ⟨space, hspace, hupdate⟩ := Option.bind_eq_some_iff.mp hspaces₁
        refine ⟨space, hspace, ?_⟩
        rw [foldlM_addSpace_other hrest hids.1, ← Option.some.inj hupdate, Function.update_self]
      · exact ih hrest hids.2 hm

/-- The map can be filled if every space can be computed. -/
theorem exists_foldlM_addSpace (h : ∀ m ∈ ms, ∃ space, m.space o d = some space)
    (spaces : UInt32 → Option CoordinateSpace) :
    ∃ spaces', ms.foldlM (addSpace o d) spaces = some spaces' := by
  induction ms generalizing spaces with
  | nil => exact ⟨spaces, rfl⟩
  | cons m ms ih =>
      obtain ⟨⟨space, hspace⟩, hrest⟩ := List.forall_mem_cons.mp h
      obtain ⟨spaces', hspaces'⟩ := ih hrest (Function.update spaces m.id (some space))
      refine ⟨spaces', ?_⟩
      rw [List.foldlM_cons, addSpace, hspace]
      exact hspaces'

/-- The space of a monitor holds its offsets as the build computes them. -/
theorem space_eq_some {space : CoordinateSpace} (h : m.space o d = some space) :
    o.int32 (m.x.toInt - d.offsetX.toInt) = some space.offsetX ∧
      o.int32 (m.y.toInt - d.offsetY.toInt) = some space.offsetY := by
  obtain ⟨offsetX, hx, h⟩ := Option.bind_eq_some_iff.mp h
  obtain ⟨offsetY, hy, h⟩ := Option.bind_eq_some_iff.mp h
  obtain rfl := Option.some.inj h
  exact ⟨hx, hy⟩

/-- A space can be computed unless the build panics. -/
theorem exists_space (h : o = .panics → IsInt32 (m.x.toInt - d.offsetX.toInt) ∧
    IsInt32 (m.y.toInt - d.offsetY.toInt)) : ∃ space, m.space o d = some space := by
  have hint : ∀ {n : ℤ}, (o = .panics → IsInt32 n) → ∃ r, o.int32 n = some r := by
    intro n hn
    cases o with
    | wraps => exact ⟨_, if_neg fun hp => nomatch hp.1⟩
    | panics => exact ⟨_, if_neg fun hp => hp.2 (hn rfl)⟩
  obtain ⟨offsetX, hx⟩ := hint fun hp => (h hp).1
  obtain ⟨offsetY, hy⟩ := hint fun hp => (h hp).2
  refine ⟨⟨"monitor-" ++ toString m.id, m.width, m.height, offsetX, offsetY⟩, ?_⟩
  rw [MonitorLayout.space, hx, hy]
  rfl

end Spaces

/-! ### Finding a monitor -/

section Finding

variable {o : Overflow} {rdpX rdpY : Int32} {m : MonitorLayout} {ms : List MonitorLayout}

/-- The test tells the points of the monitor from all others. -/
def MonitorLayout.Sees (o : Overflow) (m : MonitorLayout) : Prop :=
  ∀ rdpX rdpY : Int32, ∃ b, m.hit o rdpX rdpY = some b ∧
    (b = true ↔ (rdpX.toInt, rdpY.toInt) ∈ m.rect.points)

/-- What the test computes, when both ends can be added up. -/
theorem hit_eq {endX endY : Int32} (hx : m.endX o = some endX) (hy : m.endY o = some endY) :
    m.hit o rdpX rdpY =
      some (decide ((m.x ≤ rdpX ∧ rdpX < endX) ∧ m.y ≤ rdpY ∧ rdpY < endY)) := by
  unfold MonitorLayout.hit
  by_cases hleft : m.x ≤ rdpX
  · rw [if_pos hleft, hx, Option.bind_eq_bind, Option.bind_some]
    by_cases hin : rdpX < endX ∧ m.y ≤ rdpY
    · rw [if_pos hin, hy, Option.bind_some]
      simp only [hleft, hin.1, hin.2, true_and]
    · rw [if_neg hin]
      rw [decide_eq_false]
      rintro ⟨⟨-, h₁⟩, h₂, -⟩
      exact hin ⟨h₁, h₂⟩
  · rw [if_neg hleft]
    rw [decide_eq_false]
    rintro ⟨⟨h, -⟩, -⟩
    exact hleft h

/-- A monitor without points is never hit. -/
theorem MonitorLayout.Empty.sees (hempty : m.Empty) (hsummed : m.Summed o) : m.Sees o := by
  intro rdpX rdpY
  obtain ⟨⟨endX, hx⟩, endY, hy⟩ := hsummed
  refine ⟨_, hit_eq hx hy, ?_⟩
  rw [decide_eq_true_iff, Int32.le_iff_toInt_le, Int32.lt_iff_toInt_lt, Int32.le_iff_toInt_le,
    Int32.lt_iff_toInt_lt, Rect.mem_points, MonitorLayout.rect]
  have hzero : ∀ {x e : Int32} {w : UInt32}, w = 0 →
      o.int32 (x.toInt + w.toInt32.toInt) = some e → e.toInt = x.toInt ∧ (w.toNat : ℤ) = 0 := by
    rintro x e w rfl he
    have hsum : x.toInt = x.toInt + (0 : UInt32).toInt32.toInt := (Int.add_zero _).symm
    rw [Overflow.int32_eq_some hsum] at he
    exact ⟨congrArg Int32.toInt (Option.some.inj he).symm, rfl⟩
  rcases hempty with h | h
  · obtain ⟨hend, hwidth⟩ := hzero h hx
    dsimp only
    omega
  · obtain ⟨hend, hheight⟩ := hzero h hy
    dsimp only
    omega

/-- A monitor whose position and ends are in the positive range is hit by its points. -/
theorem MonitorLayout.Placed.sees (h : m.Placed) : m.Sees o := by
  intro rdpX rdpY
  obtain ⟨endX, hx, hright⟩ := exists_end o h.left h.right
  obtain ⟨endY, hy, hbottom⟩ := exists_end o h.top h.bottom
  refine ⟨_, hit_eq hx hy, ?_⟩
  rw [decide_eq_true_iff, Int32.le_iff_toInt_le, Int32.lt_iff_toInt_lt, Int32.le_iff_toInt_le,
    Int32.lt_iff_toInt_lt, hright, hbottom]
  exact Iff.rfl

/-- A point of no monitor is found nowhere. -/
theorem findMonitor_none (hsees : ∀ m ∈ ms, m.Sees o)
    (hout : ∀ m ∈ ms, (rdpX.toInt, rdpY.toInt) ∉ m.rect.points) :
    findMonitor o rdpX rdpY ms = some none := by
  induction ms with
  | nil => rfl
  | cons m ms ih =>
      obtain ⟨hm, hrest⟩ := List.forall_mem_cons.mp hsees
      obtain ⟨hout', houtrest⟩ := List.forall_mem_cons.mp hout
      obtain ⟨b, hb, hiff⟩ := hm rdpX rdpY
      obtain rfl : b = false := Bool.eq_false_iff.mpr fun h => hout' (hiff.mp h)
      rw [findMonitor, hb]
      exact ih hrest houtrest

/-- A point of one of disjoint monitors is found there. -/
theorem findMonitor_mem (hsees : ∀ m ∈ ms, m.Sees o)
    (hdisjoint : ms.Pairwise fun m m' => Disjoint m.rect.points m'.rect.points) (hm : m ∈ ms)
    (hin : (rdpX.toInt, rdpY.toInt) ∈ m.rect.points) {localX localY : Int32}
    (hx : o.int32 (rdpX.toInt - m.x.toInt) = some localX)
    (hy : o.int32 (rdpY.toInt - m.y.toInt) = some localY) :
    findMonitor o rdpX rdpY ms = some (some (m.id, localX, localY)) := by
  induction ms with
  | nil => exact absurd hm List.not_mem_nil
  | cons m' ms ih =>
      obtain ⟨hfirst, hrest⟩ := List.forall_mem_cons.mp hsees
      obtain ⟨hapart, hdisjoint⟩ := List.pairwise_cons.mp hdisjoint
      obtain ⟨b, hb, hiff⟩ := hfirst rdpX rdpY
      rw [findMonitor, hb]
      rcases List.mem_cons.mp hm with rfl | hm
      · obtain rfl := hiff.mpr hin
        simp only [Option.bind_eq_bind, Option.bind_some, if_true, hx, hy]
      · obtain rfl : b = false := Bool.eq_false_iff.mpr fun h =>
          Set.disjoint_left.mp (hapart m hm) (hiff.mp h) hin
        exact ih hrest hdisjoint hm

/-- What is found is in the list, and has passed the test. -/
theorem findMonitor_inv {id : UInt32} {localX localY : Int32}
    (h : findMonitor o rdpX rdpY ms = some (some (id, localX, localY))) :
    ∃ m ∈ ms, m.id = id ∧ m.hit o rdpX rdpY = some true ∧
      o.int32 (rdpX.toInt - m.x.toInt) = some localX ∧
      o.int32 (rdpY.toInt - m.y.toInt) = some localY := by
  induction ms with
  | nil => cases h
  | cons m ms ih =>
      rw [findMonitor] at h
      obtain ⟨b, hb, h⟩ := Option.bind_eq_some_iff.mp h
      cases b with
      | true =>
          obtain ⟨x, hx, h⟩ := Option.bind_eq_some_iff.mp h
          obtain ⟨y, hy, h⟩ := Option.bind_eq_some_iff.mp h
          obtain ⟨rfl, rfl, rfl⟩ : m.id = id ∧ x = localX ∧ y = localY := by
            simpa using h
          exact ⟨m, List.mem_cons_self, rfl, hb, hx, hy⟩
      | false =>
          obtain ⟨m', hm', hfound⟩ := ih h
          exact ⟨m', List.mem_cons_of_mem m hm', hfound⟩

end Finding

/-! ### When the transformation inverts the coordinate spaces -/

section Inversion

variable {o : Overflow} {d : VirtualDesktop} {m : MonitorLayout}

/-- A word that differs from another by a multiple of its range is the same. -/
theorem toInt_eq_of_dvd {a b : Int32} {k : ℤ} (h : a.toInt = b.toInt + 2 ^ 32 * k) :
    a.toInt = b.toInt := by
  have halo := a.le_toInt
  have hahi := a.toInt_lt
  have hblo := b.le_toInt
  have hbhi := b.toInt_lt
  omega

/-- An end that is added up beyond its monitor is the exact one, if the monitor is in the
positive range. -/
theorem end_lt_of_lt {x e : Int32} {w : UInt32} (hx : 0 ≤ x.toInt)
    (he : o.int32 (x.toInt + w.toInt32.toInt) = some e) (hlt : x < e) :
    x.toInt + w.toNat < 2 ^ 31 := by
  rw [Int32.lt_iff_toInt_lt] at hlt
  have hxhi := x.toInt_lt
  have hehi := e.toInt_lt
  have hw := w.toNat_lt
  obtain ⟨k, hk⟩ := Overflow.exists_toInt_eq he
  rcases Nat.lt_or_ge w.toNat (2 ^ 31) with hsmall | hlarge
  · rw [UInt32.toInt_toInt32_of_lt hsmall] at hk
    omega
  · rw [UInt32.toInt_toInt32_of_ge hlarge] at hk
    omega

/-- A monitor that is not empty and found from its first point puts the corner of the
virtual desktop at (0, 0). -/
theorem origin_of_first_point (hcorner : d.offsetX.toInt ≤ m.x.toInt ∧
      d.offsetY.toInt ≤ m.y.toInt) (hids : (d.monitors.map MonitorLayout.id).Nodup)
    (hm : m ∈ d.monitors) {space : CoordinateSpace} (hspace : m.space o d = some space)
    {localX localY : Int32}
    (hfound : findMonitor o space.offsetX space.offsetY d.monitors =
      some (some (m.id, localX, localY))) (hx : localX.toInt = 0) (hy : localY.toInt = 0) :
    d.offsetX = 0 ∧ d.offsetY = 0 ∧ m.rect.right < 2 ^ 31 ∧ m.rect.bottom < 2 ^ 31 := by
  obtain ⟨m', hm', hid, hhit, hlocalX, hlocalY⟩ := findMonitor_inv hfound
  obtain rfl : m' = m := List.inj_on_of_nodup_map hids hm' hm hid
  -- the point is the position of the monitor, and its offset from the corner
  obtain ⟨hoffsetX, hoffsetY⟩ := space_eq_some hspace
  have hposition : ∀ {off x r l : Int32}, o.int32 (x.toInt - off.toInt) = some r →
      o.int32 (r.toInt - x.toInt) = some l → l.toInt = 0 → r = x ∧ off = 0 := by
    intro off x r l hr hl hzero
    obtain ⟨j, hj⟩ := Overflow.exists_toInt_eq hr
    obtain ⟨k, hk⟩ := Overflow.exists_toInt_eq hl
    have hrx : r.toInt = x.toInt := toInt_eq_of_dvd (k := -k) (by omega)
    have hoff : off.toInt = (0 : Int32).toInt :=
      toInt_eq_of_dvd (k := j) (by rw [Int32.toInt_zero]; omega)
    exact ⟨Int32.toInt_inj.mp hrx, Int32.toInt_inj.mp hoff⟩
  obtain ⟨hpointX, hcornerX⟩ := hposition hoffsetX hlocalX hx
  obtain ⟨hpointY, hcornerY⟩ := hposition hoffsetY hlocalY hy
  rw [hpointX, hpointY] at hhit
  rw [hcornerX, hcornerY, Int32.toInt_zero] at hcorner
  refine ⟨hcornerX, hcornerY, ?_⟩
  -- the test for the position succeeds only if both ends are exact
  unfold MonitorLayout.hit at hhit
  rw [if_pos Int32.le_rfl] at hhit
  obtain ⟨endX, hendX, hhit⟩ := Option.bind_eq_some_iff.mp hhit
  split at hhit
  · next hin =>
      obtain ⟨endY, hendY, hhit⟩ := Option.bind_eq_some_iff.mp hhit
      have hlt : m'.y < endY := of_decide_eq_true (Option.some.inj hhit)
      exact ⟨end_lt_of_lt hcorner.1 hendX hin.1, end_lt_of_lt hcorner.2 hendY hlt⟩
  · cases hhit

/-- With the corner at (0, 0) the test tells the points of every monitor from all others. -/
theorem sees_of_atOrigin
    (hcorner : ∀ m ∈ d.monitors, d.offsetX.toInt ≤ m.x.toInt ∧ d.offsetY.toInt ≤ m.y.toInt ∧
      m.Summed o)
    (horigin : d.offsetX = 0 ∧ d.offsetY = 0 ∧ ∀ m ∈ d.monitors, ¬ m.Empty →
      m.rect.right < 2 ^ 31 ∧ m.rect.bottom < 2 ^ 31) (hm : m ∈ d.monitors) : m.Sees o := by
  obtain ⟨hleft, htop, hsummed⟩ := hcorner m hm
  rw [horigin.1, Int32.toInt_zero] at hleft
  rw [horigin.2.1, Int32.toInt_zero] at htop
  by_cases hempty : m.Empty
  · exact hempty.sees hsummed
  · obtain ⟨hright, hbottom⟩ := horigin.2.2 m hm hempty
    exact MonitorLayout.Placed.sees ⟨hleft, htop, hright, hbottom⟩

/-- The map of a virtual desktop whose corner is at (0, 0), or whose positions fit. -/
theorem exists_layout (hids : (d.monitors.map MonitorLayout.id).Nodup)
    (hfit : o = .panics → ∀ m ∈ d.monitors, IsInt32 (m.x.toInt - d.offsetX.toInt) ∧
      IsInt32 (m.y.toInt - d.offsetY.toInt)) :
    ∃ layout, Layout.fromVirtualDesktop o d = some layout ∧ layout.virtualDesktop = d ∧
      ∀ m ∈ d.monitors, ∃ space, m.space o d = some space ∧
        layout.coordinateSpaces m.id = some space := by
  obtain ⟨spaces, hspaces⟩ := exists_foldlM_addSpace
    (fun m hm => exists_space (o := o) (d := d) (m := m) fun hp => hfit hp m hm) fun _ => none
  refine ⟨⟨d, spaces⟩, ?_, rfl, fun m hm => foldlM_addSpace_mem hspaces hids hm⟩
  rw [Layout.fromVirtualDesktop, hspaces]
  rfl

/-- A layout is that of its virtual desktop. -/
theorem fromVirtualDesktop_inv {layout : Layout} (h : Layout.fromVirtualDesktop o d = some layout) :
    layout.virtualDesktop = d ∧
      d.monitors.foldlM (addSpace o d) (fun _ => none) = some layout.coordinateSpaces := by
  obtain ⟨spaces, hspaces, h⟩ := Option.bind_eq_some_iff.mp h
  rw [← Option.some.inj h]
  exact ⟨rfl, hspaces⟩

/-- The map can only be filled if the positions fit, in a build that panics. -/
theorem isInt32_of_layout {layout : Layout} (hids : (d.monitors.map MonitorLayout.id).Nodup)
    (h : Layout.fromVirtualDesktop .panics d = some layout) (hm : m ∈ d.monitors) :
    IsInt32 (m.x.toInt - d.offsetX.toInt) ∧ IsInt32 (m.y.toInt - d.offsetY.toInt) := by
  obtain ⟨space, hspace, -⟩ := foldlM_addSpace_mem (fromVirtualDesktop_inv h).2 hids hm
  obtain ⟨hx, hy⟩ := space_eq_some hspace
  rw [← Overflow.toInt_of_panics hx, ← Overflow.toInt_of_panics hy]
  exact ⟨⟨Int32.le_toInt _, Int32.toInt_lt _⟩, Int32.le_toInt _, Int32.toInt_lt _⟩

end Inversion

/-- **When client points lead to monitors**: for a virtual desktop that `calculate_layout`
gives, with distinct ids and monitors that do not overlap, `transform_rdp_to_monitor`
undoes the coordinate spaces, and finds nothing outside them, if and only if the corner of
the virtual desktop is (0, 0) and the ends of its monitors are `i32`, or there is no
monitor with a point. -/
theorem transform_inverts_iff (o : Overflow) {strategy : LayoutStrategy}
    {streams : List StreamInfo} {d : VirtualDesktop}
    (hlayout : calculateLayout o strategy streams = some (.ok d))
    (hids : (d.monitors.map MonitorLayout.id).Nodup)
    (hdisjoint : d.monitors.Pairwise fun m m' => Disjoint m.rect.points m'.rect.points) :
    d.Inverts o ↔ d.AtOrigin o := by
  have hcorner := calculateLayout_corner hlayout
  constructor
  · rintro ⟨layout, hlay, hinside, -⟩
    obtain ⟨hdesktop, hspaces⟩ := fromVirtualDesktop_inv hlay
    have hfirst : ∀ m ∈ d.monitors, ¬ m.Empty → d.offsetX = 0 ∧ d.offsetY = 0 ∧
        m.rect.right < 2 ^ 31 ∧ m.rect.bottom < 2 ^ 31 := by
      intro m hm hpoint
      rw [MonitorLayout.Empty, not_or] at hpoint
      have hpos : ∀ {w : UInt32}, w ≠ 0 → (0 : ℤ) < w.toNat := by
        intro w hw
        have h : w.toNat ≠ 0 := fun h => hw (UInt32.toNat_inj.mp h)
        omega
      obtain ⟨space, hspace, hfound⟩ := hinside m hm
      obtain ⟨space', hspace', hsame⟩ := foldlM_addSpace_mem hspaces hids hm
      obtain rfl := Option.some.inj (hspace.symm.trans hsame)
      obtain ⟨localX, localY, hfind, hx, hy⟩ := hfound 0 0 le_rfl (hpos hpoint.1) le_rfl
        (hpos hpoint.2) space.offsetX space.offsetY (Int.add_zero _).symm (Int.add_zero _).symm
      rw [Layout.transformRdpToMonitor, hdesktop] at hfind
      obtain ⟨hleft, htop, -⟩ := hcorner m hm
      exact origin_of_first_point ⟨hleft, htop⟩ hids hm hspace' hfind hx hy
    constructor
    · rintro rfl m hm
      exact isInt32_of_layout hids hlay hm
    · by_cases hall : ∀ m ∈ d.monitors, m.Empty
      · exact .inl hall
      · push Not at hall
        obtain ⟨m, hm, hpoint⟩ := hall
        obtain ⟨hx, hy, -⟩ := hfirst m hm hpoint
        exact .inr ⟨hx, hy, fun m hm hpoint => (hfirst m hm hpoint).2.2⟩
  · rintro ⟨hfit, hpoints⟩
    obtain ⟨layout, hlay, hdesktop, hspaces⟩ := exists_layout hids hfit
    have hsees : ∀ m ∈ d.monitors, m.Sees o := by
      intro m hm
      rcases hpoints with hempty | horigin
      · exact (hempty m hm).sees (hcorner m hm).2.2
      · exact sees_of_atOrigin hcorner horigin hm
    -- a monitor with a point stands where its coordinate space says
    have hstands : ∀ m ∈ d.monitors, ∀ lx ly : ℤ, 0 ≤ lx → lx < m.width.toNat → 0 ≤ ly →
        ly < m.height.toNat → d.offsetX = 0 ∧ d.offsetY = 0 ∧ m.rect.right < 2 ^ 31 ∧
          m.rect.bottom < 2 ^ 31 := by
      intro m hm lx ly hlx hlxw hly hlyh
      have hnot : ¬ m.Empty := by
        rintro (h | h)
        · rw [h, UInt32.toNat_zero] at hlxw
          omega
        · rw [h, UInt32.toNat_zero] at hlyh
          omega
      rcases hpoints with hempty | ⟨hx, hy, hends⟩
      · exact absurd (hempty m hm) hnot
      · exact ⟨hx, hy, hends m hm hnot⟩
    refine ⟨layout, hlay, fun m hm => ?_, fun rdpX rdpY hin hout => ?_⟩
    · obtain ⟨space, hspace, hmap⟩ := hspaces m hm
      refine ⟨space, hmap, fun lx ly hlx hlxw hly hlyh rdpX rdpY hrdpX hrdpY => ?_⟩
      obtain ⟨hx, hy, hright, hbottom⟩ := hstands m hm lx ly hlx hlxw hly hlyh
      obtain ⟨hoffsetX, hoffsetY⟩ := space_eq_some hspace
      rw [hx, Int32.toInt_zero, Int.sub_zero, Overflow.int32_eq_some rfl] at hoffsetX
      rw [hy, Int32.toInt_zero, Int.sub_zero, Overflow.int32_eq_some rfl] at hoffsetY
      rw [← Option.some.inj hoffsetX] at hrdpX
      rw [← Option.some.inj hoffsetY] at hrdpY
      have hleft := (hcorner m hm).1
      have htop := (hcorner m hm).2.1
      rw [hx, Int32.toInt_zero] at hleft
      rw [hy, Int32.toInt_zero] at htop
      simp only [MonitorLayout.rect] at hright hbottom
      obtain ⟨localX, hlocalX, hvalueX⟩ := Overflow.exists_int32 o
        (n := rdpX.toInt - m.x.toInt) (by omega) (by omega)
      obtain ⟨localY, hlocalY, hvalueY⟩ := Overflow.exists_int32 o
        (n := rdpY.toInt - m.y.toInt) (by omega) (by omega)
      have hin : (rdpX.toInt, rdpY.toInt) ∈ m.rect.points := by
        rw [Rect.mem_points, MonitorLayout.rect]
        dsimp only
        omega
      refine ⟨localX, localY, ?_, by omega, by omega⟩
      rw [Layout.transformRdpToMonitor, hdesktop]
      exact findMonitor_mem hsees hdisjoint hm hin hlocalX hlocalY
    · rw [Layout.transformRdpToMonitor, hdesktop]
      refine findMonitor_none hsees fun m hm hpoint => hout m hm ?_
      rw [Rect.mem_points, MonitorLayout.rect] at hpoint
      dsimp only at hpoint
      obtain ⟨hx, hy, -⟩ := hstands m hm (rdpX.toInt - m.x.toInt) (rdpY.toInt - m.y.toInt)
        (by omega) (by omega) (by omega) (by omega)
      rw [Rect.mem_points, VirtualDesktop.shown, hx, hy, Int32.toInt_zero]
      dsimp only
      omega

/-- Two monitors side by side, with the corner at (0, 0). -/
def sideBySide : VirtualDesktop :=
  ⟨3840, 1080, 0, 0, [⟨1, 0, 0, 1920, 1080, true⟩, ⟨2, 1920, 0, 1920, 1080, false⟩]⟩

theorem transform_inverts_side_by_side : sideBySide.Inverts .panics ↔ sideBySide.AtOrigin .panics :=
  transform_inverts_iff .panics
    (show calculateLayout .panics .horizontal
      [⟨1, (0, 0), (1920, 1080)⟩, ⟨2, (0, 0), (1920, 1080)⟩] = some (.ok sideBySide) by decide)
    (by decide) (List.pairwise_pair.mpr (Rect.disjoint_of_beside (by decide)))

/-- A second monitor to the left of the first: its own first point is not on it. -/
theorem transform_left_monitor :
    ¬ ∀ (o : Overflow) (strategy : LayoutStrategy) (streams : List StreamInfo)
      (d : VirtualDesktop), calculateLayout o strategy streams = some (.ok d) →
      (d.monitors.map MonitorLayout.id).Nodup →
      (d.monitors.Pairwise fun m m' => Disjoint m.rect.points m'.rect.points) → d.Inverts o := by
  intro h
  obtain ⟨layout, hlay, hinside, -⟩ := h .wraps .preservePositions
    [⟨1, (-1920, 0), (1920, 1080)⟩, ⟨2, (0, 0), (1920, 1080)⟩]
    ⟨3840, 1080, -1920, 0, [⟨1, -1920, 0, 1920, 1080, true⟩, ⟨2, 0, 0, 1920, 1080, false⟩]⟩
    (by decide) (by decide) (List.pairwise_pair.mpr (Rect.disjoint_of_beside (by decide)))
  obtain ⟨space, hspace, hfound⟩ := hinside ⟨1, -1920, 0, 1920, 1080, true⟩ List.mem_cons_self
  obtain rfl := Option.some.inj hlay
  obtain rfl := Option.some.inj hspace
  obtain ⟨localX, localY, hfind, -⟩ :=
    hfound 0 0 le_rfl (by decide) le_rfl (by decide) 0 0 (by decide) (by decide)
  have hother : findMonitor .wraps 0 0
      [⟨1, -1920, 0, 1920, 1080, true⟩, ⟨2, 0, 0, 1920, 1080, false⟩] = some (some (2, 0, 0)) := by
    decide
  have hid := (Prod.mk.inj (Option.some.inj (Option.some.inj (hother.symm.trans hfind)))).1
  exact absurd hid (by decide)

end LamcoRdp
