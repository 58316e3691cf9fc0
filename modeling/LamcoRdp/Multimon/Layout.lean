/-
LamcoRdp/Multimon/Layout.lean

Where the monitors of a session stand in the virtual desktop (`multimon/layout.rs`).

A strategy gives each stream a position; the virtual desktop is the box around the
monitors.  Positions and sums are `i32`, sizes are `u32`; a release build wraps around where
they do not fit, a debug build panics (`Overflow`, with `none` for the panic).

In a row or a column every monitor begins where the one before it ends.  In a grid every
monitor takes the columns and rows before it to be as large as itself, so monitors of
different sizes can overlap: `calculateLayout_laidOut_iff`.
-/
import LamcoRdp.Lib.Rectangles
import LamcoRdp.Lib.Word32
import Mathlib.Algebra.GroupWithZero.Nat
import Mathlib.Data.List.Basic

namespace LamcoRdp

/-! ### Streams and monitors -/

/-- `StreamInfo`, the fields the layout reads. -/
structure StreamInfo where
  nodeId : UInt32
  position : Int32 × Int32
  size : UInt32 × UInt32
  deriving DecidableEq, Repr

/-- `MonitorLayout`. -/
structure MonitorLayout where
  id : UInt32
  x : Int32
  y : Int32
  width : UInt32
  height : UInt32
  isPrimary : Bool
  deriving DecidableEq, Repr

/-- `VirtualDesktop`: the box around all monitors. -/
structure VirtualDesktop where
  width : UInt32
  height : UInt32
  offsetX : Int32
  offsetY : Int32
  monitors : List MonitorLayout
  deriving DecidableEq, Repr

/-- `LayoutStrategy`. -/
inductive LayoutStrategy
  | horizontal
  | vertical
  | preservePositions
  | grid (rows cols : UInt32)
  deriving DecidableEq, Repr

/-- `LayoutError`. -/
inductive LayoutError
  | noMonitors
  | invalidDimensions (width height : UInt32)
  | calculationFailed (reason : String)
  deriving DecidableEq, Repr

/-- The monitor for a stream at a position. -/
def StreamInfo.monitorAt (s : StreamInfo) (position : Int32 × Int32) (idx : ℕ) : MonitorLayout :=
  ⟨s.nodeId, position.1, position.2, s.size.1, s.size.2, idx = 0⟩

/-! ### The strategies -/

/-- `preserve_positions`. -/
def preservePositions (streams : List StreamInfo) : List MonitorLayout :=
  streams.zipIdx.map fun (s, idx) => s.monitorAt s.position idx

/-- One monitor after the other: `current` is where the next one begins. -/
def arrangeLine (o : Overflow) (size : StreamInfo → UInt32) (place : Int32 → Int32 × Int32) :
    ℕ → Int32 → List StreamInfo → Option (List MonitorLayout)
  | _, _, [] => some []
  | idx, current, s :: rest => do
      let next ← o.int32 (current.toInt + (size s).toInt32.toInt)
      let layouts ← arrangeLine o size place (idx + 1) next rest
      some (s.monitorAt (place current) idx :: layouts)

/-- `arrange_horizontal`. -/
def arrangeHorizontal (o : Overflow) (streams : List StreamInfo) : Option (List MonitorLayout) :=
  arrangeLine o (fun s => s.size.1) (fun currentX => (currentX, 0)) 0 0 streams

/-- `arrange_vertical`. -/
def arrangeVertical (o : Overflow) (streams : List StreamInfo) : Option (List MonitorLayout) :=
  arrangeLine o (fun s => s.size.2) (fun currentY => (0, currentY)) 0 0 streams

/-- The row of a stream in a grid; its index is cast to `u32`. -/
def gridRow (cols : UInt32) (idx : ℕ) : UInt32 := UInt32.ofNat idx / cols

/-- Its column. -/
def gridCol (cols : UInt32) (idx : ℕ) : UInt32 := UInt32.ofNat idx % cols

/-- The monitor of a stream in a grid. -/
def gridMonitor (o : Overflow) (cols : UInt32) (s : StreamInfo) (idx : ℕ) :
    Option MonitorLayout := do
  let x ← o.uint32 ((gridCol cols idx).toNat * s.size.1.toNat)
  let y ← o.uint32 ((gridRow cols idx).toNat * s.size.2.toNat)
  some (s.monitorAt (x.toInt32, y.toInt32) idx)

/-- `arrange_grid`.  More monitors than cells are only worth a warning. -/
def arrangeGrid (o : Overflow) (streams : List StreamInfo) (rows cols : UInt32) :
    Option (Except LayoutError (List MonitorLayout)) :=
  if rows = 0 ∨ cols = 0 then
    some (.error (.calculationFailed "Grid dimensions must be > 0"))
  else do
    let _ ← o.uint32 (rows.toNat * cols.toNat)
    let layouts ← streams.zipIdx.mapM fun (s, idx) => gridMonitor o cols s idx
    some (.ok layouts)

/-! ### The virtual desktop -/

/-- The right end of a monitor, as the code adds it up. -/
def MonitorLayout.endX (o : Overflow) (m : MonitorLayout) : Option Int32 :=
  o.int32 (m.x.toInt + m.width.toInt32.toInt)

/-- The lower end of a monitor, as the code adds it up. -/
def MonitorLayout.endY (o : Overflow) (m : MonitorLayout) : Option Int32 :=
  o.int32 (m.y.toInt + m.height.toInt32.toInt)

/-- One pass of the loop of `calculate_bounds`. -/
def growBounds (o : Overflow) (bounds : Rect Int32) (m : MonitorLayout) : Option (Rect Int32) := do
  let endX ← m.endX o
  let endY ← m.endY o
  some ⟨min bounds.left m.x, min bounds.top m.y, max bounds.right endX, max bounds.bottom endY⟩

/-- `calculate_bounds`. -/
def calculateBounds (o : Overflow) (layouts : List MonitorLayout) : Option (Rect Int32) :=
  layouts.foldlM (growBounds o)
    ⟨Int32.maxValue, Int32.maxValue, Int32.minValue, Int32.minValue⟩

/-- The virtual desktop of the monitors: the second half of `calculate_layout`. -/
def boundingDesktop (o : Overflow) (monitors : List MonitorLayout) : Option VirtualDesktop := do
  let bounds ← calculateBounds o monitors
  let width ← o.int32 (bounds.right.toInt - bounds.left.toInt)
  let height ← o.int32 (bounds.bottom.toInt - bounds.top.toInt)
  some ⟨width.toUInt32, height.toUInt32, bounds.left, bounds.top, monitors⟩

/-- The monitors that a strategy places. -/
def LayoutStrategy.arrange (strategy : LayoutStrategy) (o : Overflow) (streams : List StreamInfo) :
    Option (Except LayoutError (List MonitorLayout)) :=
  match strategy with
  | .preservePositions => some (.ok (LamcoRdp.preservePositions streams))
  | .horizontal => (arrangeHorizontal o streams).map .ok
  | .vertical => (arrangeVertical o streams).map .ok
  | .grid rows cols => arrangeGrid o streams rows cols

/-- `calculate_layout`. -/
def calculateLayout (o : Overflow) (strategy : LayoutStrategy) (streams : List StreamInfo) :
    Option (Except LayoutError VirtualDesktop) :=
  if streams = [] then some (.error .noMonitors)
  else do
    match ← strategy.arrange o streams with
    | .error e => some (.error e)
    | .ok monitors => do
        let desktop ← boundingDesktop o monitors
        some (.ok desktop)

/-! ### What a layout should be -/

/-- The rectangle of a monitor. -/
def MonitorLayout.rect (m : MonitorLayout) : Rect ℤ :=
  ⟨m.x.toInt, m.y.toInt, m.x.toInt + m.width.toNat, m.y.toInt + m.height.toNat⟩

/-- The rectangle of the virtual desktop. -/
def VirtualDesktop.rect (d : VirtualDesktop) : Rect ℤ :=
  ⟨d.offsetX.toInt, d.offsetY.toInt, d.offsetX.toInt + d.width.toNat,
    d.offsetY.toInt + d.height.toNat⟩

/-- The monitors are those of the streams, in order and of their sizes; no two overlap, and
the virtual desktop is the box around them. -/
structure LaidOut (streams : List StreamInfo) (d : VirtualDesktop) : Prop where
  monitors : d.monitors.map (fun m => (m.id, m.width, m.height)) =
    streams.map fun s => (s.nodeId, s.size.1, s.size.2)
  disjoint : d.monitors.Pairwise fun m m' => Disjoint m.rect.points m'.rect.points
  box : d.rect.IsBox (d.monitors.map MonitorLayout.rect)

/-- The coordinates that the strategy computes and their sums with the sizes are `i32`. -/
def LayoutStrategy.Fits (strategy : LayoutStrategy) (streams : List StreamInfo) : Prop :=
  match strategy with
  | .horizontal => (streams.map fun s => s.size.1.toNat).sum < 2 ^ 31 ∧
      ∀ s ∈ streams, s.size.2.toNat < 2 ^ 31
  | .vertical => (streams.map fun s => s.size.2.toNat).sum < 2 ^ 31 ∧
      ∀ s ∈ streams, s.size.1.toNat < 2 ^ 31
  | .grid _ cols => ∀ p ∈ streams.zipIdx,
      ((gridCol cols p.2).toNat + 1) * p.1.size.1.toNat < 2 ^ 31 ∧
      ((gridRow cols p.2).toNat + 1) * p.1.size.2.toNat < 2 ^ 31
  | .preservePositions => True

/-- The grid has a cell for every stream. -/
def LayoutStrategy.Holds (strategy : LayoutStrategy) (streams : List StreamInfo) : Prop :=
  match strategy with
  | .grid rows cols => 1 ≤ rows.toNat ∧ 1 ≤ cols.toNat ∧
      streams.length ≤ rows.toNat * cols.toNat
  | _ => True

/-- One of two streams of a grid ends before the other begins, in a row or in a column,
when each counts the columns and rows before it as large as itself. -/
def GridApart (cols : UInt32) (p q : StreamInfo × ℕ) : Prop :=
  ((gridCol cols p.2).toNat + 1) * p.1.size.1.toNat ≤ (gridCol cols q.2).toNat * q.1.size.1.toNat ∨
  ((gridCol cols q.2).toNat + 1) * q.1.size.1.toNat ≤ (gridCol cols p.2).toNat * p.1.size.1.toNat ∨
  ((gridRow cols p.2).toNat + 1) * p.1.size.2.toNat ≤ (gridRow cols q.2).toNat * q.1.size.2.toNat ∨
  ((gridRow cols q.2).toNat + 1) * q.1.size.2.toNat ≤ (gridRow cols p.2).toNat * p.1.size.2.toNat

/-- What the streams of a grid have to meet: all of them are apart, and the number of cells
is a `u32` in a build that panics. -/
def LayoutStrategy.KeepsApart (strategy : LayoutStrategy) (o : Overflow)
    (streams : List StreamInfo) : Prop :=
  match strategy with
  | .grid rows cols => (o = .panics → rows.toNat * cols.toNat < 2 ^ 32) ∧
      streams.zipIdx.Pairwise (GridApart cols)
  | _ => True

/-! ### The box around the monitors -/

section Box

variable {o : Overflow} {m : MonitorLayout} {ms : List MonitorLayout}

/-- The monitor has its position and its ends in the positive range of an `i32`. -/
structure MonitorLayout.Placed (m : MonitorLayout) : Prop where
  left : 0 ≤ m.rect.left
  top : 0 ≤ m.rect.top
  right : m.rect.right < 2 ^ 31
  bottom : m.rect.bottom < 2 ^ 31

/-- The end of a range, added up without an overflow. -/
theorem exists_end (o : Overflow) {x : Int32} {w : UInt32} (hx : 0 ≤ x.toInt)
    (hend : x.toInt + w.toNat < 2 ^ 31) :
    ∃ e, o.int32 (x.toInt + w.toInt32.toInt) = some e ∧ e.toInt = x.toInt + w.toNat := by
  rw [UInt32.toInt_toInt32_of_lt (by omega)]
  exact Overflow.exists_int32 o (by omega) hend

/-- The bounds as a rectangle of numbers. -/
def boundsRect (b : Rect Int32) : Rect ℤ :=
  ⟨b.left.toInt, b.top.toInt, b.right.toInt, b.bottom.toInt⟩

/-- One pass takes the hull. -/
theorem growBounds_spec (h : m.Placed) (b : Rect Int32) :
    ∃ b', growBounds o b m = some b' ∧ boundsRect b' = (boundsRect b).hull m.rect := by
  obtain ⟨endX, hendX, hx⟩ := exists_end o h.left h.right
  obtain ⟨endY, hendY, hy⟩ := exists_end o h.top h.bottom
  refine ⟨⟨min b.left m.x, min b.top m.y, max b.right endX, max b.bottom endY⟩, ?_, ?_⟩
  · rw [growBounds, MonitorLayout.endX, MonitorLayout.endY, hendX, hendY]
    rfl
  · rw [boundsRect, Int32.toInt_min, Int32.toInt_min, Int32.toInt_max, Int32.toInt_max, hx, hy]
    rfl

/-- The loop takes the hull of them all. -/
theorem foldlM_growBounds (h : ∀ m ∈ ms, m.Placed) (b : Rect Int32) :
    ∃ b', ms.foldlM (growBounds o) b = some b' ∧
      boundsRect b' = (ms.map MonitorLayout.rect).foldl Rect.hull (boundsRect b) := by
  induction ms generalizing b with
  | nil => exact ⟨b, rfl, rfl⟩
  | cons m ms ih =>
      obtain ⟨hm, hms⟩ := List.forall_mem_cons.mp h
      obtain ⟨b₁, hb₁, hhull⟩ := growBounds_spec (o := o) hm b
      obtain ⟨b₂, hb₂, hfold⟩ := ih hms b₁
      refine ⟨b₂, ?_, ?_⟩
      · rw [List.foldlM_cons, hb₁]
        exact hb₂
      · rw [hfold, hhull]
        rfl

/-- The first hull is the first monitor: the bounds start from the extreme values. -/
theorem hull_extremes (h : m.Placed) :
    (boundsRect ⟨Int32.maxValue, Int32.maxValue, Int32.minValue, Int32.minValue⟩).hull m.rect =
      m.rect := by
  have hw : m.rect.left ≤ m.rect.right := Int.le_add_of_nonneg_right (Int.natCast_nonneg _)
  have hh : m.rect.top ≤ m.rect.bottom := Int.le_add_of_nonneg_right (Int.natCast_nonneg _)
  have hl := h.left
  have ht := h.top
  have hr := h.right
  have hb := h.bottom
  have hmax : Int32.maxValue.toInt = 2 ^ 31 - 1 := rfl
  have hmin : Int32.minValue.toInt = -2 ^ 31 := rfl
  ext
  · show min Int32.maxValue.toInt m.rect.left = m.rect.left
    omega
  · show min Int32.maxValue.toInt m.rect.top = m.rect.top
    omega
  · show max Int32.minValue.toInt m.rect.right = m.rect.right
    omega
  · show max Int32.minValue.toInt m.rect.bottom = m.rect.bottom
    omega

/-- The bounds are the box around the monitors. -/
theorem calculateBounds_spec (hne : ms ≠ []) (h : ∀ m ∈ ms, m.Placed) :
    ∃ b, calculateBounds o ms = some b ∧ (boundsRect b).IsBox (ms.map MonitorLayout.rect) := by
  obtain ⟨b, hb, hfold⟩ := foldlM_growBounds (o := o) h
    ⟨Int32.maxValue, Int32.maxValue, Int32.minValue, Int32.minValue⟩
  refine ⟨b, hb, ?_⟩
  obtain ⟨m, ms, rfl⟩ := List.exists_cons_of_ne_nil hne
  rw [hfold, List.map_cons, List.foldl_cons, hull_extremes (h m List.mem_cons_self)]
  exact (Rect.isBox_singleton m.rect).foldl_hull _

/-- So the virtual desktop is. -/
theorem boundingDesktop_spec (hne : ms ≠ []) (h : ∀ m ∈ ms, m.Placed) :
    ∃ d, boundingDesktop o ms = some d ∧ d.monitors = ms ∧
      d.rect.IsBox (ms.map MonitorLayout.rect) := by
  obtain ⟨b, hb, hbox⟩ := calculateBounds_spec (o := o) hne h
  -- the box has its edges in the positive range, in the right order
  have hedge : 0 ≤ (boundsRect b).left ∧ 0 ≤ (boundsRect b).top ∧
      (boundsRect b).right < 2 ^ 31 ∧ (boundsRect b).bottom < 2 ^ 31 := by
    have hmem : ∀ r ∈ ms.map MonitorLayout.rect,
        0 ≤ r.left ∧ 0 ≤ r.top ∧ r.right < 2 ^ 31 ∧ r.bottom < 2 ^ 31 := by
      intro r hr
      obtain ⟨m, hm, rfl⟩ := List.mem_map.mp hr
      exact ⟨(h m hm).left, (h m hm).top, (h m hm).right, (h m hm).bottom⟩
    obtain ⟨r₁, hr₁, hleft⟩ := hbox.left
    obtain ⟨r₂, hr₂, htop⟩ := hbox.top
    obtain ⟨r₃, hr₃, hright⟩ := hbox.right
    obtain ⟨r₄, hr₄, hbottom⟩ := hbox.bottom
    rw [← hleft, ← htop, ← hright, ← hbottom]
    exact ⟨(hmem r₁ hr₁).1, (hmem r₂ hr₂).2.1, (hmem r₃ hr₃).2.2.1, (hmem r₄ hr₄).2.2.2⟩
  have hordered : (boundsRect b).left ≤ (boundsRect b).right ∧
      (boundsRect b).top ≤ (boundsRect b).bottom := by
    obtain ⟨m, ms, rfl⟩ := List.exists_cons_of_ne_nil hne
    obtain ⟨hl, ht, hr, hb⟩ := hbox.inside m.rect List.mem_cons_self
    have hw : m.rect.left ≤ m.rect.right := Int.le_add_of_nonneg_right (Int.natCast_nonneg _)
    have hh : m.rect.top ≤ m.rect.bottom := Int.le_add_of_nonneg_right (Int.natCast_nonneg _)
    omega
  have hside : ∀ {a b : Int32}, 0 ≤ a.toInt → a.toInt ≤ b.toInt →
      ∃ side, o.int32 (b.toInt - a.toInt) = some side ∧
        a.toInt + (side.toUInt32.toNat : ℤ) = b.toInt := by
    intro a b ha hab
    have hlt := b.toInt_lt
    obtain ⟨side, hside, hvalue⟩ := Overflow.exists_int32 o (n := b.toInt - a.toInt)
      (by omega) (by omega)
    refine ⟨side, hside, ?_⟩
    rw [Int32.toNat_toUInt32_of_nonneg (by omega), hvalue]
    omega
  obtain ⟨width, hwidth, hright⟩ := hside hedge.1 hordered.1
  obtain ⟨height, hheight, hbottom⟩ := hside hedge.2.1 hordered.2
  refine ⟨⟨width.toUInt32, height.toUInt32, b.left, b.top, ms⟩, ?_, rfl, ?_⟩
  · rw [boundingDesktop, hb]
    simp only [Option.bind_eq_bind, Option.bind_some, hwidth, hheight]
  · have hrect : VirtualDesktop.rect ⟨width.toUInt32, height.toUInt32, b.left, b.top, ms⟩ =
        boundsRect b := by
      rw [VirtualDesktop.rect, boundsRect, hright, hbottom]
    rw [hrect]
    exact hbox

end Box

/-! ### Rows and columns of monitors -/

section Lines

variable {o : Overflow}

/-- A line of monitors: each is that of its stream, begins where the line stands or later,
and ends before the line does and before the next one begins. -/
theorem arrangeLine_spec (size : StreamInfo → UInt32) (place : Int32 → Int32 × Int32)
    (along extent : MonitorLayout → ℤ)
    (halong : ∀ (s : StreamInfo) c idx, along (s.monitorAt (place c) idx) = c.toInt)
    (hextent : ∀ (s : StreamInfo) c idx, extent (s.monitorAt (place c) idx) = (size s).toNat)
    (streams : List StreamInfo) (idx : ℕ) (current : Int32) (hpos : 0 ≤ current.toInt)
    (hfit : current.toInt + (streams.map fun s => (size s).toNat).sum < 2 ^ 31) :
    ∃ ms, arrangeLine o size place idx current streams = some ms ∧
      ms.map (fun m => (m.id, m.width, m.height)) =
        streams.map (fun s => (s.nodeId, s.size.1, s.size.2)) ∧
      (∀ m ∈ ms, ∃ s ∈ streams, ∃ c idx, m = s.monitorAt (place c) idx ∧
        current.toInt ≤ c.toInt ∧ c.toInt + (size s).toNat < 2 ^ 31) ∧
      ms.Pairwise fun m m' => along m + extent m ≤ along m' := by
  induction streams generalizing idx current with
  | nil => exact ⟨[], rfl, rfl, fun m hm => absurd hm List.not_mem_nil, List.Pairwise.nil⟩
  | cons s rest ih =>
      rw [List.map_cons, List.sum_cons, Int.natCast_add] at hfit
      -- the next monitor starts where this one ends
      obtain ⟨next, hnext, hvalue⟩ := exists_end o (w := size s) hpos (by omega)
      obtain ⟨ms, hms, hmap, hmem, hpair⟩ := ih (idx + 1) next (by omega) (by omega)
      refine ⟨s.monitorAt (place current) idx :: ms, ?_, ?_, ?_, ?_⟩
      · rw [arrangeLine]
        simp only [Option.bind_eq_bind, Option.bind_some, hnext, hms]
      · rw [List.map_cons, List.map_cons, hmap]
        rfl
      · intro m hm
        rcases List.mem_cons.mp hm with rfl | hm
        · exact ⟨s, List.mem_cons_self, current, idx, rfl, le_rfl, by omega⟩
        · obtain ⟨s', hs', c, idx', hmon, hlo, hhi⟩ := hmem m hm
          exact ⟨s', List.mem_cons_of_mem s hs', c, idx', hmon, by omega, hhi⟩
      · -- and the later ones do not start before that
        refine List.pairwise_cons.mpr ⟨fun m hm => ?_, hpair⟩
        obtain ⟨s', -, c, idx', rfl, hlo, -⟩ := hmem m hm
        rw [halong, halong, hextent]
        omega

/-- What is asked of the monitors that a strategy places. -/
structure Arranged (streams : List StreamInfo) (ms : List MonitorLayout) : Prop where
  monitors : ms.map (fun m => (m.id, m.width, m.height)) =
    streams.map fun s => (s.nodeId, s.size.1, s.size.2)
  placed : ∀ m ∈ ms, m.Placed

/-- `arrange_horizontal`: no two monitors overlap. -/
theorem arrangeHorizontal_spec {streams : List StreamInfo}
    (hfit : LayoutStrategy.horizontal.Fits streams) :
    ∃ ms, arrangeHorizontal o streams = some ms ∧ Arranged streams ms ∧
      ms.Pairwise fun m m' => Disjoint m.rect.points m'.rect.points := by
  obtain ⟨hsum, hheight⟩ := hfit
  obtain ⟨ms, hms, hmap, hmem, hpair⟩ := arrangeLine_spec (o := o) (fun s => s.size.1)
    (fun currentX => (currentX, 0)) (fun m => m.x.toInt) (fun m => m.width.toNat)
    (fun _ _ _ => rfl) (fun _ _ _ => rfl) streams 0 0 le_rfl (by rw [Int32.toInt_zero]; omega)
  refine ⟨ms, hms, ⟨hmap, fun m hm => ?_⟩, hpair.imp fun h => Rect.disjoint_of_beside h⟩
  obtain ⟨s, hs, c, idx, rfl, hlo, hhi⟩ := hmem m hm
  have hbottom : (0 : Int32).toInt + (s.size.2.toNat : ℤ) < 2 ^ 31 := by
    have h := hheight s hs
    rw [Int32.toInt_zero]
    omega
  exact ⟨hlo, le_rfl, hhi, hbottom⟩

/-- `arrange_vertical`: no two monitors overlap. -/
theorem arrangeVertical_spec {streams : List StreamInfo}
    (hfit : LayoutStrategy.vertical.Fits streams) :
    ∃ ms, arrangeVertical o streams = some ms ∧ Arranged streams ms ∧
      ms.Pairwise fun m m' => Disjoint m.rect.points m'.rect.points := by
  obtain ⟨hsum, hwidth⟩ := hfit
  obtain ⟨ms, hms, hmap, hmem, hpair⟩ := arrangeLine_spec (o := o) (fun s => s.size.2)
    (fun currentY => (0, currentY)) (fun m => m.y.toInt) (fun m => m.height.toNat)
    (fun _ _ _ => rfl) (fun _ _ _ => rfl) streams 0 0 le_rfl (by rw [Int32.toInt_zero]; omega)
  refine ⟨ms, hms, ⟨hmap, fun m hm => ?_⟩, hpair.imp fun h => Rect.disjoint_of_above h⟩
  obtain ⟨s, hs, c, idx, rfl, hlo, hhi⟩ := hmem m hm
  have hright : (0 : Int32).toInt + (s.size.1.toNat : ℤ) < 2 ^ 31 := by
    have h := hwidth s hs
    rw [Int32.toInt_zero]
    omega
  exact ⟨le_rfl, hlo, hright, hhi⟩

end Lines

/-! ### Grids -/

section Grids

variable {o : Overflow} {rows cols : UInt32} {streams : List StreamInfo}

/-- The monitor of a stream in a grid, where its position fits. -/
def gridPlace (cols : UInt32) (p : StreamInfo × ℕ) : MonitorLayout :=
  p.1.monitorAt ((UInt32.ofNat ((gridCol cols p.2).toNat * p.1.size.1.toNat)).toInt32,
    (UInt32.ofNat ((gridRow cols p.2).toNat * p.1.size.2.toNat)).toInt32) p.2

/-- A product that is a positive `i32`. -/
theorem toInt_toInt32_ofNat {n : ℕ} (h : n < 2 ^ 31) : (UInt32.ofNat n).toInt32.toInt = n := by
  have hn : (UInt32.ofNat n).toNat = n := by
    rw [UInt32.toNat_ofNat']
    exact Nat.mod_eq_of_lt (by omega)
  rw [UInt32.toInt_toInt32_of_lt (by omega), hn]

/-- The edges of the monitor of a stream in a grid. -/
theorem gridPlace_rect {p : StreamInfo × ℕ}
    (hx : ((gridCol cols p.2).toNat + 1) * p.1.size.1.toNat < 2 ^ 31)
    (hy : ((gridRow cols p.2).toNat + 1) * p.1.size.2.toNat < 2 ^ 31) :
    (gridPlace cols p).rect =
      ⟨((gridCol cols p.2).toNat * p.1.size.1.toNat : ℕ),
        ((gridRow cols p.2).toNat * p.1.size.2.toNat : ℕ),
        (((gridCol cols p.2).toNat + 1) * p.1.size.1.toNat : ℕ),
        (((gridRow cols p.2).toNat + 1) * p.1.size.2.toNat : ℕ)⟩ := by
  rw [Nat.succ_mul] at hx hy
  rw [Nat.succ_mul, Nat.succ_mul, Int.natCast_add, Int.natCast_add,
    ← toInt_toInt32_ofNat (Nat.lt_of_le_of_lt (Nat.le_add_right _ _) hx),
    ← toInt_toInt32_ofNat (Nat.lt_of_le_of_lt (Nat.le_add_right _ _) hy)]
  rfl

theorem gridMonitor_eq {p : StreamInfo × ℕ}
    (hx : ((gridCol cols p.2).toNat + 1) * p.1.size.1.toNat < 2 ^ 31)
    (hy : ((gridRow cols p.2).toNat + 1) * p.1.size.2.toNat < 2 ^ 31) :
    gridMonitor o cols p.1 p.2 = some (gridPlace cols p) := by
  rw [Nat.succ_mul] at hx hy
  rw [gridMonitor, Overflow.uint32_of_lt (by omega), Overflow.uint32_of_lt (by omega)]
  rfl

/-- Where the positions fit, every stream gets its monitor. -/
theorem mapM_gridMonitor {l : List (StreamInfo × ℕ)}
    (hfit : ∀ p ∈ l, ((gridCol cols p.2).toNat + 1) * p.1.size.1.toNat < 2 ^ 31 ∧
      ((gridRow cols p.2).toNat + 1) * p.1.size.2.toNat < 2 ^ 31) :
    (l.mapM fun (s, idx) => gridMonitor o cols s idx) = some (l.map (gridPlace cols)) := by
  induction l with
  | nil => rfl
  | cons p l ih =>
      obtain ⟨⟨hx, hy⟩, hrest⟩ := List.forall_mem_cons.mp hfit
      rw [List.mapM_cons, ih hrest]
      show (gridMonitor o cols p.1 p.2 >>= _) = _
      rw [gridMonitor_eq hx hy]
      rfl

/-- `arrange_grid`, where the number of cells is no matter. -/
theorem arrangeGrid_spec (hrows : 1 ≤ rows.toNat) (hcols : 1 ≤ cols.toNat)
    (hcells : o = .panics → rows.toNat * cols.toNat < 2 ^ 32)
    (hfit : (LayoutStrategy.grid rows cols).Fits streams) :
    arrangeGrid o streams rows cols = some (.ok (streams.zipIdx.map (gridPlace cols))) := by
  have hzero : ¬ (rows = 0 ∨ cols = 0) := by
    rintro (h | h)
    · rw [h] at hrows
      exact absurd hrows (by decide)
    · rw [h] at hcols
      exact absurd hcols (by decide)
  have hmul : ∃ cells, o.uint32 (rows.toNat * cols.toNat) = some cells := by
    cases o with
    | wraps => exact ⟨_, Overflow.uint32_wraps _⟩
    | panics => exact ⟨_, Overflow.uint32_of_lt (hcells rfl)⟩
  obtain ⟨cells, hcells⟩ := hmul
  rw [arrangeGrid, if_neg hzero, hcells]
  simp only [Option.bind_eq_bind, Option.bind_some, mapM_gridMonitor hfit]

/-- A build that panics does so where the number of cells is no `u32`. -/
theorem arrangeGrid_panics (hrows : 1 ≤ rows.toNat) (hcols : 1 ≤ cols.toNat)
    (hcells : ¬ rows.toNat * cols.toNat < 2 ^ 32) :
    arrangeGrid .panics streams rows cols = none := by
  have hzero : ¬ (rows = 0 ∨ cols = 0) := by
    rintro (h | h)
    · rw [h] at hrows
      exact absurd hrows (by decide)
    · rw [h] at hcols
      exact absurd hcols (by decide)
  rw [arrangeGrid, if_neg hzero, Overflow.uint32, if_pos ⟨rfl, hcells⟩]
  rfl

theorem gridPlace_arranged (hfit : (LayoutStrategy.grid rows cols).Fits streams) :
    Arranged streams (streams.zipIdx.map (gridPlace cols)) where
  monitors := by
    rw [List.map_map]
    calc streams.zipIdx.map ((fun m => (m.id, m.width, m.height)) ∘ gridPlace cols)
        = (streams.zipIdx.map Prod.fst).map fun s => (s.nodeId, s.size.1, s.size.2) := by
          rw [List.map_map]
          rfl
      _ = streams.map fun s => (s.nodeId, s.size.1, s.size.2) := by
          rw [List.zipIdx_map_fst]
  placed := by
    intro m hm
    obtain ⟨p, hp, rfl⟩ := List.mem_map.mp hm
    obtain ⟨hx, hy⟩ := hfit p hp
    have hrect := gridPlace_rect hx hy
    refine ⟨?_, ?_, ?_, ?_⟩
    · rw [hrect]
      exact Int.natCast_nonneg _
    · rw [hrect]
      exact Int.natCast_nonneg _
    · rw [hrect]
      exact Int.ofNat_lt.mpr hx
    · rw [hrect]
      exact Int.ofNat_lt.mpr hy

/-- The monitors of two streams of a grid are disjoint exactly if the streams are apart. -/
theorem disjoint_gridPlace {p q : StreamInfo × ℕ}
    (hp : 0 < p.1.size.1 ∧ 0 < p.1.size.2) (hq : 0 < q.1.size.1 ∧ 0 < q.1.size.2)
    (hpx : ((gridCol cols p.2).toNat + 1) * p.1.size.1.toNat < 2 ^ 31)
    (hpy : ((gridRow cols p.2).toNat + 1) * p.1.size.2.toNat < 2 ^ 31)
    (hqx : ((gridCol cols q.2).toNat + 1) * q.1.size.1.toNat < 2 ^ 31)
    (hqy : ((gridRow cols q.2).toNat + 1) * q.1.size.2.toNat < 2 ^ 31) :
    Disjoint (gridPlace cols p).rect.points (gridPlace cols q).rect.points ↔
      GridApart cols p q := by
  have hproper : ∀ r : StreamInfo × ℕ, 0 < r.1.size.1 ∧ 0 < r.1.size.2 →
      (gridPlace cols r).rect.Proper := by
    rintro r ⟨hw, hh⟩
    have hw : 0 < r.1.size.1.toNat := UInt32.lt_iff_toNat_lt.mp hw
    have hh : 0 < r.1.size.2.toNat := UInt32.lt_iff_toNat_lt.mp hh
    exact ⟨Int.lt_add_of_pos_right _ (Int.natCast_pos.mpr hw),
      Int.lt_add_of_pos_right _ (Int.natCast_pos.mpr hh)⟩
  rw [Rect.disjoint_points (hproper p hp) (hproper q hq), gridPlace_rect hpx hpy,
    gridPlace_rect hqx hqy, GridApart]
  simp only [Int.ofNat_le]

end Grids

/-! ### Layouts -/

section Layouts

variable {o : Overflow} {strategy : LayoutStrategy} {streams : List StreamInfo}
  {ms : List MonitorLayout}

/-- Once the monitors are placed, the layout is right exactly if no two of them overlap. -/
theorem calculateLayout_of_arranged (hne : streams ≠ [])
    (h : strategy.arrange o streams = some (.ok ms)) (harranged : Arranged streams ms) :
    (∃ d, calculateLayout o strategy streams = some (.ok d) ∧ LaidOut streams d) ↔
      ms.Pairwise fun m m' => Disjoint m.rect.points m'.rect.points := by
  have hms : ms ≠ [] := by
    rintro rfl
    have hlen := congrArg List.length harranged.monitors
    rw [List.length_map, List.length_map] at hlen
    exact hne (List.length_eq_zero_iff.mp hlen.symm)
  obtain ⟨d, hd, hmonitors, hbox⟩ := boundingDesktop_spec (o := o) hms harranged.placed
  have hlayout : calculateLayout o strategy streams = some (.ok d) := by
    rw [calculateLayout, if_neg hne, h]
    simp only [Option.bind_eq_bind, Option.bind_some, hd]
  constructor
  · rintro ⟨d', hd', hlaid⟩
    obtain rfl := Except.ok.inj (Option.some.inj (hlayout.symm.trans hd'))
    rw [← hmonitors]
    exact hlaid.disjoint
  · intro hdisjoint
    subst hmonitors
    exact ⟨d, hlayout, harranged.monitors, hdisjoint, hbox⟩

/-- No streams, no layout. -/
theorem calculateLayout_nil (o : Overflow) (strategy : LayoutStrategy) :
    calculateLayout o strategy [] = some (.error .noMonitors) := if_pos rfl

end Layouts

/-- **When a layout is right**: for streams of positive sizes whose coordinates fit, placed
in a row, a column or a grid with a cell for each, `calculate_layout` gives a monitor for
each stream, no two of which overlap, and the exact box around them, if and only if there
is a stream and, in a grid, every two streams are apart (and a build that panics can count
the cells). -/
theorem calculateLayout_laidOut_iff (o : Overflow) {strategy : LayoutStrategy}
    (hstrategy : strategy ≠ .preservePositions) {streams : List StreamInfo}
    (hsize : ∀ s ∈ streams, 0 < s.size.1 ∧ 0 < s.size.2) (hfit : strategy.Fits streams)
    (hholds : strategy.Holds streams) :
    (∃ d, calculateLayout o strategy streams = some (.ok d) ∧ LaidOut streams d) ↔
      streams ≠ [] ∧ strategy.KeepsApart o streams := by
  rcases eq_or_ne streams [] with rfl | hne
  · -- without monitors the layout is an error
    refine iff_of_false ?_ fun h => h.1 rfl
    rintro ⟨d, hd, -⟩
    rw [calculateLayout_nil] at hd
    cases hd
  rw [and_iff_right hne]
  cases strategy with
  | preservePositions => exact absurd rfl hstrategy
  -- side by side the monitors never overlap
  | horizontal =>
      obtain ⟨ms, hms, harranged, hdisjoint⟩ := arrangeHorizontal_spec (o := o) hfit
      have harrange : LayoutStrategy.horizontal.arrange o streams = some (.ok ms) := by
        rw [LayoutStrategy.arrange, hms]
        rfl
      exact iff_of_true ((calculateLayout_of_arranged hne harrange harranged).mpr hdisjoint) trivial
  | vertical =>
      obtain ⟨ms, hms, harranged, hdisjoint⟩ := arrangeVertical_spec (o := o) hfit
      have harrange : LayoutStrategy.vertical.arrange o streams = some (.ok ms) := by
        rw [LayoutStrategy.arrange, hms]
        rfl
      exact iff_of_true ((calculateLayout_of_arranged hne harrange harranged).mpr hdisjoint) trivial
  | grid rows cols =>
      -- in a grid they may, and the number of cells may overflow
      obtain ⟨hrows, hcols, -⟩ := hholds
      by_cases hcells : o = .panics → rows.toNat * cols.toNat < 2 ^ 32
      · have harrange : (LayoutStrategy.grid rows cols).arrange o streams = some (.ok _) :=
          arrangeGrid_spec hrows hcols hcells hfit
        rw [calculateLayout_of_arranged hne harrange (gridPlace_arranged hfit), List.pairwise_map,
          LayoutStrategy.KeepsApart, and_iff_right hcells]
        refine List.Pairwise.iff_of_mem fun {p q} hp hq => ?_
        have hsizes : ∀ r ∈ streams.zipIdx, 0 < r.1.size.1 ∧ 0 < r.1.size.2 :=
          fun r hr => hsize r.1 (List.fst_mem_of_mem_zipIdx hr)
        exact disjoint_gridPlace (hsizes p hp) (hsizes q hq) (hfit p hp).1 (hfit p hp).2
          (hfit q hq).1 (hfit q hq).2
      · refine iff_of_false ?_ fun h => hcells h.1
        obtain ⟨rfl, hlarge⟩ := Classical.not_imp.mp hcells
        rintro ⟨d, hd, -⟩
        rw [calculateLayout, if_neg hne, LayoutStrategy.arrange,
          arrangeGrid_panics hrows hcols hlarge] at hd
        cases hd

/-- Two streams in a row of a grid, the second larger than the first. -/
theorem calculateLayout_laidOut_growing :
    (∃ d, calculateLayout .panics (.grid 1 2) [⟨1, (0, 0), (100, 50)⟩, ⟨2, (0, 0), (200, 80)⟩] =
        some (.ok d) ∧ LaidOut [⟨1, (0, 0), (100, 50)⟩, ⟨2, (0, 0), (200, 80)⟩] d) ↔
      [⟨1, (0, 0), (100, 50)⟩, ⟨2, (0, 0), (200, 80)⟩] ≠ ([] : List StreamInfo) ∧
        (LayoutStrategy.grid 1 2).KeepsApart .panics
          [⟨1, (0, 0), (100, 50)⟩, ⟨2, (0, 0), (200, 80)⟩] :=
  calculateLayout_laidOut_iff .panics (by decide) (by decide)
    (by
      show ∀ p ∈ _, _
      decide) ⟨by decide, by decide, by decide⟩

/-- Two streams in a row of a grid, the second smaller than the first: it begins inside the
first. -/
theorem calculateLayout_grid_overlap :
    ¬ ∀ (o : Overflow) (strategy : LayoutStrategy) (streams : List StreamInfo),
      strategy ≠ .preservePositions → (∀ s ∈ streams, 0 < s.size.1 ∧ 0 < s.size.2) →
      strategy.Fits streams → strategy.Holds streams →
      ∃ d, calculateLayout o strategy streams = some (.ok d) ∧ LaidOut streams d := by
  intro h
  obtain ⟨d, hd, hlaid⟩ := h .wraps (.grid 1 2) [⟨1, (0, 0), (200, 100)⟩, ⟨2, (0, 0), (100, 100)⟩]
    (by decide) (by decide)
    (by
      show ∀ p ∈ _, _
      decide) ⟨by decide, by decide, by decide⟩
  have hlayout : calculateLayout .wraps (.grid 1 2)
      [⟨1, (0, 0), (200, 100)⟩, ⟨2, (0, 0), (100, 100)⟩] =
      some (.ok ⟨200, 100, 0, 0,
        [⟨1, 0, 0, 200, 100, true⟩, ⟨2, 100, 0, 100, 100, false⟩]⟩) := by
    decide
  obtain rfl := Except.ok.inj (Option.some.inj (hd.symm.trans hlayout))
  have hdisjoint := List.rel_of_pairwise_cons hlaid.disjoint List.mem_cons_self
  have hleft := Set.disjoint_left.mp hdisjoint
  exact hleft (a := (150, 50)) ⟨⟨by decide, by decide⟩, by decide, by decide⟩
    ⟨⟨by decide, by decide⟩, by decide, by decide⟩

end LamcoRdp
