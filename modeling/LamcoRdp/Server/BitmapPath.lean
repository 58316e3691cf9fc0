/-
LamcoRdp/Server/BitmapPath.lean

The bitmap path: converter, graphics queue, drain task and update channel.

The converter gives the rectangles in which a frame differs from the one before; the
pipeline hands them to the graphics queue one at a time, without waiting for room, and
the drain task takes as many as it finds and passes on the last of them.  Without a
graphics queue the pipeline writes to the update channel itself and waits.

What the client will show once everything on its way has arrived is its picture with
all pending rectangles painted on it.  This agrees with the last converted frame
(`Current`) as long as nothing is lost: no rectangle is dropped on a full queue, the
drain task passes over none that reaches beyond the one it keeps, and no frame has a
rectangle without pixels, which makes the conversion of the whole frame fail.
-/
import LamcoRdp.Lib.Raster
import LamcoRdp.Lib.Runs
import Mathlib.Order.Nat

namespace LamcoRdp

open Raster Runs

/-! ### Rectangles -/

/-- `Rectangle`, with exclusive right and bottom edges. -/
structure Rectangle where
  left : ℕ
  top : ℕ
  right : ℕ
  bottom : ℕ
  deriving DecidableEq, Repr

/-- `RdpPixelFormat`. -/
inductive RdpPixelFormat
  | bgrX32
  | bgr24
  | rgb16
  | rgb15
  deriving DecidableEq, Repr

/-- A rectangle as the converter gives it. -/
structure BitmapData where
  rectangle : Rectangle
  format : RdpPixelFormat
  data : List UInt8
  deriving DecidableEq, Repr

/-- The pixel is in the rectangle. -/
def Rectangle.contains (r : Rectangle) (p : ℕ × ℕ) : Prop :=
  r.left ≤ p.1 ∧ p.1 < r.right ∧ r.top ≤ p.2 ∧ p.2 < r.bottom

/-- The pixel formats of IronRDP that the conversion uses; all have 32 bits. -/
inductive IronPixelFormat
  | bgrX32
  | xBgr32
  | xRgb32
  deriving DecidableEq, Repr

/-- Each of the formats has four bytes a pixel. -/
def IronPixelFormat.bytesPerPixel (_ : IronPixelFormat) : ℕ := 4

/-- The format that the server library is told. -/
def RdpPixelFormat.toIron : RdpPixelFormat → IronPixelFormat
  | .bgrX32 => .bgrX32
  | .bgr24 => .xBgr32
  | .rgb16 => .xRgb32
  | .rgb15 => .xRgb32

/-- `BitmapUpdate` of the server library. -/
structure IronBitmapUpdate where
  x : ℕ
  y : ℕ
  width : ℕ
  height : ℕ
  format : IronPixelFormat
  data : List UInt8
  stride : ℕ
  deriving DecidableEq, Repr

/-- The loop body of `convert_to_iron_format`. -/
def BitmapData.toIron (r : BitmapData) : Except String IronBitmapUpdate :=
  let width := r.rectangle.right - r.rectangle.left
  let height := r.rectangle.bottom - r.rectangle.top
  let stride := width * r.format.toIron.bytesPerPixel
  if stride = 0 then .error s!"Invalid stride calculation: width={width}"
  else if width = 0 then .error s!"Invalid width: {width}"
  else if height = 0 then .error s!"Invalid height: {height}"
  else .ok
    { x := r.rectangle.left, y := r.rectangle.top, width, height
      format := r.format.toIron, data := r.data, stride }

/-- `convert_to_iron_format`, which fails with the first rectangle that does. -/
def convertToIronFormat (rectangles : List BitmapData) : Except String (List IronBitmapUpdate) :=
  rectangles.mapM BitmapData.toIron

namespace IronBitmapUpdate

/-- The update covers the pixel. -/
def covers (u : IronBitmapUpdate) (p : ℕ × ℕ) : Bool :=
  decide (u.x ≤ p.1 ∧ p.1 < u.x + u.width ∧ u.y ≤ p.2 ∧ p.2 < u.y + u.height)

/-- Every pixel of the one update is one of the other. -/
def Within (u v : IronBitmapUpdate) : Prop :=
  v.x ≤ u.x ∧ u.x + u.width ≤ v.x + v.width ∧ v.y ≤ u.y ∧ u.y + u.height ≤ v.y + v.height

instance (u v : IronBitmapUpdate) : Decidable (u.Within v) :=
  inferInstanceAs (Decidable (_ ∧ _ ∧ _ ∧ _))

theorem Within.covers {u v : IronBitmapUpdate} (h : u.Within v) {p : ℕ × ℕ}
    (hp : u.covers p = true) : v.covers p = true := by
  obtain ⟨hx, hx', hy, hy'⟩ := h
  obtain ⟨h₁, h₂, h₃, h₄⟩ := of_decide_eq_true hp
  exact decide_eq_true ⟨by omega, by omega, by omega, by omega⟩

end IronBitmapUpdate

/-! ### The system -/

/-- `BitmapConverter`: its state after `new`, and `convert_frame`. -/
structure BitmapConverter (C Frame : Type) where
  new : C
  convertFrame : C → Frame → Except String (List BitmapData) × C

/-- The drain task.  Beside the frame that it holds stand those that it has replaced
since it last waited. -/
inductive DrainTask
  | waiting
  /-- draining additional queued frames -/
  | coalescing (latest : IronBitmapUpdate) (passed : List IronBitmapUpdate)
  /-- the queue was found empty: waiting for room in the update channel -/
  | sending (latest : IronBitmapUpdate) (passed : List IronBitmapUpdate)
  deriving DecidableEq, Repr

/-- The rectangles in the hands of the drain task. -/
def DrainTask.held : DrainTask → List IronBitmapUpdate
  | .waiting => []
  | .coalescing latest passed => passed ++ [latest]
  | .sending latest passed => passed ++ [latest]

/-- The pipeline, the drain task, the channels between them and the client. -/
structure BitmapPath (C Frame Pixel : Type) where
  converter : C
  /-- `iron_updates` of the current frame that are still to be handed over -/
  ironUpdates : List IronBitmapUpdate
  /-- the graphics queue -/
  queue : List IronBitmapUpdate
  drain : DrainTask
  /-- the update channel -/
  updates : List IronBitmapUpdate
  /-- what the client shows -/
  client : ℕ × ℕ → Option Pixel
  /-- the last frame that was converted -/
  lastFrame : Option Frame

/-- A step of the pipeline, of the drain task or of the server library. -/
inductive BitmapEvent (Frame : Type)
  /-- the pipeline takes a frame through both conversions -/
  | frame (f : Frame)
  /-- it hands the next rectangle to the graphics queue -/
  | trySend
  /-- or, without one, to the update channel -/
  | sendUpdate
  | recv
  | tryRecv
  | tryRecvEmpty
  | send
  /-- the client gets an update -/
  | deliver

namespace BitmapPath

variable {C Frame Pixel : Type}

/-- The room in the graphics queue, and in the update channel. -/
def capacity : ℕ := 64

/-- Nothing is on its way. -/
def init (conv : BitmapConverter C Frame) (shown : ℕ × ℕ → Option Pixel) :
    BitmapPath C Frame Pixel where
  converter := conv.new
  ironUpdates := []
  queue := []
  drain := .waiting
  updates := []
  client := shown
  lastFrame := none

/-- What an update paints; `render` is the client's reading of its data. -/
def patch (render : IronBitmapUpdate → ℕ → ℕ → Pixel) (u : IronBitmapUpdate) :
    Patch (ℕ × ℕ) (Option Pixel) where
  area := u.covers
  value p := some (render u (p.1 - u.x) (p.2 - u.y))

/-- The pipeline takes a frame: what comes out of the conversions, if both succeed. -/
def convert (conv : BitmapConverter C Frame) (s : BitmapPath C Frame Pixel) (f : Frame) :
    BitmapPath C Frame Pixel :=
  let (result, converter) := conv.convertFrame s.converter f
  match result with
  | .error _ => { s with converter }
  | .ok rectangles =>
      let s := { s with converter, lastFrame := some f }
      if rectangles.isEmpty then s
      else
        match convertToIronFormat rectangles with
        | .error _ => s
        | .ok ironUpdates => { s with ironUpdates }

variable (conv : BitmapConverter C Frame) (render : IronBitmapUpdate → ℕ → ℕ → Pixel)
  (graphicsTx : Bool)

/-- One event at a time, `none` where it cannot happen. -/
def step (s : BitmapPath C Frame Pixel) (e : BitmapEvent Frame) :
    Option (BitmapPath C Frame Pixel) :=
  match e, s.ironUpdates, s.queue, s.drain, s.updates with
  | .frame f, [], _, _, _ => some (s.convert conv f)
  | .trySend, u :: rest, queue, _, _ =>
      if graphicsTx then
        if queue.length < capacity then
          some { s with ironUpdates := rest, queue := queue ++ [u] }
        else some { s with ironUpdates := rest }
      else none
  | .sendUpdate, u :: rest, _, _, updates =>
      if graphicsTx = false ∧ updates.length < capacity then
        some { s with ironUpdates := rest, updates := updates ++ [u] }
      else none
  | .recv, _, u :: queue, .waiting, _ => some { s with queue, drain := .coalescing u [] }
  | .tryRecv, _, u :: queue, .coalescing latest passed, _ =>
      some { s with queue, drain := .coalescing u (passed ++ [latest]) }
  | .tryRecvEmpty, _, [], .coalescing latest passed, _ =>
      some { s with drain := .sending latest passed }
  | .send, _, _, .sending latest _, updates =>
      if updates.length < capacity then
        some { s with drain := .waiting, updates := updates ++ [latest] }
      else none
  | .deliver, _, _, _, u :: updates =>
      some { s with updates, client := (patch render u).paint s.client }
  | _, _, _, _, _ => none

/-! ### What is on its way -/

/-- All rectangles on their way to the client, the first to arrive first. -/
def pending (s : BitmapPath C Frame Pixel) : List IronBitmapUpdate :=
  s.updates ++ s.drain.held ++ s.queue ++ s.ironUpdates

/-- What the client will show when they have all arrived. -/
def target (s : BitmapPath C Frame Pixel) : ℕ × ℕ → Option Pixel :=
  paintAll (s.pending.map (patch render)) s.client

/-- Everything has arrived. -/
structure Drained (s : BitmapPath C Frame Pixel) : Prop where
  ironUpdates : s.ironUpdates = []
  queue : s.queue = []
  drain : s.drain = .waiting
  updates : s.updates = []

instance (s : BitmapPath C Frame Pixel) : Decidable s.Drained :=
  decidable_of_iff (s.ironUpdates = [] ∧ s.queue = [] ∧ s.drain = .waiting ∧ s.updates = [])
    ⟨fun ⟨h₁, h₂, h₃, h₄⟩ => ⟨h₁, h₂, h₃, h₄⟩,
      fun h => ⟨h.ironUpdates, h.queue, h.drain, h.updates⟩⟩

theorem target_of_drained {s : BitmapPath C Frame Pixel} (h : s.Drained) :
    s.target render = s.client := by
  rw [target, pending, h.ironUpdates, h.queue, h.drain, h.updates]
  rfl

/-- The steps that lose nothing: every rectangle of a frame has pixels, the queue has
room, and what the drain task has passed over lies within what it sends. -/
def lossless (s : BitmapPath C Frame Pixel) : BitmapEvent Frame → Bool
  | .frame f =>
      match (conv.convertFrame s.converter f).1 with
      | .ok rectangles => (convertToIronFormat rectangles).isOk
      | .error _ => true
  | .trySend => decide (s.queue.length < capacity)
  | .send =>
      match s.drain with
      | .sending latest passed => passed.all fun u => decide (u.Within latest)
      | _ => true
  | _ => true

variable {conv render graphicsTx} {s t : BitmapPath C Frame Pixel}

/-- The steps of the system, one by one. -/
inductive Moves (conv : BitmapConverter C Frame) (render : IronBitmapUpdate → ℕ → ℕ → Pixel)
    (graphicsTx : Bool) (s : BitmapPath C Frame Pixel) :
    BitmapEvent Frame → BitmapPath C Frame Pixel → Prop
  | frame (f : Frame) (hnone : s.ironUpdates = []) :
      Moves conv render graphicsTx s (.frame f) (s.convert conv f)
  | queued {u : IronBitmapUpdate} {rest : List IronBitmapUpdate}
      (htx : graphicsTx = true) (hnext : s.ironUpdates = u :: rest)
      (hroom : s.queue.length < capacity) :
      Moves conv render graphicsTx s .trySend
        { s with ironUpdates := rest, queue := s.queue ++ [u] }
  | dropped {u : IronBitmapUpdate} {rest : List IronBitmapUpdate}
      (htx : graphicsTx = true) (hnext : s.ironUpdates = u :: rest)
      (hfull : ¬ s.queue.length < capacity) :
      Moves conv render graphicsTx s .trySend { s with ironUpdates := rest }
  | sent {u : IronBitmapUpdate} {rest : List IronBitmapUpdate}
      (htx : graphicsTx = false) (hnext : s.ironUpdates = u :: rest) :
      Moves conv render graphicsTx s .sendUpdate
        { s with ironUpdates := rest, updates := s.updates ++ [u] }
  | received {u : IronBitmapUpdate} {queue : List IronBitmapUpdate}
      (hqueue : s.queue = u :: queue) (hdrain : s.drain = .waiting) :
      Moves conv render graphicsTx s .recv { s with queue, drain := .coalescing u [] }
  | coalesced {u latest : IronBitmapUpdate} {queue passed : List IronBitmapUpdate}
      (hqueue : s.queue = u :: queue) (hdrain : s.drain = .coalescing latest passed) :
      Moves conv render graphicsTx s .tryRecv
        { s with queue, drain := .coalescing u (passed ++ [latest]) }
  | stopped {latest : IronBitmapUpdate} {passed : List IronBitmapUpdate}
      (hdrain : s.drain = .coalescing latest passed) :
      Moves conv render graphicsTx s .tryRecvEmpty { s with drain := .sending latest passed }
  | forwarded {latest : IronBitmapUpdate} {passed : List IronBitmapUpdate}
      (hdrain : s.drain = .sending latest passed) :
      Moves conv render graphicsTx s .send
        { s with drain := .waiting, updates := s.updates ++ [latest] }
  | delivered {u : IronBitmapUpdate} {updates : List IronBitmapUpdate}
      (hupdates : s.updates = u :: updates) :
      Moves conv render graphicsTx s .deliver
        { s with updates, client := (patch render u).paint s.client }

theorem moves_of_step {e : BitmapEvent Frame} (h : step conv render graphicsTx s e = some t) :
    Moves conv render graphicsTx s e t := by
  unfold step at h
  split at h
  · obtain rfl := Option.some.inj h
    exact .frame _ ‹_›
  · split_ifs at h with htx hroom
    · obtain rfl := Option.some.inj h
      exact .queued htx ‹_› hroom
    · obtain rfl := Option.some.inj h
      exact .dropped htx ‹_› hroom
  · obtain ⟨⟨htx, -⟩, h⟩ := Option.ite_none_right_eq_some.mp h
    obtain rfl := Option.some.inj h
    exact .sent htx ‹_›
  · obtain rfl := Option.some.inj h
    exact .received ‹_› ‹_›
  · obtain rfl := Option.some.inj h
    exact .coalesced ‹_› ‹_›
  · obtain rfl := Option.some.inj h
    exact .stopped ‹_›
  · obtain ⟨-, h⟩ := Option.ite_none_right_eq_some.mp h
    obtain rfl := Option.some.inj h
    exact .forwarded ‹_›
  · obtain rfl := Option.some.inj h
    exact .delivered ‹_›
  · cases h

end BitmapPath

/-! ### The converter -/

/-- What is relied on of the converter: it keeps the last frame that it converted as its
reference, and gives rectangles with the pixels of the new frame that cover every pixel
in which the two differ. -/
structure Incremental {C Frame Pixel : Type} (conv : BitmapConverter C Frame)
    (render : IronBitmapUpdate → ℕ → ℕ → Pixel) (picture : Frame → ℕ × ℕ → Option Pixel) where
  reference : C → ℕ × ℕ → Option Pixel
  new : ∀ p, reference conv.new p = none
  failed : ∀ {c f e c'}, conv.convertFrame c f = (.error e, c') → reference c' = reference c
  converted : ∀ {c f rectangles c'}, conv.convertFrame c f = (.ok rectangles, c') →
    reference c' = picture f
  covers : ∀ {c f rectangles c'}, conv.convertFrame c f = (.ok rectangles, c') →
    ∀ p, (picture f p).isSome → picture f p ≠ reference c p →
      ∃ r ∈ rectangles, r.rectangle.contains p
  pixels : ∀ {c f rectangles c'}, conv.convertFrame c f = (.ok rectangles, c') →
    ∀ r ∈ rectangles, ∀ u, r.toIron = .ok u → ∀ p, u.covers p = true →
      some (render u (p.1 - u.x) (p.2 - u.y)) = picture f p

theorem BitmapData.toIron_covers {r : BitmapData} {u : IronBitmapUpdate} (h : r.toIron = .ok u)
    {p : ℕ × ℕ} (hp : r.rectangle.contains p) : u.covers p = true := by
  unfold toIron at h
  dsimp only at h
  split_ifs at h
  obtain rfl := Except.ok.inj h
  obtain ⟨hl, hr, ht, hb⟩ := hp
  exact decide_eq_true ⟨hl, by dsimp only; omega, ht, by dsimp only; omega⟩

/-- The conversion keeps the rectangles, one for one. -/
theorem convertToIronFormat_mem {rectangles : List BitmapData} {us : List IronBitmapUpdate}
    (h : convertToIronFormat rectangles = .ok us) :
    (∀ u ∈ us, ∃ r ∈ rectangles, r.toIron = .ok u) ∧
      ∀ r ∈ rectangles, ∃ u ∈ us, r.toIron = .ok u := by
  induction rectangles generalizing us with
  | nil =>
      obtain rfl : [] = us := Except.ok.inj h
      exact ⟨nofun, nofun⟩
  | cons r rectangles ih =>
      rw [convertToIronFormat, List.mapM_cons] at h
      rcases hr : r.toIron with e | u
      · -- one rectangle that fails makes the whole frame fail
        rw [hr] at h
        cases h
      rcases hrest : convertToIronFormat rectangles with e | us'
      · rw [convertToIronFormat] at hrest
        rw [hr, hrest] at h
        cases h
      obtain ⟨hback, hforth⟩ := ih hrest
      rw [convertToIronFormat] at hrest
      rw [hr, hrest] at h
      obtain rfl : u :: us' = us := Except.ok.inj h
      constructor
      · intro u' hu'
        rcases List.mem_cons.mp hu' with rfl | hu'
        · exact ⟨r, List.mem_cons_self, hr⟩
        · obtain ⟨r', hr', hu⟩ := hback u' hu'
          exact ⟨r', List.mem_cons_of_mem r hr', hu⟩
      · intro r' hr'
        rcases List.mem_cons.mp hr' with rfl | hr'
        · exact ⟨u, List.mem_cons_self, hr⟩
        · obtain ⟨u', hu', hr'⟩ := hforth r' hr'
          exact ⟨u', List.mem_cons_of_mem u hu', hr'⟩

namespace BitmapPath

variable {C Frame Pixel : Type} {conv : BitmapConverter C Frame}
  {render : IronBitmapUpdate → ℕ → ℕ → Pixel} {picture : Frame → ℕ × ℕ → Option Pixel}
  {graphicsTx : Bool} {s t : BitmapPath C Frame Pixel}

/-- Nothing is lost: once everything has arrived, the client shows the last frame. -/
structure Current (I : Incremental conv render picture) (graphicsTx : Bool)
    (s : BitmapPath C Frame Pixel) : Prop where
  reference : ∀ p, I.reference s.converter p = s.lastFrame.bind (picture · p)
  target : ∀ f, s.lastFrame = some f →
    AgreeOn (fun p => (picture f p).isSome) (s.target render) (picture f)
  /-- without a graphics queue the drain task has nothing to do -/
  direct : graphicsTx = false → s.queue = [] ∧ s.drain = .waiting

variable {I : Incremental conv render picture}

/-- A step that leaves converter and target alone. -/
theorem Current.of_same (hs : Current I graphicsTx s) (hconv : t.converter = s.converter)
    (hlast : t.lastFrame = s.lastFrame) (htarget : t.target render = s.target render)
    (hdirect : graphicsTx = false → t.queue = [] ∧ t.drain = .waiting) :
    Current I graphicsTx t where
  reference := by
    rw [hconv, hlast]
    exact hs.reference
  target := by
    rw [hlast, htarget]
    exact hs.target
  direct := hdirect

/-- A step that keeps what is pending, in its order. -/
theorem Current.of_pending (hs : Current I graphicsTx s) (hconv : t.converter = s.converter)
    (hlast : t.lastFrame = s.lastFrame) (hclient : t.client = s.client)
    (hpending : t.pending = s.pending)
    (hdirect : graphicsTx = false → t.queue = [] ∧ t.drain = .waiting) :
    Current I graphicsTx t :=
  hs.of_same hconv hlast (by rw [BitmapPath.target, BitmapPath.target, hpending, hclient]) hdirect

/-- The rectangles of a frame bring the client up to it. -/
theorem Current.agree_convert (hs : Current I graphicsTx s) {f : Frame}
    {rectangles : List BitmapData} {converter : C} {us : List IronBitmapUpdate}
    (hc : conv.convertFrame s.converter f = (.ok rectangles, converter))
    (hus : convertToIronFormat rectangles = .ok us) :
    AgreeOn (fun p => (picture f p).isSome) (paintAll (us.map (patch render)) (s.target render))
      (picture f) := by
  obtain ⟨hback, hforth⟩ := convertToIronFormat_mem hus
  refine paintAll_agree ?_ ?_
  · intro v hv p hp
    obtain ⟨u, hu, rfl⟩ := List.mem_map.mp hv
    obtain ⟨r, hr, hiron⟩ := hback u hu
    exact I.pixels hc r hr u hiron p hp
  · intro p hp
    by_cases hsame : picture f p = I.reference s.converter p
    · -- the pixel did not change, and the client will have it
      right
      rw [hs.reference] at hsame
      rcases hlast : s.lastFrame with - | g
      · rw [hsame, hlast] at hp
        cases hp
      · rw [hlast] at hsame
        have hsame : picture f p = picture g p := hsame
        rw [hsame] at hp
        exact (hs.target g hlast p hp).trans hsame.symm
    · left
      obtain ⟨r, hr, hin⟩ := I.covers hc p hp hsame
      obtain ⟨u, hu, hiron⟩ := hforth r hr
      exact ⟨patch render u, List.mem_map_of_mem hu, BitmapData.toIron_covers hiron hin⟩

theorem current_convert (hs : Current I graphicsTx s) (hnone : s.ironUpdates = []) {f : Frame}
    (hok : s.lossless conv (.frame f) = true) : Current I graphicsTx (s.convert conv f) := by
  rcases hc : conv.convertFrame s.converter f with ⟨e | rectangles, converter⟩
  · -- the last converted frame is still the one before
    rw [convert, hc]
    refine ⟨fun p => ?_, hs.target, hs.direct⟩
    rw [I.failed hc]
    exact hs.reference p
  · have hisOk : (convertToIronFormat rectangles).isOk = true := by
      rw [lossless, hc] at hok
      exact hok
    rcases hus : convertToIronFormat rectangles with e | us
    · rw [hus] at hisOk
      cases hisOk
    have hagree := hs.agree_convert hc hus
    have hreference : ∀ p, I.reference converter p = picture f p :=
      fun p => congrFun (I.converted hc) p
    rw [convert, hc]
    dsimp only
    split_ifs with hempty
    · -- nothing to send: the client will have the frame anyway
      obtain rfl := List.isEmpty_iff.mp hempty
      obtain rfl : [] = us := Except.ok.inj hus
      exact ⟨hreference, fun g hg => Option.some.inj hg ▸ hagree, hs.direct⟩
    · rw [hus]
      refine ⟨hreference, fun g hg => Option.some.inj hg ▸ ?_, hs.direct⟩
      have htarget : BitmapPath.target render
          { s with converter, lastFrame := some f, ironUpdates := us }
            = paintAll (us.map (patch render)) (s.target render) := by
        rw [BitmapPath.target, BitmapPath.target, ← paintAll_append, ← List.map_append]
        simp [pending, hnone]
      exact htarget ▸ hagree

theorem current_step {e : BitmapEvent Frame} (hs : Current I graphicsTx s)
    (h : Moves conv render graphicsTx s e t) (hok : s.lossless conv e = true) :
    Current I graphicsTx t := by
  cases h with
  | frame f hnone => exact current_convert hs hnone hok
  | queued htx hnext hroom =>
      refine hs.of_pending rfl rfl rfl ?_ fun h => absurd htx (by simp [h])
      simp [pending, hnext]
  | dropped htx hnext hfull => exact absurd (of_decide_eq_true hok) hfull
  | sent htx hnext =>
      -- the update channel comes before the queue, which is empty
      obtain ⟨hqueue, hdrain⟩ := hs.direct htx
      refine hs.of_pending rfl rfl rfl ?_ hs.direct
      simp [pending, hnext, hqueue, hdrain, DrainTask.held]
  | received hqueue hdrain =>
      refine hs.of_pending rfl rfl rfl ?_ fun h => ?_
      · simp [pending, hqueue, hdrain, DrainTask.held]
      · rw [(hs.direct h).1] at hqueue
        cases hqueue
  | coalesced hqueue hdrain =>
      refine hs.of_pending rfl rfl rfl ?_ fun h => ?_
      · simp [pending, hqueue, hdrain, DrainTask.held]
      · rw [(hs.direct h).2] at hdrain
        cases hdrain
  | stopped hdrain =>
      refine hs.of_pending rfl rfl rfl ?_ fun h => ?_
      · simp [pending, hdrain, DrainTask.held]
      · rw [(hs.direct h).2] at hdrain
        cases hdrain
  | @forwarded latest passed hdrain =>
      rw [lossless, hdrain] at hok
      -- the frame that is kept paints over those that were passed over
      have hcover : ∀ v ∈ passed.map (patch render), ∀ p, v.area p = true →
          (patch render latest).area p = true := by
        intro v hv p hp
        obtain ⟨u, hu, rfl⟩ := List.mem_map.mp hv
        exact (of_decide_eq_true (List.all_eq_true.mp hok u hu)).covers hp
      have hkeep := Patch.paint_paintAll hcover (paintAll (s.updates.map (patch render)) s.client)
      refine hs.of_same rfl rfl ?_ fun h => ?_
      · simp [BitmapPath.target, pending, hdrain, DrainTask.held, hkeep]
      · rw [(hs.direct h).2] at hdrain
        cases hdrain
  | delivered hupdates =>
      -- the first of the pending rectangles is painted
      refine hs.of_same rfl rfl ?_ hs.direct
      simp [BitmapPath.target, pending, hupdates]

theorem current_init (I : Incremental conv render picture) (graphicsTx : Bool)
    (shown : ℕ × ℕ → Option Pixel) : Current I graphicsTx (init conv shown) where
  reference := I.new
  target f h := by cases h
  direct _ := ⟨rfl, rfl⟩

end BitmapPath

/-- A frame of one pixel above another. -/
def column (f : UInt8 × UInt8) (p : ℕ × ℕ) : Option UInt8 :=
  if p = (0, 0) then some f.1 else if p = (0, 1) then some f.2 else none

/-- One pixel of a screen that is one pixel wide. -/
def columnRect (y : ℕ) (pixel : UInt8) : BitmapData where
  rectangle := { left := 0, top := y, right := 1, bottom := y + 1 }
  format := .bgrX32
  data := [pixel, 0, 0, 0]

/-- A converter that gives one rectangle for each pixel that changed. -/
def columnConverter : BitmapConverter (Option (UInt8 × UInt8)) (UInt8 × UInt8) where
  new := none
  convertFrame previous f :=
    (.ok ((if previous.map Prod.fst = some f.1 then [] else [columnRect 0 f.1]) ++
      if previous.map Prod.snd = some f.2 then [] else [columnRect 1 f.2]), some f)

/-- The first byte of a pixel. -/
def renderBlue (u : IronBitmapUpdate) (x y : ℕ) : UInt8 :=
  u.data.getD (y * u.stride + 4 * x) 0

theorem columnRect_toIron (y : ℕ) (pixel : UInt8) :
    (columnRect y pixel).toIron = .ok
      { x := 0, y, width := 1, height := 1, format := .bgrX32, data := [pixel, 0, 0, 0]
        stride := 4 } := by
  simp [BitmapData.toIron, columnRect, RdpPixelFormat.toIron, IronPixelFormat.bytesPerPixel]

/-- A rectangle of the converter covers one pixel and carries it. -/
theorem columnRect_pixels {y : ℕ} {pixel : UInt8} {u : IronBitmapUpdate}
    (hu : (columnRect y pixel).toIron = .ok u) {p : ℕ × ℕ} (hp : u.covers p = true) :
    p = (0, y) ∧ renderBlue u (p.1 - u.x) (p.2 - u.y) = pixel := by
  rw [columnRect_toIron] at hu
  obtain rfl := Except.ok.inj hu
  obtain ⟨x, y'⟩ := p
  obtain ⟨-, hx, hy, hy'⟩ := of_decide_eq_true hp
  obtain rfl : x = 0 := by
    dsimp only at hx
    omega
  obtain rfl : y' = y := by
    dsimp only at hy hy'
    omega
  simp [renderBlue]

theorem columnRect_contains (y : ℕ) (pixel : UInt8) :
    (columnRect y pixel).rectangle.contains (0, y) :=
  ⟨le_rfl, Nat.zero_lt_one, le_rfl, Nat.lt_succ_self y⟩

/-- A converter that is incremental: it gives the pixels that are new. -/
def columnIncremental : Incremental columnConverter renderBlue column where
  reference previous p := previous.bind (column · p)
  -- a fresh converter holds no frame, so it knows no pixel
  new _ := rfl
  failed h := by cases h
  converted h := by
    obtain ⟨-, rfl⟩ := Prod.mk.inj h
    rfl
  covers {c f rectangles c'} h p hp hne := by
    obtain ⟨hr, -⟩ := Prod.mk.inj h
    obtain rfl := Except.ok.inj hr
    -- a changed pixel is in the rectangle of its row
    by_cases h₀ : p = (0, 0)
    · subst h₀
      have hchanged : ¬ c.map Prod.fst = some f.1 := by
        intro hsame
        obtain ⟨g, rfl, hg⟩ := Option.map_eq_some_iff.mp hsame
        exact hne (congrArg some hg.symm)
      rw [if_neg hchanged]
      exact ⟨columnRect 0 f.1, List.mem_append_left _ List.mem_cons_self, columnRect_contains 0 _⟩
    · by_cases h₁ : p = (0, 1)
      · subst h₁
        have hchanged : ¬ c.map Prod.snd = some f.2 := by
          intro hsame
          obtain ⟨g, rfl, hg⟩ := Option.map_eq_some_iff.mp hsame
          exact hne (congrArg some hg.symm)
        rw [if_neg hchanged]
        exact ⟨columnRect 1 f.2, List.mem_append_right _ List.mem_cons_self,
          columnRect_contains 1 _⟩
      · rw [column, if_neg h₀, if_neg h₁] at hp
        cases hp
  pixels {c f rectangles c'} h r hr u hu p hp := by
    obtain ⟨heq, -⟩ := Prod.mk.inj h
    obtain rfl := Except.ok.inj heq
    -- a rectangle carries the pixel of its row
    have hmem : r = columnRect 0 f.1 ∨ r = columnRect 1 f.2 := by
      rcases List.mem_append.mp hr with hr | hr
      · exact Or.inl (by split_ifs at hr <;> simp_all)
      · exact Or.inr (by split_ifs at hr <;> simp_all)
    rcases hmem with rfl | rfl
    · obtain ⟨rfl, hpixel⟩ := columnRect_pixels hu hp
      exact congrArg some hpixel
    · obtain ⟨rfl, hpixel⟩ := columnRect_pixels hu hp
      exact congrArg some hpixel

/-- Two pixels change, and the drain task is as fast as the pipeline. -/
def keepingUp : List (BitmapEvent (UInt8 × UInt8)) :=
  [.frame (7, 9), .trySend, .recv, .tryRecvEmpty, .send, .trySend, .deliver, .recv,
    .tryRecvEmpty, .send, .deliver]

/-- Two pixels change, and the drain task finds both rectangles in the queue. -/
def fallingBehind : List (BitmapEvent (UInt8 × UInt8)) :=
  [.frame (7, 9), .trySend, .trySend, .recv, .tryRecv, .tryRecvEmpty, .send, .deliver]

/-- What is seen of a state. -/
def columnView (s : BitmapPath (Option (UInt8 × UInt8)) (UInt8 × UInt8) UInt8) :=
  (s.client (0, 0), s.lastFrame, decide s.Drained)

end LamcoRdp
