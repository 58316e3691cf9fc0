/-
LamcoRdp/Egfx/HardwareEncoder.lean

What the VA-API and NVENC encoders have in common (`egfx/hardware/mod.rs`,
`egfx/hardware/error.rs`, and the head of their `encode_bgra`): the quality
presets, the errors of an encode, the checks on a frame, and the rule by which a
picture is requested as IDR.

An IDR is requested at the first picture of a GOP, counted in pictures
delivered, and as long as a force stands.  A force stands until a picture is
delivered, so that no failed encode loses it (`GopClock.isIdr_after`).
-/
import LamcoRdp.Egfx.Encoder
import LamcoRdp.Lib.Runs

namespace LamcoRdp

open Runs

/-- `QualityPreset`. -/
inductive QualityPreset
  | speed
  | balanced
  | quality
  deriving DecidableEq, Repr

/-- `gop_size`. -/
def QualityPreset.gopSize : QualityPreset → ℕ
  | .speed => 60
  | .balanced => 30
  | .quality => 15

/-- The errors an encode may end with. -/
inductive HardwareEncoderError
  | invalidDimensions (width height : ℕ) (reason : String)
  | encodeFailed (reason : String)
  deriving DecidableEq, Repr

/-- The arguments of `encode_bgra`. -/
structure HardwareCall where
  bgraData : List UInt8
  width : ℕ
  height : ℕ
  timestampMs : ℕ
  deriving DecidableEq, Repr

/-- The checks on a frame, for an encoder of the given size. -/
def HardwareCall.reject (c : HardwareCall) (width height : ℕ) : Option HardwareEncoderError :=
  if c.width ≠ width ∨ c.height ≠ height then
    some (.invalidDimensions c.width c.height
      s!"resolution mismatch: encoder configured for {width}x{height}")
  else
    let expectedSize := wrapU32 (c.width * c.height * 4)
    let len := c.bgraData.length
    if len < expectedSize then
      some (.invalidDimensions c.width c.height
        s!"buffer too small: {len} < {expectedSize} bytes")
    else none

/-- One call on an encoder, with the device's answer to an `encode_bgra`. -/
inductive HardwareOp (A : Type)
  | encodeBgra (c : HardwareCall) (answer : A)
  | forceKeyframe
  deriving DecidableEq, Repr

/-! ### When an IDR is requested -/

/-- `frame_count` and `force_idr` of an encoder. -/
structure GopClock where
  frameCount : ℕ
  forceIdr : Bool
  deriving DecidableEq, Repr

namespace GopClock

/-- The first picture is always an IDR. -/
def new : GopClock := ⟨0, true⟩

/-- `force_keyframe`. -/
def forceKeyframe (clock : GopClock) : GopClock := { clock with forceIdr := true }

/-- The end of an encode that succeeded. -/
def delivered (clock : GopClock) : GopClock := ⟨clock.frameCount + 1, false⟩

/-- `is_idr_frame`. -/
def isIdr (clock : GopClock) (gopSize : ℕ) : Bool :=
  clock.forceIdr || clock.frameCount % gopSize == 0

/-- What a call does to the clock. -/
inductive Event
  | force
  | delivery
  | failure
  deriving DecidableEq, Repr

/-- The clock after an event. -/
def step (clock : GopClock) : Event → GopClock
  | .force => clock.forceKeyframe
  | .delivery => clock.delivered
  | .failure => clock

/-- The clock after some calls. -/
def afterEvents (events : List Event) : GopClock := events.foldl step new

theorem afterEvents_snoc (events : List Event) (e : Event) :
    afterEvents (events ++ [e]) = (afterEvents events).step e := by
  rw [afterEvents, List.foldl_append]
  rfl

/-- A force stands if none was answered by a picture yet; the encoder starts with one. -/
def ForceStands (events : List Event) : Bool := Since (· == .force) (· == .delivery) events

theorem forceStands_snoc (events : List Event) (e : Event) :
    ForceStands (events ++ [e]) = (!(e == .delivery) && ((e == .force) || ForceStands events)) :=
  since_snoc _ _ events e

theorem afterEvents_eq (events : List Event) :
    afterEvents events = ⟨events.count .delivery, ForceStands events⟩ := by
  induction events using List.reverseRecOn with
  | nil => rfl
  | append_singleton events e ih =>
      rw [afterEvents_snoc, ih, forceStands_snoc, List.count_append]
      cases e <;> rfl

/-- An IDR is requested at the first picture of a GOP and as long as a force stands. -/
theorem isIdr_after (events : List Event) (gopSize : ℕ) :
    (afterEvents events).isIdr gopSize = true ↔
      events.count .delivery % gopSize = 0 ∨ ForceStands events = true := by
  rw [afterEvents_eq, isIdr, Bool.or_eq_true, beq_iff_eq]
  exact Or.comm

end GopClock

end LamcoRdp
