/-
LamcoRdp/Server/EgfxSender.lean

Sending frames through the graphics channel (`server/egfx_sender.rs`).

A send first reads the negotiated state the channel callbacks write, then takes
the graphics server's lock, queues the frame and passes the messages on.  What
the graphics server and the event channel answer to one send is a `Transport`;
the shared state is the one seen when the send reads it, which may differ from
the one seen before the encode.
-/
import LamcoRdp.Egfx.Handler
import LamcoRdp.Server.FrameOps

namespace LamcoRdp

open Buffer

/-- `SendError`. -/
inductive SendError
  | notReady
  | avc420NotSupported
  | avc444NotSupported
  | noSurface
  | backpressure
  | channelClosed
  | encodingFailed (reason : String)
  | lockFailed
  deriving DecidableEq, Repr

/-- The answers of the graphics server and the event channel to one send. -/
structure Transport where
  /-- `should_backpressure`, asked again by `send_planar_frame` -/
  backpressured : Bool
  /-- the error of the Planar bitmap encoder -/
  planarError : Option String
  /-- the server's mutex is poisoned -/
  lockPoisoned : Bool
  channelId : Option ℕ
  /-- the id the server gives the frame, `none` when its queue refuses it -/
  frameId : Option ℕ
  /-- `drain_output` returned messages -/
  hasMessages : Bool
  /-- the error of `encode_dvc_messages` -/
  dvcError : Option String
  /-- the event channel has no receiver -/
  channelClosed : Bool
  deriving DecidableEq, Repr

namespace Transport

/-- Everything works, and the frame gets this id. -/
def accepting (frameId : ℕ) : Transport where
  backpressured := false
  planarError := none
  lockPoisoned := false
  channelId := some 0
  frameId := some frameId
  hasMessages := true
  dvcError := none
  channelClosed := false

/-- The part common to all sends: lock, queue, drain, encode, pass on. -/
def queue (t : Transport) : Except SendError ℕ :=
  if t.lockPoisoned then .error .lockFailed
  else
    match t.channelId, t.frameId with
    | none, _ => .error .notReady
    | some _, none => .error .backpressure
    | some _, some frameId =>
        if !t.hasMessages then .ok frameId
        else
          match t.dvcError with
          | some reason => .error (.encodingFailed reason)
          | none => if t.channelClosed then .error .channelClosed else .ok frameId

end Transport

/-- `send_frame_with_regions`. -/
def sendFrameWithRegions (shared : SharedHandlerState) (t : Transport) : Except SendError ℕ :=
  if !shared.isReady then .error .notReady
  else if !shared.clientSupportsAvc420 then .error .avc420NotSupported
  else if !shared.hasSurface then .error .noSurface
  else t.queue

/-- `send_avc444_frame_with_regions`. -/
def sendAvc444FrameWithRegions (shared : SharedHandlerState) (t : Transport) :
    Except SendError ℕ :=
  if !shared.isReady then .error .notReady
  else if !shared.isAvc444Enabled then .error .avc444NotSupported
  else if !shared.hasSurface then .error .noSurface
  else t.queue

/-- `send_uncompressed_frame`. -/
def sendUncompressedFrame (shared : SharedHandlerState) (t : Transport) : Except SendError ℕ :=
  if !shared.isReady then .error .notReady
  else if !shared.hasSurface then .error .noSurface
  else t.queue

/-- The send for an encoded frame. -/
def EncodedVideoFrame.send (f : EncodedVideoFrame) (shared : SharedHandlerState)
    (t : Transport) : Except SendError ℕ :=
  match f with
  | .single _ => sendFrameWithRegions shared t
  | .dual _ _ => sendAvc444FrameWithRegions shared t

/-! ### Planar -/

/-- `BitmapUpdate`: a rectangle and its pixels. -/
structure BitmapUpdate where
  x : ℕ
  y : ℕ
  width : ℕ
  height : ℕ
  data : List UInt8
  stride : ℕ
  deriving DecidableEq, Repr

/-- The pixels `send_planar_frame` feeds to the bitmap encoder: of each chunk of
`stride` bytes the first `width * 4`; `none` where a chunk is too short. -/
def BitmapUpdate.planarPixels (bitmap : BitmapUpdate) : Option (List UInt8) :=
  (List.range (min bitmap.height (DamageDetector.divCeil bitmap.data.length bitmap.stride))).foldlM
    (fun pixels k =>
      let row := slice bitmap.data (k * bitmap.stride) bitmap.stride
      if bitmap.width * 4 ≤ row.length then some (pixels ++ row.take (bitmap.width * 4))
      else none) []

/-- How `send_planar_frame` ends: a panic, an error, or the id of the frame and
the pixels handed over. -/
inductive PlanarResult
  | panicked
  | err (e : SendError)
  | ok (frameId : ℕ) (pixels : List UInt8)
  deriving DecidableEq, Repr

/-- `send_planar_frame`. -/
def sendPlanarFrame (shared : SharedHandlerState) (t : Transport) (bitmap : BitmapUpdate) :
    PlanarResult :=
  if !shared.isReady then .err .notReady
  else if !shared.hasSurface then .err .noSurface
  else if t.backpressured then .err .backpressure
  else
    match bitmap.planarPixels with
    | none => .panicked
    | some pixels =>
        match t.planarError with
        | some reason => .err (.encodingFailed s!"Planar encode: {reason}")
        | none =>
            if bitmap.x + bitmap.width ≥ 2 ^ 16 then
              .err (.encodingFailed "Planar destination right edge overflow")
            else if bitmap.y + bitmap.height ≥ 2 ^ 16 then
              .err (.encodingFailed "Planar destination bottom edge overflow")
            else
              match t.queue with
              | .error e => .err e
              | .ok frameId => .ok frameId pixels

/-- A tight bitmap is handed over whole. -/
theorem BitmapUpdate.planarPixels_of_tight (bitmap : BitmapUpdate) (hw : 0 < bitmap.width)
    (hstride : bitmap.stride = bitmap.width * 4)
    (hlen : bitmap.data.length = bitmap.width * bitmap.height * 4) :
    bitmap.planarPixels = some bitmap.data := by
  have hlen' : bitmap.data.length = bitmap.height * bitmap.stride := by
    rw [hlen, hstride]
    ring
  -- the data are whole rows, `height` of them
  have hchunks : min bitmap.height (DamageDetector.divCeil bitmap.data.length bitmap.stride)
      = bitmap.height := by
    have hpos : 0 < bitmap.stride := by omega
    unfold DamageDetector.divCeil
    rw [hlen', Nat.add_sub_assoc hpos, Nat.add_comm (bitmap.height * bitmap.stride),
      Nat.add_mul_div_right _ _ hpos, Nat.div_eq_of_lt (by omega), Nat.zero_add, Nat.min_self]
  unfold planarPixels
  rw [hchunks, ← hstride]
  -- the loop has copied the rows before `k`
  obtain ⟨pixels, hloop, hpixels⟩ := foldlM_range_inv
    (fun k pixels => pixels = bitmap.data.take (k * bitmap.stride)) (f := fun pixels k =>
      let row := slice bitmap.data (k * bitmap.stride) bitmap.stride
      if bitmap.stride ≤ row.length then some (pixels ++ row.take bitmap.stride) else none)
    (b := []) bitmap.height (by rw [Nat.zero_mul]; rfl) (by
      rintro k hk pixels rfl
      -- row `k` is inside the data
      have hrow : k * bitmap.stride + bitmap.stride ≤ bitmap.data.length :=
        hlen' ▸ RowMajor.rowEnd_le bitmap.stride hk
      have hslice := length_slice bitmap.data (k * bitmap.stride) bitmap.stride hrow
      refine ⟨_, if_pos (Nat.le_of_eq hslice.symm), ?_⟩
      rw [List.take_of_length_le (Nat.le_of_eq hslice), slice, Nat.succ_mul, List.take_add])
  rw [hloop, hpixels, ← hlen', List.take_length]

/-- Of a tight bitmap the send fails, or it has handed over all the pixels. -/
theorem sendPlanarFrame_of_tight (shared : SharedHandlerState) (t : Transport)
    (bitmap : BitmapUpdate) (hw : 0 < bitmap.width) (hstride : bitmap.stride = bitmap.width * 4)
    (hlen : bitmap.data.length = bitmap.width * bitmap.height * 4) :
    (∃ e, sendPlanarFrame shared t bitmap = .err e) ∨
      ∃ frameId, sendPlanarFrame shared t bitmap = .ok frameId bitmap.data := by
  unfold sendPlanarFrame
  rw [bitmap.planarPixels_of_tight hw hstride hlen]
  split
  · exact Or.inl ⟨_, rfl⟩
  split
  · exact Or.inl ⟨_, rfl⟩
  split
  · exact Or.inl ⟨_, rfl⟩
  rcases t.planarError with - | reason
  · dsimp only
    split
    · exact Or.inl ⟨_, rfl⟩
    split
    · exact Or.inl ⟨_, rfl⟩
    rcases t.queue with e | frameId
    · exact Or.inl ⟨e, rfl⟩
    · exact Or.inr ⟨frameId, rfl⟩
  · exact Or.inl ⟨_, rfl⟩

end LamcoRdp
