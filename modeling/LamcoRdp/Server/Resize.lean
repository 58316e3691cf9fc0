/-
LamcoRdp/Server/Resize.lean

Client-initiated resize: `request_layout` and the display loop.

A layout that passes the gates is sent to the loop through a channel of four
places, without waiting.  At the top of every iteration the loop empties the
channel and acts on the last request it took out; while it does so, which can
take seconds, requests pile up.  A request that finds no room is dropped, and it
is the newest: the last one wins exactly if the last one found room
(`last_resize_wins_iff`).
-/
import LamcoRdp.Lib.Mailbox
import LamcoRdp.Lib.Runs
import Mathlib.Algebra.Group.Nat.Defs

namespace LamcoRdp

open Runs

/-! ### Gates -/

/-- A monitor of the layout PDU: `is_primary()` and `dimensions()`. -/
structure MonitorLayoutEntry where
  isPrimary : Bool
  width : ℕ
  height : ℕ
  deriving DecidableEq, Repr

/-- `[display]`, what the gates read. -/
structure ResizeConfig where
  allowResize : Bool
  allowedResolutions : List String
  deriving DecidableEq, Repr

/-- `ResizeRequest`. -/
structure ResizeRequest where
  width : ℕ
  height : ℕ
  deriving DecidableEq, Repr

/-- `format!("{new_w}x{new_h}")`. -/
def ResizeRequest.target (r : ResizeRequest) : String :=
  toString r.width ++ "x" ++ toString r.height

/-- `MaxNumMonitors * FactorA * FactorB`. -/
def maxArea : ℕ := 3840 * 2400

section Gates

-- `MonitorLayoutEntry::adjust_display_size` of the protocol library
variable (adjustDisplaySize : ℕ → ℕ → ℕ × ℕ)

/-- The request that `request_layout` sends, if the layout passes the gates.
`size` is the current size, unless it is being written.  The sixth gate, the
debounce, stops nothing. -/
def acceptedRequest (config : ResizeConfig) (size : Option (ℕ × ℕ))
    (monitors : List MonitorLayoutEntry) : Option ResizeRequest := do
  let monitor ← (monitors.find? (·.isPrimary)).or monitors.head?
  if config.allowResize = false then none
  let (w, h) := adjustDisplaySize monitor.width monitor.height
  if w * h > maxArea then none
  let request : ResizeRequest := ⟨w % 2 ^ 16, h % 2 ^ 16⟩
  if config.allowedResolutions ≠ [] ∧ request.target ∉ config.allowedResolutions then none
  if size = some (request.width, request.height) then none
  return request

end Gates

/-! ### The system -/

/-- `sync_channel(4)`. -/
def resizeCapacity : ℕ := 4

/-- The display handler, the channel of requests and the loop that empties it. -/
structure ResizeSystem where
  /-- `LamcoDisplayHandler::size` -/
  size : ℕ × ℕ
  mailbox : Mailbox ResizeRequest
  /-- the loop is emptying the channel -/
  draining : Bool
  deriving DecidableEq, Repr

/-- A layout of the client, or a step of the loop. -/
inductive ResizeEvent
  /-- `request_layout`, with the answer of `try_read` on the size -/
  | requestLayout (monitors : List MonitorLayoutEntry) (sizeReadable : Bool)
  /-- the loop goes one step on: it takes a request out, finds the channel empty
  and resizes, or comes back to the top -/
  | pipeline
  /-- `update_size`, when a frame of the new stream arrives -/
  | updateSize (width height : ℕ)
  deriving DecidableEq, Repr

namespace ResizeSystem

/-- No request has come in. -/
def init (size : ℕ × ℕ) : ResizeSystem := ⟨size, .empty, false⟩

variable (adjustDisplaySize : ℕ → ℕ → ℕ × ℕ) (config : ResizeConfig)

/-- What a call of `request_layout` sends in this state. -/
def accepts (s : ResizeSystem) (monitors : List MonitorLayoutEntry) (sizeReadable : Bool) :
    Option ResizeRequest :=
  acceptedRequest adjustDisplaySize config (if sizeReadable then some s.size else none) monitors

/-- The system after an event. -/
def step (s : ResizeSystem) : ResizeEvent → ResizeSystem
  | .requestLayout monitors sizeReadable =>
      match s.accepts adjustDisplaySize config monitors sizeReadable with
      | some request => { s with mailbox := s.mailbox.send resizeCapacity request }
      | none => s
  | .pipeline =>
      if s.draining then
        { s with mailbox := s.mailbox.receive, draining := s.mailbox.queue ≠ [] }
      else { s with draining := true }
  | .updateSize width height => { s with size := (width, height) }

/-- The event is no call that passes the gates. -/
def Quiet (s : ResizeSystem) : ResizeEvent → Prop
  | .requestLayout monitors sizeReadable =>
      s.accepts adjustDisplaySize config monitors sizeReadable = none
  | _ => True

variable {adjustDisplaySize config}

/-- Without a new request the newest one stays. -/
theorem newest_step {s : ResizeSystem} {e : ResizeEvent} (h : s.Quiet adjustDisplaySize config e) :
    (s.step adjustDisplaySize config e).mailbox.newest = s.mailbox.newest := by
  cases e with
  | requestLayout monitors sizeReadable =>
      have hnone : s.accepts adjustDisplaySize config monitors sizeReadable = none := h
      simp only [step, hnone]
  | pipeline =>
      cases hd : s.draining with
      | true => simp only [step, hd, if_true, Mailbox.newest_receive]
      | false => simp [step, hd]
  | updateSize width height => rfl

/-- Nor does it change over a run without new requests. -/
theorem newest_run {s : ResizeSystem} {es : List ResizeEvent}
    (h : ∀ n e, es[n]? = some e →
      (after (step adjustDisplaySize config) s es n).Quiet adjustDisplaySize config e) :
    (es.foldl (step adjustDisplaySize config) s).mailbox.newest = s.mailbox.newest := by
  induction es generalizing s with
  | nil => rfl
  | cons e es ih =>
      have hfirst : s.Quiet adjustDisplaySize config e := h 0 e rfl
      rw [List.foldl_cons, ih fun n e' he' => h (n + 1) e' he', newest_step hfirst]

/-- Left alone, the loop empties the channel. -/
theorem pipeline_drains (s : ResizeSystem) :
    ∃ n, ((List.replicate n ResizeEvent.pipeline).foldl
      (step adjustDisplaySize config) s).mailbox.Drained := by
  -- by the number of requests in the channel, the loop being at it
  suffices h : ∀ (k : ℕ) (s : ResizeSystem), s.draining = true → s.mailbox.queue.length = k →
      ∃ n, ((List.replicate n ResizeEvent.pipeline).foldl
        (step adjustDisplaySize config) s).mailbox.Drained by
    obtain ⟨n, hn⟩ := h _ { s with draining := true } rfl rfl
    cases hd : s.draining with
    | true => exact h _ s hd rfl
    | false =>
        refine ⟨n + 1, ?_⟩
        have hstep : s.step adjustDisplaySize config .pipeline = { s with draining := true } := by
          simp [step, hd]
        rwa [List.replicate_succ, List.foldl_cons, hstep]
  intro k
  induction k with
  | zero =>
      intro s hd hlen
      refine ⟨1, ?_⟩
      have hnil := List.length_eq_zero_iff.mp hlen
      simp [step, hd, Mailbox.receive, hnil, Mailbox.Drained]
  | succ k ih =>
      intro s hd hlen
      obtain ⟨r, queue, hqueue⟩ := List.exists_cons_of_length_eq_add_one hlen
      obtain ⟨n, hn⟩ := ih (s.step adjustDisplaySize config .pipeline)
        (by simp [step, hd, hqueue]) (by simpa [step, hd, Mailbox.receive, hqueue] using hlen)
      refine ⟨n + 1, ?_⟩
      rwa [List.replicate_succ, List.foldl_cons]

variable (adjustDisplaySize config) in
/-- The state after these events, from the start of the pipeline. -/
def run (size : ℕ × ℕ) (es : List ResizeEvent) : ResizeSystem :=
  es.foldl (step adjustDisplaySize config) (.init size)

theorem run_append (size : ℕ × ℕ) (es es' : List ResizeEvent) :
    run adjustDisplaySize config size (es ++ es')
      = es'.foldl (step adjustDisplaySize config) (run adjustDisplaySize config size es) :=
  List.foldl_append

/-- **The last request wins** exactly if it found room in the channel, or asked
for what is last in it: in every run, once the loop has emptied the channel after
the last accepted call. -/
theorem last_resize_wins_iff (size : ℕ × ℕ) (es es' : List ResizeEvent)
    (monitors : List MonitorLayoutEntry) (sizeReadable : Bool) (request : ResizeRequest)
    (haccepts : (run adjustDisplaySize config size es).accepts adjustDisplaySize config monitors
      sizeReadable = some request)
    (hquiet : ∀ n e, es'[n]? = some e → (after (step adjustDisplaySize config)
      (run adjustDisplaySize config size (es ++ [.requestLayout monitors sizeReadable])) es' n).Quiet
        adjustDisplaySize config e)
    (hdrained : (run adjustDisplaySize config size
      (es ++ .requestLayout monitors sizeReadable :: es')).mailbox.Drained) :
    (run adjustDisplaySize config size
        (es ++ .requestLayout monitors sizeReadable :: es')).mailbox.done.getLast? = some request ↔
      (run adjustDisplaySize config size es).mailbox.queue.length < resizeCapacity ∨
        (run adjustDisplaySize config size es).mailbox.queue.getLast? = some request := by
  have hcall : run adjustDisplaySize config size (es ++ [.requestLayout monitors sizeReadable])
      = { run adjustDisplaySize config size es with
          mailbox := (run adjustDisplaySize config size es).mailbox.send resizeCapacity request } := by
    rw [run_append]
    simp only [List.foldl_cons, List.foldl_nil, step, haccepts]
  have hrun : run adjustDisplaySize config size (es ++ .requestLayout monitors sizeReadable :: es')
      = es'.foldl (step adjustDisplaySize config)
          (run adjustDisplaySize config size (es ++ [.requestLayout monitors sizeReadable])) := by
    rw [run_append, run_append]
    rfl
  rw [← Mailbox.newest_of_drained hdrained, hrun, newest_run hquiet, hcall]
  exact Mailbox.newest_send_iff (by decide) _ request

/-- Even widths, and sides between 200 and 8192. -/
def evenAndClamped (w h : ℕ) : ℕ × ℕ :=
  (max 200 (min 8192 w) / 2 * 2, max 200 (min 8192 h))

/-- A layout with one monitor. -/
def monitorOf (width height : ℕ) : List MonitorLayoutEntry := [⟨true, width, height⟩]

/-- The window is dragged while the loop is busy: five sizes, and the loop then
comes to them. -/
def dragged : List ResizeEvent :=
  [.requestLayout (monitorOf 800 600) true, .requestLayout (monitorOf 802 600) true,
    .requestLayout (monitorOf 804 600) true, .requestLayout (monitorOf 806 600) true]

/-- Two requests with room for both: the second wins. -/
theorem last_resize_wins_iff_room :
    (run evenAndClamped ⟨true, []⟩ (1024, 768)
      (dragged.take 1 ++ .requestLayout (monitorOf 802 600) true ::
        List.replicate 4 .pipeline)).mailbox.done.getLast? = some ⟨802, 600⟩ := by
  refine (last_resize_wins_iff (1024, 768) (dragged.take 1) (List.replicate 4 .pipeline)
    (monitorOf 802 600) true ⟨802, 600⟩ (by decide) ?_ (by decide)).mpr (Or.inl (by decide))
  intro n e he
  obtain rfl := List.eq_of_mem_replicate (List.mem_of_getElem? he)
  trivial

/-- Five requests: the loop acts on the fourth, and never hears of the fifth. -/
theorem fifth_resize_is_lost :
    let s := run evenAndClamped ⟨true, []⟩ (1024, 768) dragged
    let t := run evenAndClamped ⟨true, []⟩ (1024, 768)
      (dragged ++ .requestLayout (monitorOf 1600 900) true :: List.replicate 6 .pipeline)
    s.accepts evenAndClamped ⟨true, []⟩ (monitorOf 1600 900) true = some ⟨1600, 900⟩ ∧
      t.mailbox.Drained ∧ t.mailbox.done = [⟨806, 600⟩] ∧
      t.mailbox.done.getLast? ≠ some ⟨1600, 900⟩ := by
  refine ⟨?_, ?_, ?_, ?_⟩ <;> decide

end ResizeSystem

end LamcoRdp
