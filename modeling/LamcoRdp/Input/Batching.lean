/-
LamcoRdp/Input/Batching.lean

The input batching task.

What the multiplexer's queue delivers is sorted into two batches, and each tick of the
task flushes first the keys and then the mouse.  The keyboard's handler sees its events in
their order (`keyboard_run`).  Between the devices the order is that of the arrivals as
long as no key comes in behind a button or a scroll of the same window, and only then
(`in_order_iff`).
-/
import LamcoRdp.Input.MouseBatch
import LamcoRdp.Input.Keyboard
import LamcoRdp.Lib.Histories

namespace LamcoRdp

/-! ### The code -/

/-- An event of the queue. -/
inductive InputEvent
  | keyboard (event : KeyboardEvent)
  | mouse (event : MouseEvent)
deriving DecidableEq

/-- The variables of the task; `injected` are the events that have been given to their
handlers. -/
structure BatchingTask (K : Type) where
  keyboardBatch : List KeyboardEvent
  mouseBatch : List MouseEvent
  keyboard : KeyboardTask K
  injected : List InputEvent

/-- A branch of the `select!`.  Shutdown ends the run. -/
inductive BatchingStep
  | recv (event : InputEvent)
  | tick

namespace BatchingTask

variable {K : Type}

/-- Both batches are empty. -/
def init (keyboard : K) : BatchingTask K := ⟨[], [], .init keyboard, []⟩

/-- An event is put into its batch. -/
def push (s : BatchingTask K) : InputEvent → BatchingTask K
  | .keyboard kbd => { s with keyboardBatch := s.keyboardBatch ++ [kbd] }
  | .mouse mouse => { s with mouseBatch := s.mouseBatch ++ [mouse] }

variable (env : KeyboardEnv K)

/-- A tick: the keyboard batch is handled, then the mouse batch, coalesced. -/
def flush (s : BatchingTask K) : BatchingTask K where
  keyboardBatch := []
  mouseBatch := []
  keyboard := env.handleAll s.keyboard s.keyboardBatch
  injected := s.injected ++ s.keyboardBatch.map .keyboard
    ++ (coalesceMouseBatch s.mouseBatch).map .mouse

/-- A step of the task. -/
def step (s : BatchingTask K) : BatchingStep → BatchingTask K
  | .recv event => s.push event
  | .tick => s.flush env

/-- The task after some steps. -/
def run (keyboard : K) (steps : List BatchingStep) : BatchingTask K :=
  steps.foldl (step env) (init keyboard)

end BatchingTask

/-! ### Arrivals -/

/-- What has arrived: in the windows that are over, and in the present one. -/
structure Arrivals where
  flushed : List InputEvent
  window : List InputEvent

/-- A tick closes the window. -/
def Arrivals.step (a : Arrivals) : BatchingStep → Arrivals
  | .recv event => { a with window := a.window ++ [event] }
  | .tick => ⟨a.flushed ++ a.window, []⟩

/-- The events of some steps. -/
def arrivals (steps : List BatchingStep) : Arrivals := steps.foldl Arrivals.step ⟨[], []⟩

/-- All that has come in. -/
def Arrivals.received (a : Arrivals) : List InputEvent := a.flushed ++ a.window

namespace InputEvent

/-- The keyboard event, if it is one. -/
def asKeyboard : InputEvent → Option KeyboardEvent
  | .keyboard event => some event
  | .mouse _ => none

/-- The mouse event, if it is one. -/
def asMouse : InputEvent → Option MouseEvent
  | .keyboard _ => none
  | .mouse event => some event

/-- A key goes down or up. -/
def isKey : InputEvent → Bool
  | .keyboard (.synchronize _) | .mouse _ => false
  | .keyboard _ => true

/-- A button or a scroll. -/
def isClick : InputEvent → Bool
  | .keyboard _ => false
  | .mouse event => !event.isMove

/-- The events whose order counts. -/
def counts (e : InputEvent) : Bool := e.isKey || e.isClick

end InputEvent

open InputEvent BatchingTask Histories

variable {K : Type} {env : KeyboardEnv K} {keyboard : K} {steps : List BatchingStep}

theorem run_snoc (step : BatchingStep) :
    run env keyboard (steps ++ [step]) = (run env keyboard steps).step env step :=
  List.foldl_concat ..

theorem arrivals_snoc (step : BatchingStep) :
    arrivals (steps ++ [step]) = (arrivals steps).step step :=
  List.foldl_concat ..

/-! ### Each device by itself -/

/-- The batches are the window, sorted. -/
theorem batches_run (steps : List BatchingStep) :
    (run env keyboard steps).keyboardBatch = (arrivals steps).window.filterMap asKeyboard ∧
      (run env keyboard steps).mouseBatch = (arrivals steps).window.filterMap asMouse := by
  induction steps using List.reverseRecOn with
  | nil => exact ⟨rfl, rfl⟩
  | append_singleton steps step ih =>
      obtain ⟨hkeyboard, hmouse⟩ := ih
      rw [run_snoc, arrivals_snoc]
      cases step with
      | recv event =>
          show (push _ event).keyboardBatch = (_ ++ [event]).filterMap asKeyboard ∧
            (push _ event).mouseBatch = (_ ++ [event]).filterMap asMouse
          rw [List.filterMap_append, List.filterMap_append, ← hkeyboard, ← hmouse]
          cases event with
          | keyboard kbd => exact ⟨rfl, (List.append_nil _).symm⟩
          | mouse mouse => exact ⟨(List.append_nil _).symm, rfl⟩
      | tick => exact ⟨rfl, rfl⟩

/-- The keyboard's handler sees its events in the order in which they arrived. -/
theorem keyboard_run (steps : List BatchingStep) : (run env keyboard steps).keyboard =
    env.handleAll (.init keyboard) ((arrivals steps).flushed.filterMap asKeyboard) := by
  induction steps using List.reverseRecOn with
  | nil => rfl
  | append_singleton steps step ih =>
      rw [run_snoc, arrivals_snoc]
      cases step with
      | recv event =>
          refine Eq.trans ?_ ih
          cases event with
          | keyboard kbd => rfl
          | mouse mouse => rfl
      | tick =>
          show env.handleAll (run env keyboard steps).keyboard
              (run env keyboard steps).keyboardBatch =
            env.handleAll _ (((arrivals steps).flushed ++ _).filterMap asKeyboard)
          rw [ih, (batches_run steps).1, List.filterMap_append, KeyboardEnv.handleAll_append]

/-! ### One tick -/

theorem injected_recv (event : InputEvent) :
    (run env keyboard (steps ++ [.recv event])).injected = (run env keyboard steps).injected := by
  rw [run_snoc]
  cases event with
  | keyboard kbd => rfl
  | mouse mouse => rfl

theorem filter_counts_keyboard (w : List InputEvent) :
    ((w.filterMap asKeyboard).map InputEvent.keyboard).filter counts = w.filter InputEvent.isKey := by
  induction w with
  | nil => rfl
  | cons e w ih =>
      cases e with
      | keyboard kbd =>
          have hcounts : (InputEvent.keyboard kbd).counts = (InputEvent.keyboard kbd).isKey :=
            Bool.or_false _
          show (InputEvent.keyboard kbd :: _).filter counts = _
          rw [List.filter_cons, List.filter_cons, ih, hcounts]
      | mouse mouse => exact ih

theorem filter_counts_map_mouse (events : List MouseEvent) :
    (events.map InputEvent.mouse).filter counts =
      (events.filter (!·.isMove)).map InputEvent.mouse :=
  List.filter_map

theorem filter_counts_mouse (w : List InputEvent) :
    ((w.filterMap asMouse).map InputEvent.mouse).filter counts = w.filter isClick := by
  induction w with
  | nil => rfl
  | cons e w ih =>
      cases e with
      | keyboard kbd => exact ih
      | mouse mouse =>
          show (InputEvent.mouse mouse :: _).filter counts = _
          rw [List.filter_cons, List.filter_cons, ih]
          rfl

/-- The keys of a window are flushed first, its buttons and scrolls after them. -/
theorem filter_counts_flush (steps : List BatchingStep) :
    (run env keyboard (steps ++ [.tick])).injected.filter counts =
      (run env keyboard steps).injected.filter counts ++
        ((arrivals steps).window.filter InputEvent.isKey ++
          (arrivals steps).window.filter isClick) := by
  obtain ⟨hkeyboard, hmouse⟩ : (run env keyboard steps).keyboardBatch = _ ∧
      (run env keyboard steps).mouseBatch = _ := batches_run steps
  rw [run_snoc]
  show ((run env keyboard steps).injected ++
    (run env keyboard steps).keyboardBatch.map InputEvent.keyboard ++
    (coalesceMouseBatch (run env keyboard steps).mouseBatch).map InputEvent.mouse).filter counts = _
  rw [List.filter_append, List.filter_append, hkeyboard, filter_counts_keyboard,
    filter_counts_map_mouse, filter_coalesceMouseBatch, ← filter_counts_map_mouse, hmouse,
    filter_counts_mouse, List.append_assoc]

/-! ### The order of two devices -/

/-- No key comes in behind a button or a scroll. -/
def KeysFirst (window : List InputEvent) : Prop :=
  window.Pairwise fun a b => ¬ (a.isClick = true ∧ b.isKey = true)

theorem isClick_of_isKey {e : InputEvent} (h : e.isKey = true) : e.isClick = false := by
  cases e with
  | keyboard kbd => rfl
  | mouse mouse => cases h

theorem length_filter_key_add_click (w : List InputEvent) :
    (w.filter InputEvent.isKey ++ w.filter isClick).length = (w.filter counts).length := by
  induction w with
  | nil => rfl
  | cons e w ih =>
      rw [List.length_append] at ih ⊢
      by_cases hkey : e.isKey = true
      · simp [counts, hkey, isClick_of_isKey hkey]
        omega
      · by_cases hclick : e.isClick = true
        · simp [counts, hkey, hclick]
          omega
        · simpa [counts, hkey, hclick] using ih

theorem filter_key_append_filter_click_eq_iff (w : List InputEvent) :
    w.filter InputEvent.isKey ++ w.filter isClick = w.filter counts ↔ KeysFirst w := by
  induction w with
  | nil => exact iff_of_true rfl List.Pairwise.nil
  | cons e w ih =>
      rw [KeysFirst, List.pairwise_cons, ← KeysFirst]
      by_cases hkey : e.isKey = true
      · have hclick : e.isClick = false := isClick_of_isKey hkey
        simp [counts, hkey, hclick, ← ih]
      · by_cases hclick : e.isClick = true
        · have hcounts : e.counts = true := by simp [counts, hclick]
          rw [List.filter_cons_of_neg hkey, List.filter_cons_of_pos hclick,
            List.filter_cons_of_pos hcounts]
          constructor
          · intro h
            -- a key of the rest would stand in front of the button
            have hnil : w.filter InputEvent.isKey = [] := by
              cases hkeys : w.filter InputEvent.isKey with
              | nil => rfl
              | cons k keys =>
                  rw [hkeys, List.cons_append] at h
                  have hk : k ∈ w.filter InputEvent.isKey := by simp [hkeys]
                  rw [(List.cons.inj h).1] at hk
                  exact absurd (List.mem_filter.mp hk).2 hkey
            rw [hnil, List.nil_append] at h
            refine ⟨fun b hb hab => List.filter_eq_nil_iff.mp hnil b hb hab.2, ih.mp ?_⟩
            rw [hnil, List.nil_append]
            exact (List.cons.inj h).2
          · rintro ⟨hfirst, hrest⟩
            have hnil : w.filter InputEvent.isKey = [] :=
              List.filter_eq_nil_iff.mpr fun b hb hbkey => hfirst b hb ⟨hclick, hbkey⟩
            have hw := ih.mpr hrest
            rw [hnil, List.nil_append] at hw ⊢
            rw [hw]
        · simp [counts, hkey, hclick, ← ih]

/-- What is injected is in the order of the arrivals. -/
def InOrder (env : KeyboardEnv K) (keyboard : K) (steps : List BatchingStep) : Prop :=
  (run env keyboard steps).injected.filter counts <+: (arrivals steps).received.filter counts

theorem length_filter_counts_injected (steps : List BatchingStep) :
    ((run env keyboard steps).injected.filter counts).length =
      ((arrivals steps).flushed.filter counts).length := by
  induction steps using List.reverseRecOn with
  | nil => rfl
  | append_singleton steps step ih =>
      cases step with
      | recv event =>
          rw [injected_recv, ih, arrivals_snoc]
          rfl
      | tick =>
          rw [filter_counts_flush, List.length_append, ih, length_filter_key_add_click,
            arrivals_snoc, ← List.length_append, ← List.filter_append]
          rfl

/-- All of what has been flushed is injected, so that the order is that of a list. -/
theorem inOrder_iff_eq : InOrder env keyboard steps ↔
    (run env keyboard steps).injected.filter counts = (arrivals steps).flushed.filter counts := by
  rw [InOrder, Arrivals.received, List.filter_append, List.prefix_iff_eq_take,
    List.take_left' (length_filter_counts_injected steps).symm]

/-- The order of the arrivals is kept exactly in those runs in which every tick finds a window
with its keys first. -/
theorem in_order_iff (env : KeyboardEnv K) (keyboard : K) (steps : List BatchingStep) :
    InOrder env keyboard steps ↔
      EachAfter (fun pre step => step = .tick → KeysFirst (arrivals pre).window) steps := by
  induction steps using List.reverseRecOn with
  | nil => exact iff_of_true List.nil_prefix eachAfter_nil
  | append_singleton steps step ih =>
      rw [eachAfter_snoc, ← ih, inOrder_iff_eq, inOrder_iff_eq]
      cases step with
      | recv event =>
          rw [injected_recv, arrivals_snoc]
          exact (and_iff_left fun h => absurd h (by simp)).symm
      | tick =>
          have hflushed : (arrivals (steps ++ [.tick])).flushed.filter counts =
              (arrivals steps).flushed.filter counts ++ (arrivals steps).window.filter counts := by
            rw [arrivals_snoc, ← List.filter_append]
            rfl
          rw [filter_counts_flush, hflushed, ← filter_key_append_filter_click_eq_iff]
          constructor
          · intro h
            obtain ⟨hbefore, hwindow⟩ := List.append_inj h (length_filter_counts_injected steps)
            exact ⟨hbefore, fun _ => hwindow⟩
          · rintro ⟨hbefore, hwindow⟩
            rw [hbefore, hwindow rfl]

/-- Control is pressed, and released right after a click. -/
def controlClick : List BatchingStep :=
  [.recv (.keyboard (.pressed 0x1D false)), .tick, .recv (.mouse .leftPressed),
    .recv (.keyboard (.released 0x1D false)), .tick]

/-- The click comes too late for Control. -/
theorem control_released_before_click :
    (run plainKeyboard () controlClick).injected =
        [.keyboard (.pressed 0x1D false), .keyboard (.released 0x1D false), .mouse .leftPressed] ∧
      ¬ InOrder plainKeyboard () controlClick := by
  unfold InOrder
  decide +kernel

end LamcoRdp
