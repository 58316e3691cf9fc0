/-
LamcoRdp/Input/MouseBatch.lean

A window of mouse events, coalesced.

`coalesce_mouse_batch` holds back runs of moves: of absolute positions the last one counts,
and distances are added up, with saturation.  What is held back goes out in front of any
other event.  The loop's output together with what it holds back is the output of
`Coalesce.push` with `mergeMoves` (`visible_coalesceEvent`), so that the general lemmas on
coalescing are about it.

Distances are exact as long as no run of them leaves the range of an `i32`
(`SumsFit`); then nothing that the compositor sees has changed (`coalesceMouseBatch_keeps`).
-/
import Mathlib.Algebra.Order.Group.Unbundled.Int
import Mathlib.Algebra.Group.Prod
import LamcoRdp.Lib.Coalesce

namespace LamcoRdp

/-- `IronMouseEvent`. -/
inductive MouseEvent
  | move (x y : UInt16)
  | relMove (x y : Int32)
  | leftPressed
  | leftReleased
  | rightPressed
  | rightReleased
  | middlePressed
  | middleReleased
  | button4Pressed
  | button4Released
  | button5Pressed
  | button5Released
  | verticalScroll (value : Int16)
  | scroll (x y : Int32)
deriving DecidableEq

/-! ### The code -/

/-- `saturating_add` of `i32`. -/
def saturatingAddI32 (a b : Int32) : Int32 :=
  .ofInt (max (-2 ^ 31) (min (a.toInt + b.toInt) (2 ^ 31 - 1)))

/-- The variables of `coalesce_mouse_batch`. -/
structure MouseBatch where
  out : List MouseEvent
  pendingAbs : Option (UInt16 × UInt16)
  pendingRel : Option (Int32 × Int32)

namespace MouseBatch

/-- An empty batch. -/
def init : MouseBatch := ⟨[], none, none⟩

/-- `flush_pending`. -/
def flushPending (s : MouseBatch) : MouseBatch where
  out := s.out ++ (s.pendingAbs.map fun p => .move p.1 p.2).toList
    ++ (s.pendingRel.map fun p => .relMove p.1 p.2).toList
  pendingAbs := none
  pendingRel := none

/-- An event that is no move. -/
def pass (s : MouseBatch) (other : MouseEvent) : MouseBatch :=
  { s.flushPending with out := s.flushPending.out ++ [other] }

/-- The body of the loop. -/
def coalesceEvent (s : MouseBatch) : MouseEvent → MouseBatch
  | .move x y =>
      let s := if s.pendingRel.isSome then s.flushPending else s
      { s with pendingAbs := some (x, y) }
  | .relMove x y =>
      let s := if s.pendingAbs.isSome then s.flushPending else s
      let d := s.pendingRel.getD (0, 0)
      { s with pendingRel := some (saturatingAddI32 d.1 x, saturatingAddI32 d.2 y) }
  | other => s.pass other

end MouseBatch

/-- `coalesce_mouse_batch`. -/
def coalesceMouseBatch (events : List MouseEvent) : List MouseEvent :=
  if events.length < 2 then events
  else (events.foldl MouseBatch.coalesceEvent .init).flushPending.out

/-! ### What the compositor sees -/

namespace MouseEvent

/-- Motion, absolute or relative. -/
def isMove : MouseEvent → Bool
  | .move _ _ | .relMove _ _ => true
  | _ => false

/-- Where the pointer is behind an event. -/
def pointerAfter (p : ℤ × ℤ) : MouseEvent → ℤ × ℤ
  | .move x y => (x.toNat, y.toNat)
  | .relMove x y => (p.1 + x.toInt, p.2 + y.toInt)
  | _ => p

/-- The sum of the run of distances that an event ends, `d` before it. -/
def sumAfter (d : ℤ × ℤ) : MouseEvent → ℤ × ℤ
  | .relMove x y => (d.1 + x.toInt, d.2 + y.toInt)
  | _ => (0, 0)

/-- Both absolute, or both relative. -/
def SameMove (a b : MouseEvent) : Prop :=
  (∃ x y x' y', a = .move x y ∧ b = .move x' y') ∨
    ∃ x y x' y', a = .relMove x y ∧ b = .relMove x' y'

end MouseEvent

/-- The pointer, and what has been delivered where. -/
structure Replay where
  position : ℤ × ℤ
  delivered : List (MouseEvent × ℤ × ℤ)

/-- An event, seen by a desktop with the pointer where it is then. -/
def Replay.see (e : MouseEvent) (s : Replay) : Replay where
  position := e.pointerAfter s.position
  delivered := if e.isMove then s.delivered else s.delivered ++ [(e, s.position)]

/-- What a desktop sees of some events. -/
def replay (start : ℤ × ℤ) (events : List MouseEvent) : Replay :=
  events.foldl (fun s e => s.see e) ⟨start, []⟩

/-- Both coordinates are in the range of an `i32`. -/
def FitsI32 (d : ℤ × ℤ) : Prop :=
  (-2 ^ 31 ≤ d.1 ∧ d.1 < 2 ^ 31) ∧ (-2 ^ 31 ≤ d.2 ∧ d.2 < 2 ^ 31)

/-- The partial sums of the runs of distances, the first of them begun with `d`. -/
def SumsFit (d : ℤ × ℤ) : List MouseEvent → Prop
  | [] => True
  | e :: events => FitsI32 (e.sumAfter d) ∧ SumsFit (e.sumAfter d) events

/-! ### Saturation -/

theorem toInt_saturatingAddI32 {a b : Int32} (hl : -2 ^ 31 ≤ a.toInt + b.toInt)
    (hr : a.toInt + b.toInt < 2 ^ 31) : (saturatingAddI32 a b).toInt = a.toInt + b.toInt := by
  have hmin : min (a.toInt + b.toInt) (2 ^ 31 - 1) = a.toInt + b.toInt := by omega
  rw [saturatingAddI32, hmin, max_eq_right hl]
  exact Int32.toInt_ofInt_of_le hl hr

theorem saturatingAddI32_zero (b : Int32) : saturatingAddI32 0 b = b := by
  have hl := b.le_toInt
  have hr := b.toInt_lt
  have hzero : (0 : Int32).toInt + b.toInt = b.toInt := Int.zero_add _
  rw [← Int32.toInt_inj, toInt_saturatingAddI32 (by omega) (by omega), hzero]

/-! ### Merging moves -/

/-- Two motions of one kind, as one. -/
def mergeMoves : MouseEvent → MouseEvent → Option MouseEvent
  | .move _ _, .move x y => some (.move x y)
  | .relMove dx dy, .relMove x y =>
      some (.relMove (saturatingAddI32 dx x) (saturatingAddI32 dy y))
  | _, _ => none

open MouseEvent

variable {a b c e : MouseEvent} {s : MouseBatch}

theorem MouseEvent.forms (e : MouseEvent) :
    (∃ x y, e = .move x y) ∨ (∃ x y, e = .relMove x y) ∨ e.isMove = false := by
  cases e with
  | move x y => exact .inl ⟨x, y, rfl⟩
  | relMove x y => exact .inr (.inl ⟨x, y, rfl⟩)
  | _ => exact .inr (.inr rfl)

theorem mergeMoves_eq_none : mergeMoves a b = none ↔ ¬ SameMove a b := by
  unfold mergeMoves
  split
  · simp [SameMove]
  · simp [SameMove]
  · next habs hrel =>
      refine iff_of_true rfl ?_
      rintro (⟨x, y, x', y', ha, hb⟩ | ⟨x, y, x', y', ha, hb⟩)
      · exact habs x y x' y' ha hb
      · exact hrel x y x' y' ha hb

theorem mergeMoves_right (h : a.isMove = false) (b : MouseEvent) : mergeMoves b a = none := by
  rw [mergeMoves_eq_none]
  rintro (⟨_, _, _, _, -, rfl⟩ | ⟨_, _, _, _, -, rfl⟩) <;> cases h

theorem mergeMoves_left (h : b.isMove = false) (a : MouseEvent) : mergeMoves b a = none := by
  rw [mergeMoves_eq_none]
  rintro (⟨_, _, _, _, rfl, -⟩ | ⟨_, _, _, _, rfl, -⟩) <;> cases h

theorem mergeMoves_eq_some (h : mergeMoves b a = some c) :
    (∃ x y x' y', b = .move x y ∧ a = .move x' y' ∧ c = .move x' y') ∨
      ∃ x y x' y', b = .relMove x y ∧ a = .relMove x' y' ∧
        c = .relMove (saturatingAddI32 x x') (saturatingAddI32 y y') := by
  unfold mergeMoves at h
  split at h
  · exact .inl ⟨_, _, _, _, rfl, rfl, (Option.some.inj h).symm⟩
  · exact .inr ⟨_, _, _, _, rfl, rfl, (Option.some.inj h).symm⟩
  · cases h

/-- A merged move is of the kind of its parts. -/
theorem mergeMoves_kind (h : mergeMoves b a = some c) (z : MouseEvent)
    (hz : mergeMoves z b = none) : mergeMoves z c = none := by
  rw [mergeMoves_eq_none] at hz ⊢
  intro hzc
  apply hz
  obtain ⟨_, _, _, _, rfl, -, rfl⟩ | ⟨_, _, _, _, rfl, -, rfl⟩ := mergeMoves_eq_some h
  · obtain ⟨_, _, _, _, rfl, -⟩ | ⟨_, _, _, _, -, hc⟩ := hzc
    · exact .inl ⟨_, _, _, _, rfl, rfl⟩
    · cases hc
  · obtain ⟨_, _, _, _, -, hc⟩ | ⟨_, _, _, _, rfl, -⟩ := hzc
    · cases hc
    · exact .inr ⟨_, _, _, _, rfl, rfl⟩

theorem mergeMoves_isMove (h : mergeMoves b a = some c) :
    a.isMove = true ∧ b.isMove = true ∧ c.isMove = true := by
  obtain ⟨_, _, _, _, rfl, rfl, rfl⟩ | ⟨_, _, _, _, rfl, rfl, rfl⟩ := mergeMoves_eq_some h
  · exact ⟨rfl, rfl, rfl⟩
  · exact ⟨rfl, rfl, rfl⟩

/-! ### The loop -/

namespace MouseBatch

/-- The output, if the batch ended here. -/
def visible (s : MouseBatch) : List MouseEvent := s.flushPending.out

/-- Moves of one kind at most are held back, and without them no move comes last. -/
inductive Settled : MouseBatch → Prop
  | idle {out : List MouseEvent} (h : ∀ e ∈ out.getLast?, e.isMove = false) :
      Settled ⟨out, none, none⟩
  | absolute (out : List MouseEvent) (p : UInt16 × UInt16) : Settled ⟨out, some p, none⟩
  | relative (out : List MouseEvent) (d : Int32 × Int32) : Settled ⟨out, none, some d⟩

theorem visible_idle (out : List MouseEvent) : visible ⟨out, none, none⟩ = out := by
  simp [visible, flushPending]

theorem visible_absolute (out : List MouseEvent) (p : UInt16 × UInt16) :
    visible ⟨out, some p, none⟩ = out ++ [.move p.1 p.2] := by
  simp [visible, flushPending]

theorem visible_relative (out : List MouseEvent) (d : Int32 × Int32) :
    visible ⟨out, none, some d⟩ = out ++ [.relMove d.1 d.2] := by
  simp [visible, flushPending]

theorem coalesceEvent_other (h : e.isMove = false) (s : MouseBatch) :
    s.coalesceEvent e = ⟨s.visible ++ [e], none, none⟩ := by
  cases e with
  | move x y => cases h
  | relMove x y => cases h
  | _ => rfl

theorem settled_coalesceEvent (h : s.Settled) (e : MouseEvent) : (s.coalesceEvent e).Settled := by
  obtain ⟨x, y, rfl⟩ | ⟨x, y, rfl⟩ | he := e.forms
  · cases h with
    | idle h => exact .absolute _ _
    | absolute out p => exact .absolute _ _
    | relative out d => exact .absolute _ _
  · cases h with
    | idle h => exact .relative _ _
    | absolute out p => exact .relative _ _
    | relative out d => exact .relative _ _
  · rw [coalesceEvent_other he]
    apply Settled.idle
    simpa using he

/-- A move behind moves of the other kind sends these out. -/
theorem coalesceEvent_move_relative (out : List MouseEvent) (d : Int32 × Int32) (x y : UInt16) :
    coalesceEvent ⟨out, none, some d⟩ (.move x y) =
      ⟨out ++ [.relMove d.1 d.2], some (x, y), none⟩ := by
  simp [coalesceEvent, flushPending]

theorem coalesceEvent_relMove_absolute (out : List MouseEvent) (p : UInt16 × UInt16)
    (x y : Int32) : coalesceEvent ⟨out, some p, none⟩ (.relMove x y) =
      ⟨out ++ [.move p.1 p.2], none, some (x, y)⟩ := by
  simp [coalesceEvent, flushPending, saturatingAddI32_zero]

theorem coalesceEvent_relMove_idle (out : List MouseEvent) (x y : Int32) :
    coalesceEvent ⟨out, none, none⟩ (.relMove x y) = ⟨out, none, some (x, y)⟩ := by
  simp [coalesceEvent, saturatingAddI32_zero]

/-- The loop pushes onto what is visible. -/
theorem visible_coalesceEvent (h : s.Settled) (e : MouseEvent) :
    (s.coalesceEvent e).visible.reverse = Coalesce.push mergeMoves s.visible.reverse e := by
  obtain ⟨x, y, rfl⟩ | ⟨x, y, rfl⟩ | he := e.forms
  · -- an absolute move: merged into a waiting one, appended otherwise
    cases h with
    | idle h =>
        rw [visible_idle, Coalesce.push_of_none]
        · exact (congrArg List.reverse (visible_absolute _ _)).trans List.reverse_concat
        · rw [List.head?_reverse]
          exact fun b hb => mergeMoves_left (h b hb) _
    | absolute out p =>
        rw [visible_absolute, List.reverse_concat, Coalesce.push_of_some rfl]
        exact (congrArg List.reverse (visible_absolute _ _)).trans List.reverse_concat
    | relative out d =>
        rw [coalesceEvent_move_relative, visible_absolute, visible_relative, List.reverse_concat,
          Coalesce.push_of_none]
        rw [List.head?_reverse, List.getLast?_concat]
        rintro b ⟨⟩
        rfl
  · -- a relative move, likewise
    cases h with
    | idle h =>
        rw [coalesceEvent_relMove_idle, visible_relative, visible_idle, List.reverse_concat,
          Coalesce.push_of_none]
        rw [List.head?_reverse]
        exact fun b hb => mergeMoves_left (h b hb) _
    | absolute out p =>
        rw [coalesceEvent_relMove_absolute, visible_relative, visible_absolute,
          List.reverse_concat, Coalesce.push_of_none]
        rw [List.head?_reverse, List.getLast?_concat]
        rintro b ⟨⟩
        rfl
    | relative out d =>
        rw [visible_relative, List.reverse_concat, Coalesce.push_of_some rfl]
        exact (congrArg List.reverse (visible_relative _ _)).trans List.reverse_concat
  · -- anything else flushes what waits, and nothing is merged into it
    rw [coalesceEvent_other he, visible_idle, List.reverse_concat, Coalesce.push_of_none]
    exact fun b _ => mergeMoves_right he b

theorem visible_foldl (h : s.Settled) (events : List MouseEvent) :
    (events.foldl coalesceEvent s).visible.reverse =
      events.foldl (Coalesce.push mergeMoves) s.visible.reverse := by
  induction events generalizing s with
  | nil => rfl
  | cons e events ih =>
      rw [List.foldl_cons, ih (settled_coalesceEvent h e), visible_coalesceEvent h e,
        List.foldl_cons]

end MouseBatch

/-- The batch is coalesced with `mergeMoves`, also where the code does not look at it. -/
theorem coalesceMouseBatch_eq (events : List MouseEvent) :
    coalesceMouseBatch events = Coalesce.coalesce mergeMoves events := by
  have hinit : MouseBatch.init.Settled := .idle fun e he => by cases he
  have hvisible : (events.foldl MouseBatch.coalesceEvent .init).visible.reverse =
      events.foldl (Coalesce.push mergeMoves) [] := MouseBatch.visible_foldl hinit events
  rw [coalesceMouseBatch, Coalesce.coalesce, ← hvisible, List.reverse_reverse]
  split
  · next hshort =>
      rw [← List.reverse_inj, hvisible]
      cases events with
      | nil => rfl
      | cons e events =>
          have hlength : events.length < 1 := Nat.lt_of_succ_lt_succ hshort
          have hnil : events = [] := List.eq_nil_of_length_eq_zero (Nat.lt_one_iff.mp hlength)
          subst hnil
          rfl
  · rfl

/-! ### The replay -/

/-- The sum that a run of distances has come to, on an output with the newest event first. -/
def topSum : List MouseEvent → ℤ × ℤ
  | .relMove x y :: _ => (x.toInt, y.toInt)
  | _ => (0, 0)

theorem topSum_of_isMove_eq_false (h : e.isMove = false) (stack : List MouseEvent) :
    topSum (e :: stack) = (0, 0) := by
  cases e with
  | relMove x y => cases h
  | _ => rfl

theorem sumAfter_of_isMove_eq_false (h : e.isMove = false) (d : ℤ × ℤ) : e.sumAfter d = (0, 0) := by
  cases e with
  | relMove x y => cases h
  | _ => rfl

variable {stack events : List MouseEvent}

/-- Merged moves do what the two did, as long as the sum fits. -/
theorem see_merged (hfits : FitsI32 (a.sumAfter (topSum stack))) (hb : b ∈ stack.head?)
    (hc : c ∈ mergeMoves b a) (r : Replay) : r.see c = (r.see b).see a := by
  obtain ⟨rest, rfl⟩ := List.head?_eq_some_iff.mp hb
  obtain ⟨x, y, x', y', rfl, rfl, rfl⟩ | ⟨x, y, x', y', rfl, rfl, rfl⟩ := mergeMoves_eq_some hc
  · rfl
  · obtain ⟨⟨hxl, hxr⟩, hyl, hyr⟩ := hfits
    have hx : r.position.1 + (saturatingAddI32 x x').toInt =
        r.position.1 + x.toInt + x'.toInt := by
      rw [toInt_saturatingAddI32 hxl hxr, add_assoc]
    have hy : r.position.2 + (saturatingAddI32 y y').toInt =
        r.position.2 + y.toInt + y'.toInt := by
      rw [toInt_saturatingAddI32 hyl hyr, add_assoc]
    exact congrArg (Replay.mk · r.delivered) (Prod.ext hx hy)

theorem topSum_relMove (x y : Int32) (stack : List MouseEvent) :
    topSum (.relMove x y :: stack) = (MouseEvent.relMove x y).sumAfter (0, 0) :=
  Prod.ext (zero_add _).symm (zero_add _).symm

theorem topSum_push (hfits : FitsI32 (e.sumAfter (topSum stack))) :
    topSum (Coalesce.push mergeMoves stack e) = e.sumAfter (topSum stack) := by
  cases stack with
  | nil =>
      obtain ⟨x, y, rfl⟩ | ⟨x, y, rfl⟩ | he := e.forms
      · rfl
      · exact topSum_relMove x y []
      · rw [Coalesce.push_nil, topSum_of_isMove_eq_false he, sumAfter_of_isMove_eq_false he]
  | cons b rest =>
      cases hbe : mergeMoves b e with
      | none =>
          rw [Coalesce.push_of_none (by rintro d ⟨⟩; exact hbe)]
          obtain ⟨x, y, rfl⟩ | ⟨x, y, rfl⟩ | he := e.forms
          · rfl
          · -- the run begins here
            have hb : topSum (b :: rest) = 0 := by
              cases b with
              | relMove x' y' => cases hbe
              | _ => rfl
            rw [hb]
            exact topSum_relMove x y (b :: rest)
          · rw [topSum_of_isMove_eq_false he, sumAfter_of_isMove_eq_false he]
      | some c =>
          rw [Coalesce.push_of_some hbe]
          obtain ⟨x, y, x', y', rfl, rfl, rfl⟩ | ⟨x, y, x', y', rfl, rfl, rfl⟩ :=
            mergeMoves_eq_some hbe
          · rfl
          · obtain ⟨⟨hxl, hxr⟩, hyl, hyr⟩ := hfits
            exact Prod.ext (toInt_saturatingAddI32 hxl hxr) (toInt_saturatingAddI32 hyl hyr)

/-- The loop's output does to the pointer what the events do. -/
theorem foldr_see_push (h : SumsFit (topSum stack) events) (r : Replay) :
    (events.foldl (Coalesce.push mergeMoves) stack).foldr Replay.see r =
      events.foldl (fun r e => r.see e) (stack.foldr Replay.see r) := by
  induction events generalizing stack with
  | nil => rfl
  | cons e events ih =>
      obtain ⟨hfits, hrest⟩ := h
      rw [← topSum_push hfits] at hrest
      have hpush : (Coalesce.push mergeMoves stack e).foldr Replay.see r =
          (stack.foldr Replay.see r).see e :=
        Coalesce.foldr_push (fun b hb c hc s => see_merged hfits hb hc s) r
      rw [List.foldl_cons, ih hrest, hpush, List.foldl_cons]

theorem replay_coalesceMouseBatch (h : SumsFit (0, 0) events) (start : ℤ × ℤ) :
    replay start (coalesceMouseBatch events) = replay start events := by
  have hfits : SumsFit (topSum []) events := h
  have hpush : (events.foldl (Coalesce.push mergeMoves) []).foldr Replay.see ⟨start, []⟩ =
      events.foldl (fun r e => r.see e) ⟨start, []⟩ := foldr_see_push hfits ⟨start, []⟩
  rw [replay, coalesceMouseBatch_eq, Coalesce.coalesce, List.foldl_reverse]
  exact hpush

/-- What is no move stays, in its order. -/
theorem filter_coalesceMouseBatch (events : List MouseEvent) :
    (coalesceMouseBatch events).filter (!·.isMove) = events.filter (!·.isMove) := by
  rw [coalesceMouseBatch_eq]
  apply Coalesce.filter_coalesce
  intro a b c hc
  simp [mergeMoves_isMove hc]

/-- Nothing that the compositor sees has changed. -/
theorem coalesceMouseBatch_keeps (start : ℤ × ℤ) (h : SumsFit (0, 0) events) :
    (coalesceMouseBatch events).filter (!·.isMove) = events.filter (!·.isMove) ∧
      replay start (coalesceMouseBatch events) = replay start events ∧
      (coalesceMouseBatch events).IsChain (¬ SameMove · ·) ∧
      coalesceMouseBatch (coalesceMouseBatch events) = coalesceMouseBatch events := by
  refine ⟨filter_coalesceMouseBatch events, replay_coalesceMouseBatch h start, ?_, ?_⟩
  · rw [coalesceMouseBatch_eq]
    exact (Coalesce.isChain_coalesce (fun h => mergeMoves_kind h) events).imp fun a b hab =>
      mergeMoves_eq_none.mp hab
  · rw [coalesceMouseBatch_eq, coalesceMouseBatch_eq]
    exact Coalesce.coalesce_coalesce (fun h => mergeMoves_kind h) events

/-- A click in a stream of moves. -/
theorem dragged_click_kept :
    SumsFit (0, 0) [.move 10 20, .move 11 21, .relMove 2 3, .relMove (-1) 0, .leftPressed, .move 5 5] ∧
      replay (0, 0) (coalesceMouseBatch
        [.move 10 20, .move 11 21, .relMove 2 3, .relMove (-1) 0, .leftPressed, .move 5 5]) =
        ⟨(5, 5), [(.leftPressed, 12, 24)]⟩ := by
  have hfits : SumsFit (0, 0)
      [.move 10 20, .move 11 21, .relMove 2 3, .relMove (-1) 0, .leftPressed, .move 5 5] := by
    simp only [SumsFit, FitsI32]
    decide +kernel
  exact ⟨hfits, (coalesceMouseBatch_keeps (0, 0) hfits).2.1.trans (by rfl)⟩

end LamcoRdp
