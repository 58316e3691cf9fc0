/-
LamcoRdp/Input/UnicodeTyping.lean

Typing through Unicode events.

A shifted character presses Shift in front of its own key and releases it behind.  Nothing
counts how many characters hold Shift.  Whether it is down is up to the last stroke of a
shifted character (`isDown_shift`), so that an unshifted character comes out right if that
stroke is a release: `shift_exact_iff`.  When every press has been released, no key is down
(`isDown_eq_false_of_released`).
-/
import LamcoRdp.Input.Keyboard
import LamcoRdp.Lib.Histories
import LamcoRdp.Lib.LastWrite

namespace LamcoRdp

open Histories

/-! ### Keys that are down -/

/-- What a request does to a key. -/
def KeyboardCall.keyWrite : KeyboardCall → Option (Int32 × Bool)
  | .keycode code pressed => some (code, pressed)
  | _ => none

/-- Whether a key is down after these requests, with no key down before. -/
def isDown (calls : List KeyboardCall) : Int32 → Bool :=
  LastWrite.assign (fun _ => false) (calls.filterMap KeyboardCall.keyWrite)

/-- A press or a release of a character that is on the keyboard. -/
structure Stroke where
  unicode : UInt16
  pressed : Bool
  key : UInt32
  shifted : Bool
  mapped : unicodeToEvdev unicode = some (key, shifted)

namespace Stroke

/-- The event of a stroke. -/
def event (t : Stroke) : KeyboardEvent :=
  if t.pressed then .unicodePressed t.unicode else .unicodeReleased t.unicode

/-- The requests of a stroke. -/
def calls (t : Stroke) : List KeyboardCall :=
  if t.pressed then
    (if t.shifted then [.keycode 42 true] else []) ++ [.keycode t.key.toInt32 true]
  else .keycode t.key.toInt32 false :: if t.shifted then [.keycode 42 false] else []

end Stroke

section

variable {K : Type} (env : KeyboardEnv K) (keyboard : K)

/-- The task behind some strokes. -/
def typed (strokes : List Stroke) : KeyboardTask K :=
  env.handleAll (.init keyboard) (strokes.map Stroke.event)

/-- Whenever a character's key is pressed, Shift is down exactly if the character needs it. -/
def ShiftExact (strokes : List Stroke) : Prop :=
  EachAfter (fun pre t => t.pressed = true →
    isDown (typed env keyboard (pre ++ [t])).calls 42 = t.shifted) strokes

end

/-- Each press is released later. -/
def Released (strokes : List Stroke) : Prop :=
  EachBefore (fun t post => t.pressed = true →
    ∃ r ∈ post, r.unicode = t.unicode ∧ r.pressed = false) strokes

/-! ### The requests of a stroke -/

variable {K : Type} {env : KeyboardEnv K} {keyboard : K} {strokes : List Stroke} {t : Stroke}

theorem calls_handle (h : env.Succeeds) (s : KeyboardTask K) (t : Stroke) :
    (env.handleKeyboardEventImpl s t.event).2.calls = s.calls ++ t.calls := by
  cases hp : t.pressed with
  | true =>
      simp [Stroke.event, Stroke.calls, hp, KeyboardEnv.handleKeyboardEventImpl, t.mapped,
        KeyboardEnv.inject_of_succeeds h, KeyboardTask.deliver]
  | false =>
      simp [Stroke.event, Stroke.calls, hp, KeyboardEnv.handleKeyboardEventImpl, t.mapped,
        KeyboardEnv.inject_of_succeeds h]

theorem calls_typed_snoc (h : env.Succeeds) (strokes : List Stroke) (t : Stroke) :
    (typed env keyboard (strokes ++ [t])).calls =
      (typed env keyboard strokes).calls ++ t.calls := by
  rw [typed, List.map_append, List.map_singleton, KeyboardEnv.handleAll_snoc, calls_handle h]
  rfl

theorem isDown_append (calls calls' : List KeyboardCall) :
    isDown (calls ++ calls') =
      LastWrite.assign (isDown calls) (calls'.filterMap KeyboardCall.keyWrite) := by
  rw [isDown, List.filterMap_append, LastWrite.assign_append]
  rfl

/-- A stroke of a shifted character moves Shift with it; another one leaves it alone. -/
theorem isDown_shift_stroke (calls : List KeyboardCall) (t : Stroke) :
    isDown (calls ++ t.calls) 42 = if t.shifted then t.pressed else isDown calls 42 := by
  have hne : (42 : Int32) ≠ t.key.toInt32 := (keycode_ne_shift t.mapped).symm
  rw [isDown_append, Stroke.calls]
  cases hp : t.pressed <;> cases hs : t.shifted <;>
    simp [KeyboardCall.keyWrite, LastWrite.assign, Function.update_of_ne hne]

theorem isDown_key_stroke {key : Int32} (hkey : key ≠ 42) (calls : List KeyboardCall)
    (t : Stroke) : isDown (calls ++ t.calls) key =
      if t.key.toInt32 = key then t.pressed else isDown calls key := by
  have hshift (f : Int32 → Bool) (b : Bool) : Function.update f 42 b key = f key :=
    Function.update_of_ne hkey b f
  rw [isDown_append, Stroke.calls]
  by_cases heq : t.key.toInt32 = key
  · rw [if_pos heq]
    cases hp : t.pressed <;> cases hs : t.shifted <;>
      simp [KeyboardCall.keyWrite, LastWrite.assign, hshift, heq]
  · rw [if_neg heq]
    cases hp : t.pressed <;> cases hs : t.shifted <;>
      simp [KeyboardCall.keyWrite, LastWrite.assign, hshift, Function.update_of_ne (Ne.symm heq)]

/-! ### The last stroke decides -/

/-- Whether the last of the strokes in `p` is a press. -/
def lastPressed (p : Stroke → Bool) (strokes : List Stroke) : Bool :=
  (strokes.filter p).getLast?.any Stroke.pressed

theorem lastPressed_snoc (p : Stroke → Bool) (strokes : List Stroke) (t : Stroke) :
    lastPressed p (strokes ++ [t]) = if p t then t.pressed else lastPressed p strokes := by
  rw [lastPressed, lastPressed, List.filter_append]
  by_cases hp : p t = true
  · rw [List.filter_cons_of_pos hp, List.filter_nil, List.getLast?_concat, if_pos hp]
    rfl
  · rw [List.filter_cons_of_neg hp, List.filter_nil, List.append_nil, if_neg hp]

theorem isDown_shift (h : env.Succeeds) (strokes : List Stroke) :
    isDown (typed env keyboard strokes).calls 42 = lastPressed Stroke.shifted strokes := by
  induction strokes using List.reverseRecOn with
  | nil => rfl
  | append_singleton strokes t ih =>
      rw [calls_typed_snoc h, isDown_shift_stroke, ih, lastPressed_snoc]

theorem isDown_key (h : env.Succeeds) {key : Int32} (hkey : key ≠ 42) (strokes : List Stroke) :
    isDown (typed env keyboard strokes).calls key =
      lastPressed (fun t => decide (t.key.toInt32 = key)) strokes := by
  induction strokes using List.reverseRecOn with
  | nil => rfl
  | append_singleton strokes t ih =>
      rw [calls_typed_snoc h, isDown_key_stroke hkey, ih, lastPressed_snoc]
      simp only [decide_eq_true_eq]

/-! ### After the last release -/

/-- The row of a character is its own. -/
theorem row_unique {r : Stroke} (h : r.unicode = t.unicode) :
    r.key = t.key ∧ r.shifted = t.shifted := by
  have hrow := r.mapped
  rw [h, t.mapped] at hrow
  exact ⟨congrArg Prod.fst (Option.some.inj hrow).symm,
    congrArg Prod.snd (Option.some.inj hrow).symm⟩

theorem lastPressed_eq_false_of_released {p : Stroke → Bool}
    (hp : ∀ t r : Stroke, r.unicode = t.unicode → p r = p t) (h : Released strokes) :
    lastPressed p strokes = false := by
  rw [lastPressed, Option.any_eq_false]
  intro t ht
  obtain ⟨front, hfilter⟩ := List.getLast?_eq_some_iff.mp ht
  obtain ⟨l, l', rfl, -, hlast⟩ := List.filter_eq_append_iff.mp hfilter
  obtain ⟨pre, post, rfl, -, hpt, hpost⟩ := List.filter_eq_cons_iff.mp hlast
  rw [Bool.eq_false_iff]
  intro hpressed
  obtain ⟨r, hr, hunicode, -⟩ := h (l ++ pre) t post (List.append_assoc ..).symm hpressed
  -- the release would come behind the last stroke
  exact List.filter_eq_nil_iff.mp hpost r hr ((hp t r hunicode).trans hpt)

theorem isDown_eq_false_of_released (henv : env.Succeeds) (h : Released strokes) (key : Int32) :
    isDown (typed env keyboard strokes).calls key = false := by
  by_cases hkey : key = 42
  · rw [hkey, isDown_shift henv]
    exact lastPressed_eq_false_of_released (fun t r hr => (row_unique hr).2) h
  · rw [isDown_key henv hkey]
    refine lastPressed_eq_false_of_released (fun t r hr => ?_) h
    rw [(row_unique hr).1]

/-! ### Shift -/

/-- An unshifted character is pressed only where the last stroke of a shifted one is a
release. -/
def ShiftReleasedFirst (strokes : List Stroke) : Prop :=
  EachAfter (fun pre t => t.pressed = true → t.shifted = false →
    ∀ r ∈ (pre.filter Stroke.shifted).getLast?, r.pressed = false) strokes

theorem shift_exact_iff (h : env.Succeeds) (strokes : List Stroke) :
    ShiftExact env keyboard strokes ↔ ShiftReleasedFirst strokes := by
  have hstroke (pre : List Stroke) (t : Stroke) :
      (t.pressed = true → isDown (typed env keyboard (pre ++ [t])).calls 42 = t.shifted) ↔
        (t.pressed = true → t.shifted = false →
          ∀ r ∈ (pre.filter Stroke.shifted).getLast?, r.pressed = false) := by
    apply imp_congr_right
    intro hpressed
    rw [isDown_shift h, lastPressed_snoc]
    cases hs : t.shifted with
    | true => simp [hpressed]
    | false => simp [lastPressed, Option.any_eq_false]
  simp only [ShiftExact, ShiftReleasedFirst, hstroke]

/-- Typing is right exactly where no unshifted character comes while the last shifted one is
held. -/
theorem typing_exact_iff (henv : env.Succeeds) (hreleased : Released strokes) :
    (ShiftExact env keyboard strokes ∧
        ∀ key, isDown (typed env keyboard strokes).calls key = false) ↔
      ShiftReleasedFirst strokes := by
  rw [shift_exact_iff henv]
  exact and_iff_left fun key => isDown_eq_false_of_released henv hreleased key

/-- The character `A`. -/
def upperA (pressed : Bool) : Stroke := ⟨0x41, pressed, Key.a, true, by decide +kernel⟩

/-- The character `b`. -/
def lowerB (pressed : Bool) : Stroke := ⟨0x62, pressed, Key.b, false, by decide +kernel⟩

/-- One character after the other. -/
theorem typing_exact_in_turn :
    ShiftExact plainKeyboard () [upperA true, upperA false, lowerB true, lowerB false] ∧
      ∀ key, isDown (typed plainKeyboard ()
        [upperA true, upperA false, lowerB true, lowerB false]).calls key = false :=
  (typing_exact_iff (fun _ => rfl) (by unfold Released; decide +kernel)).mpr
    (by unfold ShiftReleasedFirst; decide +kernel)

/-- `A` is still held when `b` is pressed, which comes out as `B`. -/
theorem held_shift_shifts :
    Released [upperA true, lowerB true, lowerB false, upperA false] ∧
      ¬ ShiftExact plainKeyboard () [upperA true, lowerB true, lowerB false, upperA false] := by
  unfold Released ShiftExact
  decide +kernel

end LamcoRdp
