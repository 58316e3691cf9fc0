/-
LamcoRdp/Input/CjkPaste.lean

Unicode input, decoded.

With the paste fallback, the units that come in as Unicode presses are a text in UTF-16.
The high surrogate that waits for its partner is in the paste buffer, which a scancode press
flushes and a character of the keyboard goes past.  In the text it is the other way round:
a character breaks a pair, and a scancode is no part of it.  So the text is delivered as
long as a scancode press comes between two surrogates exactly if a character of the
keyboard does: `decodes_utf16_iff`.
-/
import LamcoRdp.Input.Keyboard
import LamcoRdp.Lib.Histories
import LamcoRdp.Lib.Utf16Stream

namespace LamcoRdp

open Histories Utf16

/-! ### The buffer -/

theorem charFromU32_of_valid {n : UInt32} (h : n.isValidChar) :
    charFromU32 n = some (.ofNat n.toNat) := by
  rw [charFromU32, dif_pos h]
  exact congrArg some (Char.ofNat_toNat ⟨n, h⟩).symm

variable {u high low : UInt16}

theorem charFromU32_unit (hhigh : isHigh u = false) (hlow : isLow u = false) :
    charFromU32 u.toUInt32 = some (.ofNat u.toNat) := by
  rw [Bool.eq_false_iff, ne_eq, isHigh_iff] at hhigh
  rw [Bool.eq_false_iff, ne_eq, isLow_iff] at hlow
  have hlt := u.toNat_lt
  have hunit : u.toUInt32.toNat = u.toNat := u.toNat_toUInt32
  have hvalid : u.toUInt32.isValidChar := by
    rw [UInt32.isValidChar, hunit, Nat.isValidChar]
    omega
  rw [charFromU32_of_valid hvalid, hunit]

/-- The code point of two surrogates. -/
theorem charFromU32_pair (hhigh : isHigh high = true) (hlow : isLow low = true) :
    charFromU32 (0x10000 + ((high - 0xD800).toUInt32 <<< (10 : UInt32)) +
      (low - 0xDC00).toUInt32) = some (ofPair high low) := by
  rw [isHigh_iff] at hhigh
  rw [isLow_iff] at hlow
  have hh : (high - 0xD800).toNat = high.toNat - 0xD800 :=
    UInt16.toNat_sub_of_le _ _ (UInt16.le_iff_toNat_le.mpr hhigh.1)
  have hl : (low - 0xDC00).toNat = low.toNat - 0xDC00 :=
    UInt16.toNat_sub_of_le _ _ (UInt16.le_iff_toNat_le.mpr hlow.1)
  have hcode : (0x10000 + ((high - 0xD800).toUInt32 <<< (10 : UInt32)) +
      (low - 0xDC00).toUInt32).toNat =
      0x10000 + (high.toNat - 0xD800) * 0x400 + (low.toNat - 0xDC00) := by
    have hten : (10 : UInt32).toNat = 10 := rfl
    have hbase : (0x10000 : UInt32).toNat = 0x10000 := rfl
    rw [UInt32.toNat_add, UInt32.toNat_add, UInt32.toNat_shiftLeft, UInt16.toNat_toUInt32,
      UInt16.toNat_toUInt32, hh, hl, hten, hbase, Nat.shiftLeft_eq]
    simp only [Nat.reduceMod, Nat.reducePow]
    omega
  have hvalid : (0x10000 + ((high - 0xD800).toUInt32 <<< (10 : UInt32)) +
      (low - 0xDC00).toUInt32).isValidChar := by
    rw [UInt32.isValidChar, hcode, Nat.isValidChar]
    omega
  rw [charFromU32_of_valid hvalid, hcode, ofPair]

theorem high_range : (0xD800 ≤ u ∧ u ≤ 0xDBFF) ↔ isHigh u = true := by
  rw [isHigh_iff, UInt16.le_iff_toNat_le, UInt16.le_iff_toNat_le]
  show (0xD800 ≤ u.toNat ∧ u.toNat ≤ 0xDBFF) ↔ _
  omega

theorem low_range : (0xDC00 ≤ u ∧ u ≤ 0xDFFF) ↔ isLow u = true := by
  rw [isLow_iff, UInt16.le_iff_toNat_le, UInt16.le_iff_toNat_le]
  show (0xDC00 ≤ u.toNat ∧ u.toNat ≤ 0xDFFF) ↔ _
  omega

theorem push_empty (c : Char) : "".push c = String.ofList [c] := by
  rw [← String.toList_inj, String.toList_push, String.toList_ofList, String.toList_ofList]
  rfl

/-- The buffer decodes as it is fed, and says whether a character is complete. -/
theorem pushUtf16Unit_eq {waits : Option UInt16} (hwaits : ∀ h ∈ waits, isHigh h = true)
    (u : UInt16) : CjkPasteBuffer.pushUtf16Unit ⟨"", waits⟩ u =
      (!(feed waits u).2.isEmpty, ⟨String.ofList (feed waits u).2, (feed waits u).1⟩) := by
  rw [CjkPasteBuffer.pushUtf16Unit]
  by_cases hu : isHigh u = true
  · rw [if_pos (high_range.mpr hu), feed_high hu]
    simp
  · rw [if_neg (mt high_range.mp hu)]
    by_cases hl : isLow u = true
    · rw [if_pos (low_range.mpr hl), feed_low hl]
      cases waits with
      | none => simp
      | some h =>
          simp only [charFromU32_pair (hwaits h rfl) hl, push_empty]
          simp
    · rw [if_neg (mt low_range.mp hl)]
      rw [Bool.not_eq_true] at hu hl
      simp only [charFromU32_unit hu hl, feed_other hu hl, push_empty]
      simp

/-! ### The handler -/

section

variable {K : Type} {env : KeyboardEnv K}

/-- The fallback is on, there is a clipboard, and nothing fails. -/
structure PasteWorks (env : KeyboardEnv K) : Prop where
  enabled : env.cjkPasteEnabled = true
  provider : env.hasClipboardProvider = true
  succeeds : env.Succeeds

variable {s : KeyboardTask K} {waits : Option UInt16}

theorem inject_keeps (s : KeyboardTask K) (calls : List KeyboardCall) :
    (env.inject s calls).2.cjkBuffer = s.cjkBuffer ∧
      (env.inject s calls).2.delivered = s.delivered := by
  induction calls generalizing s with
  | nil => exact ⟨rfl, rfl⟩
  | cons call calls ih =>
      rw [KeyboardEnv.inject]
      split
      · exact ⟨rfl, rfl⟩
      · exact ih (s.request call)

theorem pause_cjkBuffer (s : KeyboardTask K) (paused : Bool) :
    (env.pause s paused).cjkBuffer = s.cjkBuffer := by
  unfold KeyboardEnv.pause
  split <;> rfl

theorem pause_delivered (s : KeyboardTask K) (paused : Bool) :
    (env.pause s paused).delivered = s.delivered := by
  unfold KeyboardEnv.pause
  split <;> rfl

theorem foldl_request_keeps (calls : List KeyboardCall) (s : KeyboardTask K) :
    (calls.foldl .request s).cjkBuffer = s.cjkBuffer ∧
      (calls.foldl .request s).delivered = s.delivered := by
  induction calls generalizing s with
  | nil => exact ⟨rfl, rfl⟩
  | cons call calls ih => exact ih (s.request call)

/-- The text is delivered once, whether or not there was one on the clipboard before. -/
theorem pasteText_eq (h : env.Succeeds) (s : KeyboardTask K) (text : String) :
    (env.pasteText s text).cjkBuffer = s.cjkBuffer ∧
      (env.pasteText s text).delivered = s.delivered ++ text.toList := by
  obtain ⟨hbuffer, hdelivered⟩ := foldl_request_keeps KeyboardEnv.pasteKeys
    ((env.pause (s.request .readData) true).request (.writeText text))
  replace hbuffer := hbuffer.trans (pause_cjkBuffer (s.request .readData) true)
  replace hdelivered := hdelivered.trans (pause_delivered (s.request .readData) true)
  simp only [KeyboardEnv.pasteText, h _]
  split
  · rw [pause_cjkBuffer, pause_delivered]
    exact ⟨hbuffer, congrArg (· ++ text.toList) hdelivered⟩
  · rw [pause_cjkBuffer, pause_delivered]
    exact ⟨hbuffer, congrArg (· ++ text.toList) hdelivered⟩

/-- A text in the buffer is pasted, and nothing waits any more. -/
theorem flushCjkBuffer_eq (h : PasteWorks env) {text : String} (hs : s.cjkBuffer = ⟨text, waits⟩) :
    (env.flushCjkBuffer s).cjkBuffer = ⟨"", none⟩ ∧
      (env.flushCjkBuffer s).delivered = s.delivered ++ text.toList := by
  by_cases htext : text.isEmpty = true
  · have hempty : text = "" := String.isEmpty_iff.mp htext
    subst hempty
    have htake : s.cjkBuffer.takeText = (none, ⟨"", none⟩) := by rw [hs]; rfl
    rw [KeyboardEnv.flushCjkBuffer, htake]
    exact ⟨rfl, (List.append_nil _).symm⟩
  · have htake : s.cjkBuffer.takeText = (some text, ⟨"", none⟩) := by
      rw [hs, CjkPasteBuffer.takeText, if_neg htext]
    simp only [KeyboardEnv.flushCjkBuffer, htake, h.provider, if_true]
    exact pasteText_eq h.succeeds _ text

/-- What the handler makes of an event: what waits then, and what is delivered. -/
def pasteFeed (waits : Option UInt16) : KeyboardEvent → Option UInt16 × List Char
  | .pressed _ _ => (none, [])
  | .unicodePressed u =>
      if (unicodeToEvdev u).isSome then (waits, [.ofNat u.toNat]) else feed waits u
  | _ => (waits, [])

/-- A scancode press flushes the buffer. -/
theorem pressed_keeps (h : PasteWorks env) (hs : s.cjkBuffer = ⟨"", waits⟩) (code : UInt8)
    (extended : Bool) :
    (env.handleKeyboardEventImpl s (.pressed code extended)).2.cjkBuffer = ⟨"", none⟩ ∧
      (env.handleKeyboardEventImpl s (.pressed code extended)).2.delivered = s.delivered ++ [] := by
  have hflush : (if s.cjkBuffer.isEmpty then s else env.flushCjkBuffer s).cjkBuffer = ⟨"", none⟩ ∧
      (if s.cjkBuffer.isEmpty then s else env.flushCjkBuffer s).delivered = s.delivered ++ [] := by
    split
    · next hempty =>
        rw [hs] at hempty ⊢
        cases waits with
        | none => exact ⟨rfl, (List.append_nil _).symm⟩
        | some high => cases hempty
    · exact flushCjkBuffer_eq h hs
  simp only [KeyboardEnv.handleKeyboardEventImpl]
  split
  · exact hflush
  · exact ⟨(inject_keeps _ _).1.trans hflush.1, (inject_keeps _ _).2.trans hflush.2⟩

theorem handle_pasteFeed (h : PasteWorks env) (hs : s.cjkBuffer = ⟨"", waits⟩)
    (hwaits : ∀ h ∈ waits, isHigh h = true) (e : KeyboardEvent) :
    (env.handleKeyboardEventImpl s e).2.cjkBuffer = ⟨"", (pasteFeed waits e).1⟩ ∧
      (env.handleKeyboardEventImpl s e).2.delivered = s.delivered ++ (pasteFeed waits e).2 := by
  cases e with
  | pressed code extended =>
      exact pressed_keeps h hs code extended
  | released code extended =>
      simp only [KeyboardEnv.handleKeyboardEventImpl]
      split
      · exact ⟨hs, (List.append_nil _).symm⟩
      · exact ⟨(inject_keeps _ _).1.trans hs,
          (inject_keeps _ _).2.trans (List.append_nil _).symm⟩
      · exact ⟨hs, (List.append_nil _).symm⟩
  | unicodePressed u =>
      cases hu : unicodeToEvdev u with
      | some p =>
          simp only [KeyboardEnv.handleKeyboardEventImpl, pasteFeed, hu,
            KeyboardEnv.inject_of_succeeds h.succeeds]
          exact ⟨hs, rfl⟩
      | none =>
          have hfeed : pasteFeed waits (.unicodePressed u) = feed waits u := by
            simp [pasteFeed, hu]
          rw [hfeed]
          simp only [KeyboardEnv.handleKeyboardEventImpl, hu, h.enabled, h.provider, hs,
            pushUtf16Unit_eq hwaits]
          cases hout : (feed waits u).2 with
          | nil => exact ⟨rfl, (List.append_nil _).symm⟩
          | cons c out =>
              -- nothing waits any more when there is a character to be pasted
              rw [feed_eq_none (by simp [hout])]
              obtain ⟨hbuffer, hdelivered⟩ := flushCjkBuffer_eq (s := { s with
                cjkBuffer := ⟨String.ofList (c :: out), none⟩ }) h rfl
              rw [String.toList_ofList] at hdelivered
              exact ⟨hbuffer, hdelivered⟩
  | unicodeReleased u =>
      simp only [KeyboardEnv.handleKeyboardEventImpl, h.enabled, h.provider]
      split
      · exact ⟨(inject_keeps _ _).1.trans hs,
          (inject_keeps _ _).2.trans (List.append_nil _).symm⟩
      · exact ⟨hs, (List.append_nil _).symm⟩
  | synchronize flags => exact ⟨hs, (List.append_nil _).symm⟩

end

/-! ### The text -/

/-- The units that come in. -/
def unitsOf (events : List KeyboardEvent) : List UInt16 :=
  events.filterMap fun
    | .unicodePressed u => some u
    | _ => none

/-- What the text makes of an event. -/
def textFeed (waits : Option UInt16) : KeyboardEvent → Option UInt16 × List Char
  | .unicodePressed u => feed waits u
  | _ => (waits, [])

theorem decode_unitsOf_snoc (events : List KeyboardEvent) (e : KeyboardEvent) :
    feedAll (unitsOf (events ++ [e])) =
      ((textFeed (feedAll (unitsOf events)).1 e).1,
        (feedAll (unitsOf events)).2 ++ (textFeed (feedAll (unitsOf events)).1 e).2) := by
  rw [unitsOf, List.filterMap_append]
  cases e with
  | unicodePressed u => exact feedAll_snoc (unitsOf events) u
  | _ => exact (congrArg feedAll (List.append_nil _)).trans (Prod.ext rfl (List.append_nil _).symm)

/-! ### Pairs -/

/-- A scancode is pressed. -/
def isScancodePress : KeyboardEvent → Bool
  | .pressed _ _ => true
  | _ => false

/-- A character of the keyboard is pressed. -/
def isTypedPress : KeyboardEvent → Bool
  | .unicodePressed u => (unicodeToEvdev u).isSome
  | _ => false

/-- A low surrogate comes in. -/
def isLowPress : KeyboardEvent → Bool
  | .unicodePressed u => isLow u
  | _ => false

/-- The high surrogate that was the last unit off the keyboard, and the events since. -/
def openHighStep (o : Option (UInt16 × List KeyboardEvent)) (e : KeyboardEvent) :
    Option (UInt16 × List KeyboardEvent) :=
  match e with
  | .unicodePressed u =>
      if (unicodeToEvdev u).isSome then o.map fun p => (p.1, p.2 ++ [e])
      else if isHigh u then some (u, []) else none
  | _ => o.map fun p => (p.1, p.2 ++ [e])

/-- The high surrogate that is open behind some events, with the events since. -/
def openHigh (events : List KeyboardEvent) : Option (UInt16 × List KeyboardEvent) :=
  events.foldl openHighStep none

/-- The surrogate that still waits, if the events in `cancels` end the waiting. -/
def waiting (cancels : KeyboardEvent → Bool) (o : Option (UInt16 × List KeyboardEvent)) :
    Option UInt16 :=
  o.bind fun p => if p.2.any cancels then none else some p.1

variable {o : Option (UInt16 × List KeyboardEvent)}

theorem waiting_some (cancels : KeyboardEvent → Bool) (p : UInt16 × List KeyboardEvent) :
    waiting cancels (some p) = if p.2.any cancels then none else some p.1 := rfl

theorem waiting_add (cancels : KeyboardEvent → Bool) (o : Option (UInt16 × List KeyboardEvent))
    (e : KeyboardEvent) : waiting cancels (o.map fun p => (p.1, p.2 ++ [e])) =
      if cancels e then none else waiting cancels o := by
  cases o with
  | none => simp [waiting]
  | some p => by_cases he : cancels e = true <;> simp [waiting, he]

/-- Another unit off the keyboard is waited for, or ends the waiting, on both sides alike. -/
theorem feed_waiting {u : UInt16} (hu : unicodeToEvdev u = none)
    (cancels : KeyboardEvent → Bool) (waits : Option UInt16) :
    (feed waits u).1 = waiting cancels (openHighStep o (.unicodePressed u)) := by
  simp only [openHighStep, hu]
  by_cases hhigh : isHigh u = true
  · rw [feed_high hhigh]
    simp [waiting, hhigh]
  · have hnone : (feed waits u).1 = none := by
      unfold feed
      rw [if_neg hhigh]
      split <;> rfl
    rw [hnone]
    simp [waiting, hhigh]

/-- A character of the keyboard is no surrogate. -/
theorem feed_mapped {u : UInt16} {p : UInt32 × Bool} (hu : unicodeToEvdev u = some p)
    (waits : Option UInt16) : feed waits u = (none, [.ofNat u.toNat]) := by
  have hascii : u.toNat < 0x80 := unicode_lt_of_mapped hu
  apply feed_other
  · rw [Bool.eq_false_iff, ne_eq, isHigh_iff]
    omega
  · rw [Bool.eq_false_iff, ne_eq, isLow_iff]
    omega

theorem pasteFeed_waiting (o : Option (UInt16 × List KeyboardEvent)) (e : KeyboardEvent) :
    (pasteFeed (waiting isScancodePress o) e).1 = waiting isScancodePress (openHighStep o e) := by
  cases e with
  | unicodePressed u =>
      cases hu : unicodeToEvdev u with
      | none =>
          rw [← feed_waiting hu isScancodePress (waiting isScancodePress o)]
          simp [pasteFeed, hu]
      | some p =>
          simp only [pasteFeed, openHighStep, hu, Option.isSome_some, if_true, waiting_add]
          rfl
  | pressed code extended =>
      exact (waiting_add isScancodePress o (.pressed code extended)).symm
  | released code extended =>
      exact (waiting_add isScancodePress o (.released code extended)).symm
  | unicodeReleased u => exact (waiting_add isScancodePress o (.unicodeReleased u)).symm
  | synchronize flags => exact (waiting_add isScancodePress o (.synchronize flags)).symm

theorem textFeed_waiting (o : Option (UInt16 × List KeyboardEvent)) (e : KeyboardEvent) :
    (textFeed (waiting isTypedPress o) e).1 = waiting isTypedPress (openHighStep o e) := by
  cases e with
  | unicodePressed u =>
      cases hu : unicodeToEvdev u with
      | none => exact feed_waiting hu isTypedPress _
      | some p =>
          have htyped : isTypedPress (.unicodePressed u) = true := by simp [isTypedPress, hu]
          simp only [textFeed, feed_mapped hu, openHighStep, hu, Option.isSome_some, if_true,
            waiting_add, htyped]
  | pressed code extended => exact (waiting_add isTypedPress o (.pressed code extended)).symm
  | released code extended => exact (waiting_add isTypedPress o (.released code extended)).symm
  | unicodeReleased u => exact (waiting_add isTypedPress o (.unicodeReleased u)).symm
  | synchronize flags => exact (waiting_add isTypedPress o (.synchronize flags)).symm

/-- The handler and the text make the same of an event, unless it is a low surrogate that
finds its partner in only one of them. -/
theorem pasteFeed_eq_textFeed_iff (o : Option (UInt16 × List KeyboardEvent)) (e : KeyboardEvent) :
    (pasteFeed (waiting isScancodePress o) e).2 = (textFeed (waiting isTypedPress o) e).2 ↔
      (isLowPress e = true → ∀ p ∈ o, p.2.any isScancodePress = p.2.any isTypedPress) := by
  cases e with
  | unicodePressed u =>
      cases hu : unicodeToEvdev u with
      | none =>
          have hpaste : pasteFeed (waiting isScancodePress o) (.unicodePressed u) =
              feed (waiting isScancodePress o) u := by
            simp [pasteFeed, hu]
          rw [hpaste, textFeed]
          -- a low surrogate looks at what waits: the two feeds differ by which press is typed
          by_cases hlow : isLow u = true
          · rw [feed_low hlow, feed_low hlow]
            cases o with
            | none => simp [waiting]
            | some p =>
                rw [waiting_some, waiting_some]
                constructor
                · rintro h - q ⟨⟩
                  revert h
                  cases p.2.any isScancodePress <;> cases p.2.any isTypedPress <;> simp
                · intro h
                  rw [h hlow p rfl]
          · -- any other unit does not look at what waits
            refine iff_of_true ?_ fun h => absurd h hlow
            unfold feed
            rw [if_neg hlow, if_neg hlow]
      | some p =>
          -- a mapped unit is below 0x80, hence no surrogate
          have hascii : u.toNat < 0x80 := unicode_lt_of_mapped hu
          have hlow : ¬ isLow u = true := by
            rw [isLow_iff]
            omega
          refine iff_of_true ?_ fun h => absurd h hlow
          simp [pasteFeed, textFeed, hu, feed_mapped hu]
  | _ => exact iff_of_true rfl fun h => by cases h

/-! ### Runs -/

section

variable {K : Type} (env : KeyboardEnv K) (keyboard : K)

/-- At every moment, what has been delivered is the text of the units so far. -/
def DecodesUtf16 (events : List KeyboardEvent) : Prop :=
  EachAfter (fun pre e => (env.handleAll (.init keyboard) (pre ++ [e])).delivered =
    decodeDropping (unitsOf (pre ++ [e]))) events

/-- Where a low surrogate comes, a scancode has been pressed since the high one exactly if a
character of the keyboard has. -/
def PairsUndisturbed (events : List KeyboardEvent) : Prop :=
  EachAfter (fun pre e => isLowPress e = true →
    ∀ p ∈ openHigh pre, p.2.any isScancodePress = p.2.any isTypedPress) events

variable {env keyboard} {events : List KeyboardEvent}

theorem openHigh_snoc (events : List KeyboardEvent) (e : KeyboardEvent) :
    openHigh (events ++ [e]) = openHighStep (openHigh events) e :=
  List.foldl_concat ..

theorem openHighStep_isHigh (ho : ∀ p ∈ o, isHigh p.1 = true) (e : KeyboardEvent) :
    ∀ p ∈ openHighStep o e, isHigh p.1 = true := by
  have hadd : ∀ p ∈ o.map fun p => (p.1, p.2 ++ [e]), isHigh p.1 = true := by
    intro p hp
    obtain ⟨q, hq, rfl⟩ := Option.mem_map.mp hp
    exact ho q hq
  cases e with
  | unicodePressed u =>
      show ∀ p ∈ (if (unicodeToEvdev u).isSome then _ else if isHigh u then _ else _), _
      split_ifs with hmapped hhigh
      · exact hadd
      · rintro p ⟨⟩
        exact hhigh
      · intro p hp
        cases hp
  | _ => exact hadd

/-- Only high surrogates wait. -/
theorem isHigh_of_mem_openHigh (events : List KeyboardEvent) :
    ∀ p ∈ openHigh events, isHigh p.1 = true := by
  induction events using List.reverseRecOn with
  | nil =>
      intro p hp
      cases hp
  | append_singleton events e ih =>
      rw [openHigh_snoc]
      exact openHighStep_isHigh ih e

theorem isHigh_of_mem_waiting {cancels : KeyboardEvent → Bool} (events : List KeyboardEvent) :
    ∀ high ∈ waiting cancels (openHigh events), isHigh high = true := by
  intro high hhigh
  obtain ⟨p, hp, hwaits⟩ := Option.bind_eq_some_iff.mp hhigh
  split at hwaits
  · cases hwaits
  · rw [← Option.some.inj hwaits]
    exact isHigh_of_mem_openHigh events p hp

theorem feedAll_waiting (events : List KeyboardEvent) :
    (feedAll (unitsOf events)).1 = waiting isTypedPress (openHigh events) := by
  induction events using List.reverseRecOn with
  | nil => rfl
  | append_singleton events e ih =>
      rw [decode_unitsOf_snoc, ih, textFeed_waiting, openHigh_snoc]

theorem handleAll_waiting (h : PasteWorks env) (events : List KeyboardEvent) :
    (env.handleAll (.init keyboard) events).cjkBuffer =
      ⟨"", waiting isScancodePress (openHigh events)⟩ := by
  induction events using List.reverseRecOn with
  | nil => rfl
  | append_singleton events e ih =>
      rw [KeyboardEnv.handleAll_snoc, openHigh_snoc, ← pasteFeed_waiting]
      exact (handle_pasteFeed h ih (isHigh_of_mem_waiting events) e).1

theorem delivered_snoc (h : PasteWorks env) (events : List KeyboardEvent) (e : KeyboardEvent) :
    (env.handleAll (.init keyboard) (events ++ [e])).delivered =
      (env.handleAll (.init keyboard) events).delivered ++
        (pasteFeed (waiting isScancodePress (openHigh events)) e).2 := by
  rw [KeyboardEnv.handleAll_snoc]
  exact (handle_pasteFeed h (handleAll_waiting h events) (isHigh_of_mem_waiting events) e).2

theorem decode_snoc (events : List KeyboardEvent) (e : KeyboardEvent) :
    decodeDropping (unitsOf (events ++ [e])) =
      decodeDropping (unitsOf events) ++
        (textFeed (waiting isTypedPress (openHigh events)) e).2 := by
  rw [← feedAll_eq, decode_unitsOf_snoc, feedAll_waiting, feedAll_eq]

/-- What holds after every event holds at the end. -/
theorem delivered_of_decodes (h : DecodesUtf16 env keyboard events) :
    (env.handleAll (.init keyboard) events).delivered = decodeDropping (unitsOf events) := by
  rcases List.eq_nil_or_concat events with rfl | ⟨events, e, rfl⟩
  · rfl
  · rw [List.concat_eq_append] at h ⊢
    exact (eachAfter_snoc.mp h).2

/-- The text is delivered exactly in those runs in which no pair is disturbed. -/
theorem decodes_utf16_iff (h : PasteWorks env) (keyboard : K) (events : List KeyboardEvent) :
    DecodesUtf16 env keyboard events ↔ PairsUndisturbed events := by
  induction events using List.reverseRecOn with
  | nil => exact iff_of_true eachAfter_nil eachAfter_nil
  | append_singleton events e ih =>
      rw [DecodesUtf16, eachAfter_snoc, PairsUndisturbed, eachAfter_snoc, ← DecodesUtf16, ih,
        ← PairsUndisturbed]
      apply and_congr_right
      intro hpairs
      rw [delivered_snoc h, decode_snoc, delivered_of_decodes (ih.mpr hpairs),
        List.append_cancel_left_eq]
      exact pasteFeed_eq_textFeed_iff (openHigh events) e

end

theorem plainKeyboard_works : PasteWorks plainKeyboard := ⟨rfl, rfl, fun _ => rfl⟩

/-- An emoji with its releases and a key before it. -/
theorem emoji_decoded : DecodesUtf16 plainKeyboard ()
    [.pressed 0x1E false, .unicodePressed 0xD83D, .unicodeReleased 0xD83D, .unicodePressed 0xDE00,
      .unicodeReleased 0xDE00, .unicodePressed 0x61] :=
  (decodes_utf16_iff plainKeyboard_works () _).mpr (by unfold PairsUndisturbed; decide +kernel)

/-- A scancode between its surrogates drops the emoji, and a character leaves them paired. -/
theorem disturbed_pairs :
    ((plainKeyboard.handleAll (.init ())
        [.unicodePressed 0xD83D, .pressed 0x1E false, .unicodePressed 0xDE00]).delivered = [] ∧
      decodeDropping (unitsOf
        [.unicodePressed 0xD83D, .pressed 0x1E false, .unicodePressed 0xDE00]) = ['😀']) ∧
    ((plainKeyboard.handleAll (.init ())
        [.unicodePressed 0xD83D, .unicodePressed 0x61, .unicodePressed 0xDE00]).delivered =
        ['a', '😀'] ∧
      decodeDropping (unitsOf
        [.unicodePressed 0xD83D, .unicodePressed 0x61, .unicodePressed 0xDE00]) = ['a']) := by
  decide +kernel

end LamcoRdp
