/-
LamcoRdp/Input/Keyboard.lean

Keyboard events.

A scancode goes through the `KeyboardHandler` of the input crate, which is a parameter, and
a Unicode event through `unicode_to_evdev`, as one key with or without Shift.  What is not
on that keyboard is pasted, if the fallback is on: its UTF-16 units are collected in a
`CjkPasteBuffer`, and a full character is put on the clipboard, followed by Ctrl+V.

The task keeps a log of what it asks of the session and of the clipboard.  Whether a
request succeeds is up to the environment, which may look at everything that has been
asked before.
-/
import Mathlib.Data.UInt
import LamcoRdp.Lib.Utf16

namespace LamcoRdp

/-! ### Keys

The key codes of evdev, named after the constants of `unicode_to_evdev`. -/

namespace Key

def space : UInt32 := 57
def one : UInt32 := 2
def two : UInt32 := 3
def three : UInt32 := 4
def four : UInt32 := 5
def five : UInt32 := 6
def six : UInt32 := 7
def seven : UInt32 := 8
def eight : UInt32 := 9
def nine : UInt32 := 10
def zero : UInt32 := 11
def minus : UInt32 := 12
def equal : UInt32 := 13
def tab : UInt32 := 15
def q : UInt32 := 16
def w : UInt32 := 17
def e : UInt32 := 18
def r : UInt32 := 19
def t : UInt32 := 20
def y : UInt32 := 21
def u : UInt32 := 22
def i : UInt32 := 23
def o : UInt32 := 24
def p : UInt32 := 25
def leftBrace : UInt32 := 26
def rightBrace : UInt32 := 27
def enter : UInt32 := 28
def a : UInt32 := 30
def s : UInt32 := 31
def d : UInt32 := 32
def f : UInt32 := 33
def g : UInt32 := 34
def h : UInt32 := 35
def j : UInt32 := 36
def k : UInt32 := 37
def l : UInt32 := 38
def semicolon : UInt32 := 39
def apostrophe : UInt32 := 40
def grave : UInt32 := 41
def backslash : UInt32 := 43
def z : UInt32 := 44
def x : UInt32 := 45
def c : UInt32 := 46
def v : UInt32 := 47
def b : UInt32 := 48
def n : UInt32 := 49
def m : UInt32 := 50
def comma : UInt32 := 51
def dot : UInt32 := 52
def slash : UInt32 := 53

end Key

/-- The rows of `unicode_to_evdev`: a code point, its key, and whether Shift is needed. -/
def evdevTable : List (UInt16 × UInt32 × Bool) :=
  [
    -- whitespace
    (0x20, Key.space, false), (0x09, Key.tab, false), (0x0A, Key.enter, false),
    (0x0D, Key.enter, false),
    -- digits
    (0x30, Key.zero, false), (0x31, Key.one, false), (0x32, Key.two, false),
    (0x33, Key.three, false), (0x34, Key.four, false), (0x35, Key.five, false),
    (0x36, Key.six, false), (0x37, Key.seven, false), (0x38, Key.eight, false),
    (0x39, Key.nine, false),
    -- lowercase letters
    (0x61, Key.a, false), (0x62, Key.b, false), (0x63, Key.c, false), (0x64, Key.d, false),
    (0x65, Key.e, false), (0x66, Key.f, false), (0x67, Key.g, false), (0x68, Key.h, false),
    (0x69, Key.i, false), (0x6A, Key.j, false), (0x6B, Key.k, false), (0x6C, Key.l, false),
    (0x6D, Key.m, false), (0x6E, Key.n, false), (0x6F, Key.o, false), (0x70, Key.p, false),
    (0x71, Key.q, false), (0x72, Key.r, false), (0x73, Key.s, false), (0x74, Key.t, false),
    (0x75, Key.u, false), (0x76, Key.v, false), (0x77, Key.w, false), (0x78, Key.x, false),
    (0x79, Key.y, false), (0x7A, Key.z, false),
    -- uppercase letters (same keys, with Shift)
    (0x41, Key.a, true), (0x42, Key.b, true), (0x43, Key.c, true), (0x44, Key.d, true),
    (0x45, Key.e, true), (0x46, Key.f, true), (0x47, Key.g, true), (0x48, Key.h, true),
    (0x49, Key.i, true), (0x4A, Key.j, true), (0x4B, Key.k, true), (0x4C, Key.l, true),
    (0x4D, Key.m, true), (0x4E, Key.n, true), (0x4F, Key.o, true), (0x50, Key.p, true),
    (0x51, Key.q, true), (0x52, Key.r, true), (0x53, Key.s, true), (0x54, Key.t, true),
    (0x55, Key.u, true), (0x56, Key.v, true), (0x57, Key.w, true), (0x58, Key.x, true),
    (0x59, Key.y, true), (0x5A, Key.z, true),
    -- symbols (unshifted)
    (0x2D, Key.minus, false), (0x3D, Key.equal, false), (0x5B, Key.leftBrace, false),
    (0x5D, Key.rightBrace, false), (0x5C, Key.backslash, false), (0x3B, Key.semicolon, false),
    (0x27, Key.apostrophe, false), (0x60, Key.grave, false), (0x2C, Key.comma, false),
    (0x2E, Key.dot, false), (0x2F, Key.slash, false),
    -- symbols (shifted)
    (0x21, Key.one, true), (0x40, Key.two, true), (0x23, Key.three, true),
    (0x24, Key.four, true), (0x25, Key.five, true), (0x5E, Key.six, true),
    (0x26, Key.seven, true), (0x2A, Key.eight, true), (0x28, Key.nine, true),
    (0x29, Key.zero, true), (0x5F, Key.minus, true), (0x2B, Key.equal, true),
    (0x7B, Key.leftBrace, true), (0x7D, Key.rightBrace, true), (0x7C, Key.backslash, true),
    (0x3A, Key.semicolon, true), (0x22, Key.apostrophe, true), (0x7E, Key.grave, true),
    (0x3C, Key.comma, true), (0x3E, Key.dot, true), (0x3F, Key.slash, true)
  ]

/-- `unicode_to_evdev`. -/
def unicodeToEvdev (cp : UInt16) : Option (UInt32 × Bool) := evdevTable.lookup cp

/-! ### The buffer of the fallback -/

/-- `char::from_u32`. -/
def charFromU32 (n : UInt32) : Option Char :=
  if h : n.isValidChar then some ⟨n, h⟩ else none

/-- `CjkPasteBuffer`: the characters to paste, and a high surrogate without its low one. -/
structure CjkPasteBuffer where
  buf : String
  pendingHighSurrogate : Option UInt16

namespace CjkPasteBuffer

/-- `CjkPasteBuffer::default`. -/
def init : CjkPasteBuffer := ⟨"", none⟩

/-- `push_utf16_unit`: whether there is a new character, and the buffer then. -/
def pushUtf16Unit (b : CjkPasteBuffer) (unit : UInt16) : Bool × CjkPasteBuffer :=
  if 0xD800 ≤ unit ∧ unit ≤ 0xDBFF then (false, { b with pendingHighSurrogate := some unit })
  else if 0xDC00 ≤ unit ∧ unit ≤ 0xDFFF then
    match b.pendingHighSurrogate with
    | none => (false, b)
    | some high =>
        let codePoint : UInt32 :=
          0x10000 + ((high - 0xD800).toUInt32 <<< (10 : UInt32)) + (unit - 0xDC00).toUInt32
        match charFromU32 codePoint with
        | some c => (true, ⟨b.buf.push c, none⟩)
        | none => (false, ⟨b.buf, none⟩)
  else
    match charFromU32 unit.toUInt32 with
    | some c => (true, ⟨b.buf.push c, none⟩)
    | none => (false, ⟨b.buf, none⟩)

/-- `is_empty`. -/
def isEmpty (b : CjkPasteBuffer) : Bool := b.buf.isEmpty && b.pendingHighSurrogate.isNone

/-- `take_text`: the text, and the buffer then. -/
def takeText (b : CjkPasteBuffer) : Option String × CjkPasteBuffer :=
  if b.buf.isEmpty then (none, ⟨b.buf, none⟩) else (some b.buf, ⟨"", none⟩)

end CjkPasteBuffer

/-! ### Events and requests -/

/-- `IronKeyboardEvent`. -/
inductive KeyboardEvent
  | pressed (code : UInt8) (extended : Bool)
  | released (code : UInt8) (extended : Bool)
  | unicodePressed (unicode : UInt16)
  | unicodeReleased (unicode : UInt16)
  | synchronize (flags : UInt8)
deriving DecidableEq

/-- `InputError`, the two kinds that the keyboard path makes. -/
inductive InputError
  | portalError (message : String)
  | invalidKeyEvent (message : String)

/-- `input_injection_err`. -/
def inputInjectionErr (e : String) : InputError :=
  .portalError ("Input injection error: " ++ e)

/-- What `KeyboardHandler` makes of a scancode: the input crate's `KeyboardEvent`. -/
inductive TranslatedKey
  | keyDown (keycode : UInt32)
  | keyRepeat (keycode : UInt32)
  | keyUp (keycode : UInt32)

/-- The key, whatever happens to it. -/
def TranslatedKey.keycode : TranslatedKey → UInt32
  | .keyDown keycode | .keyRepeat keycode | .keyUp keycode => keycode

/-- What the task asks for. -/
inductive KeyboardCall
  | keycode (code : Int32) (pressed : Bool)
  | keysym (keysym : UInt32) (pressed : Bool)
  | readData
  | writeText (text : String)
  | setPaused (paused : Bool)

/-- The configuration, and what is not part of the task: `K` are the states of the
`KeyboardHandler`. -/
structure KeyboardEnv (K : Type) where
  cjkPasteEnabled : Bool
  hasClipboardProvider : Bool
  hasPausedFlag : Bool
  handleKeyDown : K → UInt16 → Bool → Bool → Except InputError TranslatedKey × K
  handleKeyUp : K → UInt16 → Bool → Bool → Except InputError TranslatedKey × K
  /-- the error of the last request -/
  failure : List KeyboardCall → Option String
  /-- the answer to `read_data("text/plain")` -/
  readData : List KeyboardCall → Option (List UInt8)

/-- The keyboard's side of the batching task.  `delivered` are the characters that have been
typed or pasted. -/
structure KeyboardTask (K : Type) where
  keyboard : K
  cjkBuffer : CjkPasteBuffer
  calls : List KeyboardCall
  delivered : List Char

/-! ### The handler -/

section

variable {K : Type}

/-- Nothing has been asked for. -/
def KeyboardTask.init (keyboard : K) : KeyboardTask K := ⟨keyboard, .init, [], []⟩

/-- A request is made, and logged. -/
def KeyboardTask.request (s : KeyboardTask K) (call : KeyboardCall) : KeyboardTask K :=
  { s with calls := s.calls ++ [call] }

/-- Characters have been typed or pasted. -/
def KeyboardTask.deliver (s : KeyboardTask K) (text : List Char) : KeyboardTask K :=
  { s with delivered := s.delivered ++ text }

namespace KeyboardEnv

variable (env : KeyboardEnv K)

/-- Requests one after the other, up to the first that fails. -/
def inject (s : KeyboardTask K) : List KeyboardCall → Except InputError Unit × KeyboardTask K
  | [] => (.ok (), s)
  | call :: calls =>
      match env.failure (s.request call).calls with
      | some e => (.error (inputInjectionErr e), s.request call)
      | none => inject (s.request call) calls

/-- The flag that holds back the clipboard's own work, if there is one. -/
def pause (s : KeyboardTask K) (paused : Bool) : KeyboardTask K :=
  if env.hasPausedFlag then s.request (.setPaused paused) else s

/-- Ctrl+V. -/
def pasteKeys : List KeyboardCall :=
  [.keycode 29 true, .keycode 47 true, .keycode 47 false, .keycode 29 false]

/-- The paste of `flush_cjk_buffer`.  Only the clipboard's refusal ends it early. -/
def pasteText (s : KeyboardTask K) (text : String) : KeyboardTask K :=
  let s := s.request .readData
  let saved := (env.readData s.calls).bind Utf8.decode?
  let s := (env.pause s true).request (.writeText text)
  match env.failure s.calls with
  | some _ => env.pause s false
  | none =>
      let s := (pasteKeys.foldl .request s).deliver text.toList
      match saved with
      | some saved => env.pause (s.request (.writeText (String.ofList saved))) false
      | none => env.pause s false

/-- `flush_cjk_buffer`. -/
def flushCjkBuffer (s : KeyboardTask K) : KeyboardTask K :=
  match s.cjkBuffer.takeText with
  | (none, buffer) => { s with cjkBuffer := buffer }
  | (some text, buffer) =>
      let s := { s with cjkBuffer := buffer }
      if env.hasClipboardProvider then env.pasteText s text else s

/-- `handle_keyboard_event_impl`. -/
def handleKeyboardEventImpl (s : KeyboardTask K) :
    KeyboardEvent → Except InputError Unit × KeyboardTask K
  | .pressed code extended =>
      let s := if s.cjkBuffer.isEmpty then s else env.flushCjkBuffer s
      match env.handleKeyDown s.keyboard code.toUInt16 extended false with
      | (.error e, keyboard) => (.error e, { s with keyboard })
      | (.ok key, keyboard) =>
          env.inject { s with keyboard } [.keycode key.keycode.toInt32 true]
  | .released code extended =>
      match env.handleKeyUp s.keyboard code.toUInt16 extended false with
      | (.error e, keyboard) => (.error e, { s with keyboard })
      | (.ok (.keyUp keycode), keyboard) =>
          env.inject { s with keyboard } [.keycode keycode.toInt32 false]
      | (.ok _, keyboard) =>
          (.error (.invalidKeyEvent "Unexpected event type"), { s with keyboard })
  | .unicodePressed unicode =>
      match unicodeToEvdev unicode with
      | some (keycode, needsShift) =>
          let keys : List KeyboardCall := (if needsShift then [.keycode 42 true] else [])
            ++ [.keycode keycode.toInt32 true]
          match env.inject s keys with
          | (.ok (), s) => (.ok (), s.deliver [.ofNat unicode.toNat])
          | (.error e, s) => (.error e, s)
      | none =>
          if env.cjkPasteEnabled && env.hasClipboardProvider then
            match s.cjkBuffer.pushUtf16Unit unicode with
            | (true, buffer) => (.ok (), env.flushCjkBuffer { s with cjkBuffer := buffer })
            | (false, buffer) => (.ok (), { s with cjkBuffer := buffer })
          else env.inject s [.keysym (0x01000000 + unicode.toUInt32) true]
  | .unicodeReleased unicode =>
      match unicodeToEvdev unicode with
      | some (keycode, needsShift) =>
          env.inject s (.keycode keycode.toInt32 false ::
            if needsShift then [.keycode 42 false] else [])
      | none =>
          if !env.cjkPasteEnabled || !env.hasClipboardProvider then
            env.inject s [.keysym (0x01000000 + unicode.toUInt32) false]
          else (.ok (), s)
  | .synchronize _ => (.ok (), s)

/-- The events of a batch, one after the other; an error is logged. -/
def handleAll (s : KeyboardTask K) (events : List KeyboardEvent) : KeyboardTask K :=
  events.foldl (fun s event => (env.handleKeyboardEventImpl s event).2) s

/-- No request fails. -/
def Succeeds : Prop := ∀ calls, env.failure calls = none

variable {env} {s : KeyboardTask K}

theorem inject_of_succeeds (h : env.Succeeds) (s : KeyboardTask K) (calls : List KeyboardCall) :
    env.inject s calls = (.ok (), { s with calls := s.calls ++ calls }) := by
  induction calls generalizing s with
  | nil => rw [inject, List.append_nil]
  | cons call calls ih =>
      rw [inject, h, ih]
      simp only [KeyboardTask.request, List.append_assoc, List.singleton_append]

theorem handleAll_append (s : KeyboardTask K) (events events' : List KeyboardEvent) :
    env.handleAll s (events ++ events') = env.handleAll (env.handleAll s events) events' :=
  List.foldl_append

theorem handleAll_snoc (s : KeyboardTask K) (events : List KeyboardEvent) (event : KeyboardEvent) :
    env.handleAll s (events ++ [event]) =
      (env.handleKeyboardEventImpl (env.handleAll s events) event).2 := by
  rw [handleAll, List.foldl_concat]
  rfl

end KeyboardEnv

end

/-! ### The table -/

variable {u : UInt16} {k : UInt32} {shift : Bool}

theorem mem_evdevTable (h : unicodeToEvdev u = some (k, shift)) : (u, k, shift) ∈ evdevTable := by
  obtain ⟨pre, post, htable, -⟩ := List.lookup_eq_some_iff.mp h
  rw [htable]
  exact List.mem_append_right pre (List.mem_cons_self ..)

/-- The keyboard has no Shift among its characters' keys. -/
theorem keycode_ne_shift (h : unicodeToEvdev u = some (k, shift)) : k.toInt32 ≠ 42 := by
  have htable : evdevTable.all (fun p => p.2.1.toInt32 != 42) = true := by decide +kernel
  exact bne_iff_ne.mp (List.all_eq_true.mp htable _ (mem_evdevTable h))

/-- What is on the keyboard is ASCII. -/
theorem unicode_lt_of_mapped (h : unicodeToEvdev u = some (k, shift)) : u.toNat < 0x80 := by
  have htable : evdevTable.all (fun p => decide (p.1.toNat < 0x80)) = true := by decide +kernel
  exact of_decide_eq_true (List.all_eq_true.mp htable _ (mem_evdevTable h))

/-- A handler that leaves scancodes as they are, with the fallback, where nothing fails. -/
def plainKeyboard : KeyboardEnv Unit where
  cjkPasteEnabled := true
  hasClipboardProvider := true
  hasPausedFlag := true
  handleKeyDown _ code _ _ := (.ok (.keyDown code.toUInt32), ())
  handleKeyUp _ code _ _ := (.ok (.keyUp code.toUInt32), ())
  failure _ := none
  readData _ := none

end LamcoRdp
