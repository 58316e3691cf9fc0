/-
LamcoRdp/Clipboard/MutterListeners.lean

The Mutter clipboard across re-established sessions.

Each reconnect gives the clipboard a new session.  `rebind` writes the new path,
enables the clipboard there, advances the generation and wakes the two listeners;
a listener reads the generation, subscribes on the path it then finds, stores the
generation and waits.  The stream of a destroyed session does not end, it goes
silent, so that a listener gets to the new session through the wake-up alone, and
`health_check` sees a listener left behind by its generation alone.

Both rest on the last two steps of `rebind`.  Wherever the generation has been
advanced since the path was last written, a healthy answer means that the streams
are those of the current session; wherever a wake-up has been sent since then, a
listener that waits with none left is on the current session.  A `rebind` whose
`enable` fails returns before either, and the listeners stay where they are.
-/
import LamcoRdp.Lib.Runs
import Mathlib.Logic.Function.Basic

namespace LamcoRdp

open Runs

/-- The answer of `enable`, as `rebind` tells them apart. -/
inductive EnableAnswer
  | enabled
  | alreadyEnabled
  | failed
  deriving DecidableEq

/-- Where a call of `rebind` is. -/
inductive RebindCall
  | notCalled
  /-- the path is written -/
  | enabling
  /-- in `enabled.lock()` -/
  | marking
  /-- before `fetch_add` -/
  | advancing
  /-- before `rebind_tx.send` -/
  | waking
  | rebound
  /-- `enable` failed -/
  | failed
  deriving DecidableEq

/-- Where a listener is. -/
inductive ListenerLoop (Path : Type*)
  /-- at the top of the loop -/
  | reading
  /-- the generation is read -/
  | subscribing (generation : UInt64)
  /-- the path is read, `AddMatch` is on its way -/
  | binding (generation : UInt64) (path : Path)
  /-- subscribed -/
  | storing (generation : UInt64) (stream : Path)
  | waiting (stream : Path)
  /-- in one of the two `sleep` -/
  | sleeping
  | ended
  deriving DecidableEq

/-- The generation that the listener has read and not yet stored. -/
def ListenerLoop.generation? {Path : Type*} : ListenerLoop Path → Option UInt64
  | .subscribing generation => some generation
  | .binding generation _ => some generation
  | .storing generation _ => some generation
  | _ => none

/-- The session of the stream that the listener holds. -/
def ListenerLoop.stream? {Path : Type*} : ListenerLoop Path → Option Path
  | .storing _ stream => some stream
  | .waiting stream => some stream
  | _ => none

/-- A listener: its loop, and what the provider keeps for it. -/
structure Listener (Path : Type*) where
  loop : ListenerLoop Path
  /-- `owner_gen`, `transfer_gen` -/
  stored : UInt64
  /-- messages of `rebind_rx` not yet received -/
  pending : ℕ

/-- The listener has read or stored the generation. -/
def Listener.Holds {Path : Type*} (l : Listener Path) (generation : UInt64) : Prop :=
  l.stored = generation ∨ l.loop.generation? = some generation

instance {Path : Type*} (l : Listener Path) (generation : UInt64) :
    Decidable (l.Holds generation) :=
  inferInstanceAs (Decidable (_ ∨ _))

/-- The generation and the path that the listener read at the top of the loop. -/
def Listener.bound? {Path : Type*} (l : Listener Path) : Option (UInt64 × Path) :=
  match l.loop with
  | .binding generation path => some (generation, path)
  | .storing generation stream => some (generation, stream)
  | .waiting stream => some (l.stored, stream)
  | _ => none

/-- The two signals of the provider. -/
inductive ListenerKind
  | selectionOwnerChanged
  | selectionTransfer
  deriving DecidableEq

/-- The provider, with the calls of `rebind` that are under way. -/
structure MutterClipboard (Path : Type*) where
  rdSessionPath : Path
  enabled : Bool
  sessionGeneration : UInt64
  rebinds : ℕ → RebindCall
  listeners : ListenerKind → Listener Path

/-- A step of a call of `rebind`, or of a listener. -/
inductive MutterStep (Path : Type*)
  /-- call `i` of `rebind` writes the path -/
  | rebind (i : ℕ) (path : Path)
  | answer (i : ℕ) (answer : EnableAnswer)
  | markEnabled (i : ℕ)
  | advance (i : ℕ)
  | wake (i : ℕ)
  | readGeneration (k : ListenerKind)
  | readPath (k : ListenerKind)
  | subscribed (k : ListenerKind)
  | subscribeFailed (k : ListenerKind)
  | storeGeneration (k : ListenerKind)
  /-- `rebind_rx.recv()` -/
  | recv (k : ListenerKind)
  | streamEnded (k : ListenerKind)
  | slept (k : ListenerKind)
  /-- the shutdown message, or an orchestrator that is gone -/
  | stop (k : ListenerKind)
  deriving DecidableEq

namespace MutterClipboard

variable {Path : Type*}

/-- The capacity of `rebind_tx`. -/
def capacity : ℕ := 8

/-- The provider has just been made. -/
def initial (path : Path) : MutterClipboard Path where
  rdSessionPath := path
  enabled := true
  sessionGeneration := 0
  rebinds := fun _ => .notCalled
  listeners := fun _ => ⟨.reading, 0, 0⟩

/-- A call of `rebind` goes on. -/
def setRebind (s : MutterClipboard Path) (i : ℕ) (call : RebindCall) : MutterClipboard Path :=
  { s with rebinds := Function.update s.rebinds i call }

/-- A listener goes on. -/
def setListener (s : MutterClipboard Path) (k : ListenerKind) (listener : Listener Path) :
    MutterClipboard Path :=
  { s with listeners := Function.update s.listeners k listener }

/-- A listener goes on. -/
def goto (s : MutterClipboard Path) (k : ListenerKind) (loop : ListenerLoop Path) :
    MutterClipboard Path :=
  s.setListener k { s.listeners k with loop }

/-- One step of a call of `rebind`. -/
def rebindStep? (s : MutterClipboard Path) : MutterStep Path → Option (MutterClipboard Path)
  | .rebind i path =>
      if s.rebinds i = .notCalled then
        some ({ s with rdSessionPath := path }.setRebind i .enabling)
      else none
  | .answer i answer =>
      if s.rebinds i = .enabling then
        match answer with
        | .enabled => some (s.setRebind i .marking)
        | .alreadyEnabled => some (s.setRebind i .marking)
        -- `return Err(e)`, the new path stays
        | .failed => some (s.setRebind i .failed)
      else none
  | .markEnabled i =>
      if s.rebinds i = .marking then some ({ s with enabled := true }.setRebind i .advancing)
      else none
  | .advance i =>
      if s.rebinds i = .advancing then
        some ({ s with sessionGeneration := s.sessionGeneration + 1 }.setRebind i .waking)
      else none
  | .wake i =>
      if s.rebinds i = .waking then
        some ({ s with listeners := fun k =>
          { s.listeners k with pending := (s.listeners k).pending + 1 } }.setRebind i .rebound)
      else none
  | _ => none

/-- One step of a listener. -/
def listenerStep? (s : MutterClipboard Path) : MutterStep Path → Option (MutterClipboard Path)
  | .readGeneration k =>
      match (s.listeners k).loop with
      | .reading => some (s.goto k (.subscribing s.sessionGeneration))
      | _ => none
  | .readPath k =>
      match (s.listeners k).loop with
      | .subscribing generation => some (s.goto k (.binding generation s.rdSessionPath))
      | _ => none
  | .subscribed k =>
      match (s.listeners k).loop with
      | .binding generation path => some (s.goto k (.storing generation path))
      | _ => none
  | .subscribeFailed k =>
      match (s.listeners k).loop with
      | .binding _ _ => some (s.goto k .sleeping)
      | _ => none
  | .storeGeneration k =>
      match (s.listeners k).loop with
      | .storing generation stream =>
          some (s.setListener k
            ⟨.waiting stream, generation, (s.listeners k).pending⟩)
      | _ => none
  | .recv k =>
      match (s.listeners k).loop, (s.listeners k).pending with
      | .waiting _, pending + 1 =>
          -- a receiver that lags behind gets `Lagged` and then what the channel still holds
          some (s.setListener k ⟨.reading, (s.listeners k).stored,
            if capacity < pending + 1 then capacity else pending⟩)
      | _, _ => none
  | .streamEnded k =>
      match (s.listeners k).loop with
      | .waiting _ => some (s.goto k .sleeping)
      | _ => none
  | .slept k =>
      match (s.listeners k).loop with
      | .sleeping => some (s.goto k .reading)
      | _ => none
  | .stop k =>
      match (s.listeners k).loop with
      | .waiting _ => some (s.goto k .ended)
      | .sleeping => some (s.goto k .ended)
      | _ => none
  | _ => none

/-- One step of a call or of a listener, `none` where it cannot be taken. -/
def step? (s : MutterClipboard Path) (e : MutterStep Path) : Option (MutterClipboard Path) :=
  (s.rebindStep? e).or (s.listenerStep? e)

/-- `health_check` of the provider. -/
def healthCheck (s : MutterClipboard Path) : Except String Unit :=
  let current := s.sessionGeneration
  let owner := (s.listeners .selectionOwnerChanged).stored
  let transfer := (s.listeners .selectionTransfer).stored
  if s.enabled = false then .error "Mutter clipboard not enabled"
  else if owner ≠ current ∨ transfer ≠ current then
    .error s!"clipboard signal listeners stale (session gen {current}; SelectionOwnerChanged gen {owner}, SelectionTransfer gen {transfer}) — copy/paste would be silently dead"
  else .ok ()

theorem stored_of_healthCheck {s : MutterClipboard Path} (h : s.healthCheck = .ok ())
    (k : ListenerKind) : (s.listeners k).stored = s.sessionGeneration := by
  simp only [healthCheck] at h
  split_ifs at h with henabled hstale
  obtain ⟨howner, htransfer⟩ := not_or.mp hstale
  cases k
  · exact not_not.mp howner
  · exact not_not.mp htransfer

/-! ### What must hold -/

/-- A healthy answer means that the streams are those of the current session. -/
def HealthyBound (s : MutterClipboard Path) : Prop :=
  s.healthCheck = .ok () →
    ∀ k stream, (s.listeners k).loop.stream? = some stream → stream = s.rdSessionPath

/-- A listener that waits, and that no wake-up is on its way to, is on the current
session. -/
def WaitingBound (s : MutterClipboard Path) : Prop :=
  ∀ k stream, (s.listeners k).loop = .waiting stream → (s.listeners k).pending = 0 →
    stream = s.rdSessionPath

/-- The generation does not come back to one that a listener still holds.  It is a `u64`:
this takes 2^64 calls while the listener stands still. -/
def Fresh (s : MutterClipboard Path) : MutterStep Path → Prop
  | .advance _ => ∀ k, ¬ (s.listeners k).Holds (s.sessionGeneration + 1)
  | _ => True

/-- No listener lets its stream go while the generation it stored is the current one. -/
def Keeps (s : MutterClipboard Path) : MutterStep Path → Prop
  | .recv k => (s.listeners k).stored ≠ s.sessionGeneration
  | .streamEnded k => (s.listeners k).stored ≠ s.sessionGeneration
  | .stop k => (s.listeners k).stored ≠ s.sessionGeneration
  | _ => True

/-- The step writes the path. -/
def writes : MutterStep Path → Bool
  | .rebind _ _ => true
  | _ => false

/-- The step advances the generation. -/
def advances : MutterStep Path → Bool
  | .advance _ => true
  | _ => false

/-- The step wakes the listeners. -/
def wakes : MutterStep Path → Bool
  | .wake _ => true
  | _ => false

/-! ### What a step can do -/

/-- What a step of its own makes of the listener `k`. -/
inductive ListenerMove (s : MutterClipboard Path) (k : ListenerKind) :
    MutterStep Path → Listener Path → Prop
  | readGeneration (hloop : (s.listeners k).loop = .reading) :
      ListenerMove s k (.readGeneration k)
        { s.listeners k with loop := .subscribing s.sessionGeneration }
  | readPath {generation : UInt64} (hloop : (s.listeners k).loop = .subscribing generation) :
      ListenerMove s k (.readPath k)
        { s.listeners k with loop := .binding generation s.rdSessionPath }
  | subscribed {generation : UInt64} {path : Path}
      (hloop : (s.listeners k).loop = .binding generation path) :
      ListenerMove s k (.subscribed k) { s.listeners k with loop := .storing generation path }
  | stored {generation : UInt64} {stream : Path}
      (hloop : (s.listeners k).loop = .storing generation stream) :
      ListenerMove s k (.storeGeneration k)
        ⟨.waiting stream, generation, (s.listeners k).pending⟩
  /-- without a stream, before and after -/
  | passed {e : MutterStep Path} {loop : ListenerLoop Path}
      (hbefore : (s.listeners k).loop.stream? = none)
      (hloop : loop = .reading ∨ loop = .sleeping ∨ loop = .ended)
      (hstore : ∀ k, e ≠ .storeGeneration k) :
      ListenerMove s k e { s.listeners k with loop }
  /-- the stream is dropped -/
  | dropped {e : MutterStep Path} {loop : ListenerLoop Path} {pending : ℕ}
      (hkeeps : s.Keeps e → (s.listeners k).stored ≠ s.sessionGeneration)
      (hloop : loop = .reading ∨ loop = .sleeping ∨ loop = .ended)
      (hstore : ∀ k, e ≠ .storeGeneration k) :
      ListenerMove s k e ⟨loop, (s.listeners k).stored, pending⟩

/-- The steps, by what they change of the path, the generation and the listeners. -/
inductive Moves (s : MutterClipboard Path) : MutterStep Path → MutterClipboard Path → Prop
  | written {i : ℕ} {path : Path} {t : MutterClipboard Path}
      (hgeneration : t.sessionGeneration = s.sessionGeneration)
      (hlisteners : t.listeners = s.listeners) : Moves s (.rebind i path) t
  | silent {e : MutterStep Path} {t : MutterClipboard Path}
      (hpath : t.rdSessionPath = s.rdSessionPath)
      (hgeneration : t.sessionGeneration = s.sessionGeneration)
      (hlisteners : t.listeners = s.listeners) (hstore : ∀ k, e ≠ .storeGeneration k)
      (hmark : advances e = false ∧ wakes e = false) : Moves s e t
  | advanced {i : ℕ} {t : MutterClipboard Path} (hpath : t.rdSessionPath = s.rdSessionPath)
      (hgeneration : t.sessionGeneration = s.sessionGeneration + 1)
      (hlisteners : t.listeners = s.listeners) : Moves s (.advance i) t
  | woken {i : ℕ} {t : MutterClipboard Path} (hpath : t.rdSessionPath = s.rdSessionPath)
      (hgeneration : t.sessionGeneration = s.sessionGeneration)
      (hlisteners : ∀ k, t.listeners k =
        { s.listeners k with pending := (s.listeners k).pending + 1 }) : Moves s (.wake i) t
  | listener {e : MutterStep Path} {k : ListenerKind} {l : Listener Path}
      (hmove : ListenerMove s k e l) (hmark : advances e = false ∧ wakes e = false) :
      Moves s e (s.setListener k l)

theorem moves_of_rebindStep? {s t : MutterClipboard Path} {e : MutterStep Path}
    (h : s.rebindStep? e = some t) : Moves s e t := by
  unfold rebindStep? at h
  split at h
  · obtain ⟨-, rfl⟩ := Option.ite_none_right_eq_some.mp h |>.imp_right Option.some.inj
    exact .written rfl rfl
  · obtain ⟨-, h⟩ := Option.ite_none_right_eq_some.mp h
    split at h
    all_goals
      obtain rfl := Option.some.inj h
      exact .silent rfl rfl rfl nofun ⟨rfl, rfl⟩
  · obtain ⟨-, rfl⟩ := Option.ite_none_right_eq_some.mp h |>.imp_right Option.some.inj
    exact .silent rfl rfl rfl nofun ⟨rfl, rfl⟩
  · obtain ⟨-, rfl⟩ := Option.ite_none_right_eq_some.mp h |>.imp_right Option.some.inj
    exact .advanced rfl rfl rfl
  · obtain ⟨-, rfl⟩ := Option.ite_none_right_eq_some.mp h |>.imp_right Option.some.inj
    exact .woken rfl rfl fun _ => rfl
  · cases h

theorem moves_of_listenerStep? {s t : MutterClipboard Path} {e : MutterStep Path}
    (h : s.listenerStep? e = some t) : Moves s e t := by
  unfold listenerStep? at h
  split at h
  -- one case for each place of the loop, and no other place has a step
  case h_10 => cases h
  all_goals
    split at h
    rotate_right
    · cases h
    rename_i hloop
  · obtain rfl := Option.some.inj h
    exact .listener (.readGeneration hloop) ⟨rfl, rfl⟩
  · obtain rfl := Option.some.inj h
    exact .listener (.readPath hloop) ⟨rfl, rfl⟩
  · obtain rfl := Option.some.inj h
    exact .listener (.subscribed hloop) ⟨rfl, rfl⟩
  · obtain rfl := Option.some.inj h
    refine .listener (.passed ?_ (.inr (.inl rfl)) nofun) ⟨rfl, rfl⟩
    rw [hloop]
    rfl
  · obtain rfl := Option.some.inj h
    exact .listener (.stored hloop) ⟨rfl, rfl⟩
  · obtain rfl := Option.some.inj h
    exact .listener (.dropped id (.inl rfl) nofun) ⟨rfl, rfl⟩
  · obtain rfl := Option.some.inj h
    exact .listener (.dropped id (.inr (.inl rfl)) nofun) ⟨rfl, rfl⟩
  · obtain rfl := Option.some.inj h
    refine .listener (.passed ?_ (.inl rfl) nofun) ⟨rfl, rfl⟩
    rw [hloop]
    rfl
  · obtain rfl := Option.some.inj h
    exact .listener (.dropped id (.inr (.inr rfl)) nofun) ⟨rfl, rfl⟩
  · obtain rfl := Option.some.inj h
    refine .listener (.passed ?_ (.inr (.inr rfl)) nofun) ⟨rfl, rfl⟩
    rw [‹(s.listeners _).loop = _›]
    rfl

theorem moves_of_step? {s t : MutterClipboard Path} {e : MutterStep Path}
    (h : s.step? e = some t) : Moves s e t := by
  rw [step?, Option.or_eq_some_iff] at h
  obtain h | ⟨-, h⟩ := h
  · exact moves_of_rebindStep? h
  · exact moves_of_listenerStep? h

theorem listeners_setListener (s : MutterClipboard Path) (k : ListenerKind) (l : Listener Path)
    {P : ListenerKind → Listener Path → Prop} (hk : P k l)
    (hother : ∀ k', k' ≠ k → P k' (s.listeners k')) (k' : ListenerKind) :
    P k' ((s.setListener k l).listeners k') :=
  (Function.forall_update_iff s.listeners P).mpr ⟨hk, hother⟩ k'

/-! ### What is kept -/

/-- A listener whose stored generation is the current one has read no other since. -/
def ReadsCurrent (s : MutterClipboard Path) : Prop :=
  ∀ k generation, (s.listeners k).stored = s.sessionGeneration →
    (s.listeners k).loop.generation? = some generation → generation = s.sessionGeneration

/-- A listener that read the current generation went on to the current path. -/
def GenerationBound (s : MutterClipboard Path) : Prop :=
  ∀ k generation path, (s.listeners k).bound? = some (generation, path) →
    generation = s.sessionGeneration → path = s.rdSessionPath

/-- A listener that no wake-up is on its way to went on to the current path. -/
def WakeBound (s : MutterClipboard Path) : Prop :=
  ∀ k generation path, (s.listeners k).bound? = some (generation, path) →
    (s.listeners k).pending = 0 → path = s.rdSessionPath

/-- A listener that has stored a generation holds a stream while that is the current
one. -/
def KeepsBound (es : List (MutterStep Path)) (s : MutterClipboard Path) : Prop :=
  ∀ k, .storeGeneration k ∈ es → (s.listeners k).stored = s.sessionGeneration →
    (s.listeners k).loop.stream? ≠ none

theorem holds_of_bound? {l : Listener Path} {generation : UInt64} {path : Path}
    (h : l.bound? = some (generation, path)) : l.Holds generation := by
  rcases l with ⟨loop, stored, pending⟩
  cases loop <;> cases h
  · exact .inr rfl
  · exact .inr rfl
  · exact .inl rfl

/-- A listener comes to a path by reading it. -/
theorem ListenerMove.bound? {s : MutterClipboard Path} {k : ListenerKind}
    {e : MutterStep Path} {l : Listener Path} {generation : UInt64} {path : Path}
    (hmove : ListenerMove s k e l) (h : l.bound? = some (generation, path)) :
    path = s.rdSessionPath ∨
      (s.listeners k).bound? = some (generation, path) ∧
        l.pending = (s.listeners k).pending := by
  cases hmove with
  | readGeneration => cases h
  | readPath =>
      cases h
      exact .inl rfl
  | subscribed hloop | stored hloop =>
      refine .inr ⟨?_, rfl⟩
      rw [Listener.bound?, hloop]
      exact h
  | passed _ hloop _ | dropped _ hloop _ =>
      rcases hloop with rfl | rfl | rfl <;> cases h

theorem readsCurrent_step {s t : MutterClipboard Path} {e : MutterStep Path}
    (hmove : Moves s e t) (hfresh : s.Fresh e) (h : s.ReadsCurrent) : t.ReadsCurrent := by
  cases hmove with
  -- the generation and the listeners are those from before
  | written hgeneration hlisteners | silent _ hgeneration hlisteners =>
      rw [ReadsCurrent, hgeneration, hlisteners]
      exact h
  | advanced _ hgeneration hlisteners =>
      rw [ReadsCurrent, hgeneration, hlisteners]
      -- a new generation: no listener has stored it yet
      exact fun k _ hstored => absurd (.inl hstored) (hfresh k)
  | woken _ hgeneration hlisteners =>
      simp only [ReadsCurrent, hgeneration, hlisteners]
      exact h
  | @listener _ k l hmove =>
      refine listeners_setListener s k l (P := fun _ l => ∀ generation,
        l.stored = s.sessionGeneration → l.loop.generation? = some generation →
          generation = s.sessionGeneration) ?_ fun k' _ => h k'
      intro generation hstored hread
      cases hmove with
      | readGeneration => exact (Option.some.inj hread).symm
      -- what has been read is the present generation
      | readPath hloop | subscribed hloop =>
          refine h k generation hstored ?_
          rw [hloop]
          exact hread
      | stored => cases hread
      | passed _ hloop _ | dropped _ hloop _ =>
          rcases hloop with rfl | rfl | rfl <;> cases hread

theorem generationBound_step {s t : MutterClipboard Path} {e : MutterStep Path}
    (hmove : Moves s e t) (hwrites : writes e = false) (hadvances : advances e = false)
    (h : s.GenerationBound) : t.GenerationBound := by
  cases hmove with
  | written => cases hwrites
  | silent hpath hgeneration hlisteners =>
      rw [GenerationBound, hpath, hgeneration, hlisteners]
      exact h
  | advanced => cases hadvances
  | woken hpath hgeneration hlisteners =>
      simp only [GenerationBound, hpath, hgeneration, hlisteners]
      exact h
  | @listener _ k l hmove =>
      refine listeners_setListener s k l (P := fun _ l => ∀ generation path,
        l.bound? = some (generation, path) → generation = s.sessionGeneration →
          path = s.rdSessionPath) ?_ fun k' _ => h k'
      intro generation path hbound hcurrent
      obtain hpath | ⟨hbefore, -⟩ := hmove.bound? hbound
      · exact hpath
      · exact h k generation path hbefore hcurrent

/-- Whoever holds a generation when it is advanced holds an older one. -/
theorem generationBound_advance {s t : MutterClipboard Path} {e : MutterStep Path}
    (hmove : Moves s e t) (hfresh : s.Fresh e) (hadvances : advances e = true) :
    t.GenerationBound := by
  cases hmove with
  | written => cases hadvances
  | silent _ _ _ _ hmark | listener _ hmark => rw [hmark.1] at hadvances; cases hadvances
  | woken => cases hadvances
  | advanced _ hgeneration hlisteners =>
      rw [GenerationBound, hgeneration, hlisteners]
      rintro k generation path hbound rfl
      exact absurd (holds_of_bound? hbound) (hfresh k)

theorem wakeBound_step {s t : MutterClipboard Path} {e : MutterStep Path}
    (hmove : Moves s e t) (hwrites : writes e = false) (h : s.WakeBound) : t.WakeBound := by
  cases hmove with
  | written => cases hwrites
  | silent hpath _ hlisteners | advanced hpath _ hlisteners =>
      rw [WakeBound, hpath, hlisteners]
      exact h
  | woken _ _ hlisteners =>
      intro k generation path _ hpending
      rw [hlisteners] at hpending
      exact absurd hpending (Nat.succ_ne_zero _)
  | @listener _ k l hmove =>
      refine listeners_setListener s k l (P := fun _ l => ∀ generation path,
        l.bound? = some (generation, path) → l.pending = 0 → path = s.rdSessionPath) ?_
          fun k' _ => h k'
      intro generation path hbound hpending
      obtain hpath | ⟨hbefore, hsame⟩ := hmove.bound? hbound
      · exact hpath
      · exact h k generation path hbefore (hsame ▸ hpending)

/-- A wake-up is on its way to every listener. -/
theorem wakeBound_wake {s t : MutterClipboard Path} {e : MutterStep Path}
    (hmove : Moves s e t) (hwakes : wakes e = true) : t.WakeBound := by
  cases hmove with
  | written | advanced => cases hwakes
  | silent _ _ _ _ hmark | listener _ hmark => rw [hmark.2] at hwakes; cases hwakes
  | woken _ _ hlisteners =>
      intro k generation path _ hpending
      rw [hlisteners] at hpending
      exact absurd hpending (Nat.succ_ne_zero _)

theorem keepsBound_step {es : List (MutterStep Path)} {s t : MutterClipboard Path}
    {e : MutterStep Path} (hmove : Moves s e t) (hfresh : s.Fresh e) (hkeeps : s.Keeps e)
    (h : KeepsBound es s) : KeepsBound (es ++ [e]) t := by
  -- only its own step stores a generation
  have hold : ∀ {k}, .storeGeneration k ∈ es ++ [e] → (∀ k, e ≠ .storeGeneration k) →
      .storeGeneration k ∈ es := by
    intro k hmem hstore
    rcases List.mem_append.mp hmem with hmem | hmem
    · exact hmem
    · exact absurd (List.mem_singleton.mp hmem).symm (hstore k)
  cases hmove with
  | written hgeneration hlisteners =>
      rw [KeepsBound, hgeneration, hlisteners]
      exact fun k hmem => h k (hold hmem nofun)
  | silent _ hgeneration hlisteners hstore =>
      rw [KeepsBound, hgeneration, hlisteners]
      exact fun k hmem => h k (hold hmem hstore)
  -- a new generation: no listener has stored it yet
  | advanced _ hgeneration hlisteners =>
      rw [KeepsBound, hgeneration, hlisteners]
      exact fun k _ hstored => absurd (.inl hstored) (hfresh k)
  | woken _ hgeneration hlisteners =>
      simp only [KeepsBound, hgeneration, hlisteners]
      exact fun k hmem => h k (hold hmem nofun)
  | @listener _ k l hmove =>
      refine listeners_setListener s k l (P := fun k l => .storeGeneration k ∈ es ++ [e] →
        l.stored = s.sessionGeneration → l.loop.stream? ≠ none) ?_ ?_
      · intro hmem hstored hnone
        cases hmove with
        -- a listener that reads again has not yet given its stream up
        | readGeneration hloop | readPath hloop =>
            refine h k (hold hmem nofun) hstored ?_
            rw [hloop]
            rfl
        | subscribed | stored => cases hnone
        | passed hbefore _ hstore => exact h k (hold hmem hstore) hstored hbefore
        | dropped hleft => exact hleft hkeeps hstored
      · -- for the other listeners only the log has grown
        intro k' hne hmem
        rcases List.mem_append.mp hmem with hmem | hmem
        · exact h k' hmem
        · cases List.mem_singleton.mp hmem
          cases hmove with
          | stored => exact absurd rfl hne
          | passed _ _ hstore | dropped _ _ hstore => exact absurd rfl (hstore k')

/-! ### Along a run -/

variable {path : Path} {es : List (MutterStep Path)} {s : MutterClipboard Path}

theorem readsCurrent_of_run (h : Run (Guarded (StepOf step?) Fresh) (initial path) es s) :
    s.ReadsCurrent :=
  h.invariant (fun _ _ _ hread => by cases hread)
    fun hs hst => readsCurrent_step (moves_of_step? hst.1) hst.2 hs

theorem generationBound_of_run (h : Run (Guarded (StepOf step?) Fresh) (initial path) es s)
    (hsince : Since advances writes es = true) : s.GenerationBound := by
  refine h.since (fun _ _ _ hbound => by cases hbound) ?_ ?_ hsince
  · intro _ r e t _ hst _ hadvances
    exact generationBound_advance (moves_of_step? hst.1) hst.2 hadvances
  · intro _ r e t _ hst hwrites hr
    cases hadvances : advances e
    · exact generationBound_step (moves_of_step? hst.1) hwrites hadvances hr
    · exact generationBound_advance (moves_of_step? hst.1) hst.2 hadvances

theorem wakeBound_of_run (h : Run (Guarded (StepOf step?) Fresh) (initial path) es s)
    (hsince : Since wakes writes es = true) : s.WakeBound := by
  refine h.since (fun _ _ _ hbound => by cases hbound) ?_ ?_ hsince
  · intro _ r e t _ hst _ hwakes
    exact wakeBound_wake (moves_of_step? hst.1) hwakes
  · intro _ r e t _ hst hwrites hr
    exact wakeBound_step (moves_of_step? hst.1) hwrites hr

theorem healthyBound (hreads : s.ReadsCurrent) (hbound : s.GenerationBound) :
    s.HealthyBound := by
  intro hhealth k stream hstream
  have hstored := stored_of_healthCheck hhealth k
  rcases hl : s.listeners k with ⟨loop, stored, pending⟩
  rw [hl] at hstream hstored
  cases loop <;> cases hstream
  case storing generation =>
    have hread : generation = s.sessionGeneration :=
      hreads k generation (hl ▸ hstored) (hl ▸ rfl)
    exact hbound k generation stream (hl ▸ rfl) hread
  case waiting => exact hbound k stored stream (hl ▸ rfl) hstored

end MutterClipboard

open MutterClipboard

variable {Path : Type*} {path : Path} {es : List (MutterStep Path)}
  {s : MutterClipboard Path}

/-- Wherever the generation has been advanced since the path was last written, a healthy
answer means that the streams are those of the current session; wherever a wake-up has
been sent since then, a listener that waits with none left is on the current session.
Where moreover no stream is let go while its generation is the current one, and both
listeners have subscribed once, a healthy answer means that both hold a stream. -/
theorem mutter_listeners_bound
    (h : Run (Guarded (StepOf step?) Fresh) (initial path) es s) :
    (Since advances writes es = true → s.HealthyBound) ∧
      (Since wakes writes es = true → s.WaitingBound) ∧
      (Run (Guarded (StepOf step?) fun s e => s.Fresh e ∧ s.Keeps e) (initial path) es s →
        (∀ k, .storeGeneration k ∈ es) → Since advances writes es = true →
        s.healthCheck = .ok () →
        ∀ k, (s.listeners k).loop.stream? = some s.rdSessionPath) := by
  refine ⟨fun hsince => ?_, fun hsince => ?_, fun hkept hstores hsince hhealth k => ?_⟩
  · exact healthyBound (readsCurrent_of_run h) (generationBound_of_run h hsince)
  · intro k stream hloop hpending
    refine wakeBound_of_run h hsince k (s.listeners k).stored stream ?_ hpending
    rw [Listener.bound?, hloop]
  · have hbound : KeepsBound es s := by
      refine hkept.invariant_trace (fun _ hmem => absurd hmem List.not_mem_nil) ?_
      intro _ r e t _ hr hst
      exact keepsBound_step (moves_of_step? hst.1) hst.2.1 hst.2.2 hr
    obtain ⟨stream, hstream⟩ := Option.ne_none_iff_exists'.mp
      (hbound k (hstores k) (stored_of_healthCheck hhealth k))
    rw [hstream, healthyBound (readsCurrent_of_run h) (generationBound_of_run h hsince)
      hhealth k stream hstream]

/-! ### Two runs -/

namespace MutterClipboard

/-- Both listeners subscribe, from the top of the loop. -/
def subscribeBoth : List (MutterStep ℕ) :=
  [.selectionOwnerChanged, .selectionTransfer].flatMap fun k =>
    [.readGeneration k, .readPath k, .subscribed k, .storeGeneration k]

/-- A call that goes through, and both listeners follow it. -/
def reboundRun : List (MutterStep ℕ) :=
  subscribeBoth ++
    [.rebind 0 1, .answer 0 .alreadyEnabled, .markEnabled 0, .advance 0, .wake 0,
      .recv .selectionOwnerChanged, .recv .selectionTransfer] ++
    subscribeBoth

/-- A call whose `enable` fails. -/
def strandedRun : List (MutterStep ℕ) := subscribeBoth ++ [.rebind 0 1, .answer 0 .failed]

instance (s : MutterClipboard Path) : (e : MutterStep Path) → Decidable (s.Fresh e)
  | .advance _ =>
      decidable_of_iff
        (¬ (s.listeners .selectionOwnerChanged).Holds (s.sessionGeneration + 1) ∧
          ¬ (s.listeners .selectionTransfer).Holds (s.sessionGeneration + 1))
        ⟨fun h k => by cases k <;> [exact h.1; exact h.2], fun h => ⟨h _, h _⟩⟩
  | .rebind .. | .answer .. | .markEnabled .. | .wake .. | .readGeneration .. | .readPath ..
  | .subscribed .. | .subscribeFailed .. | .storeGeneration .. | .recv .. | .streamEnded ..
  | .slept .. | .stop .. => .isTrue trivial

instance (s : MutterClipboard Path) : (e : MutterStep Path) → Decidable (s.Keeps e)
  | .recv k | .streamEnded k | .stop k =>
      inferInstanceAs (Decidable ((s.listeners k).stored ≠ s.sessionGeneration))
  | .rebind .. | .answer .. | .markEnabled .. | .advance .. | .wake .. | .readGeneration ..
  | .readPath .. | .subscribed .. | .subscribeFailed .. | .storeGeneration .. | .slept .. =>
      .isTrue trivial

end MutterClipboard

theorem mutter_listeners_bound_after_rebind :
    ∃ s : MutterClipboard ℕ, Run (StepOf step?) (initial 0) reboundRun s ∧
      s.rdSessionPath = 1 ∧ s.healthCheck = .ok () ∧ s.HealthyBound ∧ s.WaitingBound ∧
      ∀ k, (s.listeners k).loop.stream? = some 1 := by
  obtain ⟨s, hrun, hs⟩ : ∃ s : MutterClipboard ℕ,
      Run (Guarded (StepOf step?) fun s e => s.Fresh e ∧ s.Keeps e) (initial 0) reboundRun s ∧
      (s.rdSessionPath, s.healthCheck) = (1, .ok ()) :=
    Run.exists_guarded_of_foldlM (fun s : MutterClipboard ℕ => (s.rdSessionPath, s.healthCheck)) (by rfl)
  obtain ⟨hpath, hhealth⟩ := Prod.mk.inj hs
  have hall := mutter_listeners_bound (hrun.mono fun hst => ⟨hst.1, hst.2.1⟩)
  refine ⟨s, hrun.unguard, hpath, hhealth, hall.1 (by rfl), hall.2.1 (by rfl), fun k => ?_⟩
  rw [← hpath]
  exact hall.2.2 hrun (fun k => by cases k <;> decide) (by rfl) hhealth k

/-- After a call that failed, `health_check` is content while both listeners wait on the
session before, and no wake-up will come. -/
theorem mutter_listeners_stranded :
    ∃ s : MutterClipboard ℕ, Run (StepOf step?) (initial 0) strandedRun s ∧
      s.rebinds 0 = .failed ∧ s.rdSessionPath = 1 ∧ s.healthCheck = .ok () ∧
      (∀ k, s.listeners k = ⟨.waiting 0, 0, 0⟩) ∧ ¬ s.HealthyBound ∧ ¬ s.WaitingBound := by
  obtain ⟨s, hrun, hs⟩ : ∃ s : MutterClipboard ℕ, Run (StepOf step?) (initial 0) strandedRun s ∧
      (s.rebinds 0, s.rdSessionPath, s.healthCheck, s.listeners .selectionOwnerChanged,
        s.listeners .selectionTransfer) =
      (.failed, 1, .ok (), ⟨.waiting 0, 0, 0⟩, ⟨.waiting 0, 0, 0⟩) :=
    Run.exists_of_foldlM (fun s : MutterClipboard ℕ => (s.rebinds 0, s.rdSessionPath, s.healthCheck,
      s.listeners .selectionOwnerChanged, s.listeners .selectionTransfer)) (by rfl)
  simp only [Prod.mk.injEq] at hs
  obtain ⟨hcall, hpath, hhealth, howner, htransfer⟩ := hs
  refine ⟨s, hrun, hcall, hpath, hhealth, fun k => ?_, fun hbound => ?_, fun hbound => ?_⟩
  · cases k
    · exact howner
    · exact htransfer
  · have h := hbound hhealth .selectionOwnerChanged 0 (by rw [howner]; rfl)
    rw [hpath] at h
    cases h
  · have h := hbound .selectionOwnerChanged 0 (by rw [howner]) (by rw [howner])
    rw [hpath] at h
    cases h

end LamcoRdp
