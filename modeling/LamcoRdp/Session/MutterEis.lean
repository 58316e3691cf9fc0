/-
LamcoRdp/Session/MutterEis.lean

The EIS input channel of a Mutter session.

Any number of calls of `ensure_alive`, `activate`, `reconnect` and `rebind` share the
channel.  A call goes from one await point to the next in one step.  `activate` copies
the session's path, opens a channel there, publishes its context and connection and
sets `activated`; the flag `activating` keeps other activations out meanwhile.  A
tear-down (`rebind`, or the first half of `reconnect`) does not look at that flag: it
writes the path and clears what is published, between the steps of an activation if it
so happens, and an activation that waited for another returns `Ok` whatever came of it.

`Undisturbed` says when neither does harm, and the channel then follows the session:
whenever it is activated, context and connection were opened on the current path, and
whenever `activate` returns `Ok` with no tear-down started since its call, the channel
is activated.
-/
import LamcoRdp.Lib.Runs
import Mathlib.Logic.Function.Basic
import Mathlib.Order.Basic

namespace LamcoRdp

open Runs

/-- Where `activate` is, by what it awaits. -/
inductive ActivateStage (Path : Type*)
  /-- `sleep`, another call is activating -/
  | waiting
  /-- the context, to flush it -/
  | checking
  /-- `devices.clear()` after a flush that failed -/
  | clearing
  | readingPath
  /-- the proxy and `ConnectToEIS` -/
  | connecting (path : Path)
  | handshaking (path : Path)
  | storingSerial (path : Path)
  | storingContext (path : Path)
  | storingConnection (path : Path)
  /-- the setup burst -/
  | draining (path : Path)

/-- The path that the activation has copied. -/
def ActivateStage.path? {Path : Type*} : ActivateStage Path → Option Path
  | .connecting path => some path
  | .handshaking path => some path
  | .storingSerial path => some path
  | .storingContext path => some path
  | .storingConnection path => some path
  | .draining path => some path
  | .waiting => none
  | .checking => none
  | .clearing => none
  | .readingPath => none

/-- What a tear-down clears next. -/
inductive TearDownStage
  | devices
  | context
  | connection

/-- Where a call is.  `since` is the number of tear-downs started before `activate` was
called. -/
inductive EisCall (Path : Type*)
  | notCalled
  | activating (stage : ActivateStage Path) (since : ℕ)
  /-- `rebind`, before the path is written -/
  | rebinding (path : Path)
  | tearingDown (stage : TearDownStage) (reconnect : Bool)
  | returned (ok : Bool)

/-- The call holds the flag `activating`. -/
def EisCall.Holds {Path : Type*} : EisCall Path → Prop
  | .activating .waiting _ => False
  | .activating _ _ => True
  | _ => False

/-- The call is inside `activate`, `reconnect` or `rebind`. -/
def EisCall.Inside {Path : Type*} : EisCall Path → Prop
  | .notCalled => False
  | .returned _ => False
  | _ => True

/-- The input of a session, with the calls that are under way. -/
structure MutterEisInput (Path : Type*) where
  rdSessionPath : Path
  /-- the session that the context was opened on -/
  context : Option Path
  connection : Option Path
  activated : Bool
  activating : Bool
  calls : ℕ → EisCall Path
  /-- how many calls of `reconnect` and `rebind` have been started -/
  tearDowns : ℕ
  /-- the activation that ended last did not leave the channel activated -/
  attemptLost : Bool

/-- A call is made, or goes on. -/
inductive EisStep (Path : Type*)
  | ensureAlive (i : ℕ)
  | activate (i : ℕ)
  | reconnect (i : ℕ)
  | rebind (i : ℕ) (path : Path)
  /-- call `i` goes on; `ok` is what came of the flush, `ConnectToEIS`, the handshake or
  the setup burst -/
  | resume (i : ℕ) (ok : Bool)

/-- The call that takes the step. -/
def EisStep.call {Path : Type*} : EisStep Path → ℕ
  | .ensureAlive i => i
  | .activate i => i
  | .reconnect i => i
  | .rebind i _ => i
  | .resume i _ => i

namespace MutterEisInput

variable {Path : Type*}

/-- Before the first call. -/
def new (path : Path) : MutterEisInput Path where
  rdSessionPath := path
  context := none
  connection := none
  activated := false
  activating := false
  calls := fun _ => .notCalled
  tearDowns := 0
  attemptLost := false

/-- A call goes on. -/
def setCall (s : MutterEisInput Path) (i : ℕ) (call : EisCall Path) : MutterEisInput Path :=
  { s with calls := Function.update s.calls i call }

/-- `activate`, up to its first await point. -/
def startActivate (s : MutterEisInput Path) (i : ℕ) : MutterEisInput Path :=
  if s.activating then s.setCall i (.activating .waiting s.tearDowns)
  else { s with activating := true }.setCall i
    (.activating (if s.activated then .checking else .readingPath) s.tearDowns)

/-- `activate` returns, and its guard is dropped. -/
def finishActivate (s : MutterEisInput Path) (i : ℕ) (ok : Bool) : MutterEisInput Path :=
  { s with activating := false, attemptLost := !s.activated }.setCall i (.returned ok)

/-- `activate` goes on. -/
def resumeActivate (s : MutterEisInput Path) (i : ℕ) (since : ℕ) (ok : Bool) :
    ActivateStage Path → MutterEisInput Path
  | .waiting => if s.activating then s else s.setCall i (.returned true)
  | .checking =>
      if s.context.isSome && ok then s.finishActivate i true
      else s.setCall i (.activating .clearing since)
  | .clearing => { s with activated := false }.setCall i (.activating .readingPath since)
  | .readingPath => s.setCall i (.activating (.connecting s.rdSessionPath) since)
  | .connecting path =>
      if ok then s.setCall i (.activating (.handshaking path) since)
      else s.finishActivate i false
  | .handshaking path =>
      if ok then s.setCall i (.activating (.storingSerial path) since)
      else s.finishActivate i false
  | .storingSerial path => s.setCall i (.activating (.storingContext path) since)
  | .storingContext path =>
      { s with context := some path }.setCall i (.activating (.storingConnection path) since)
  | .storingConnection path =>
      { s with connection := some path }.setCall i (.activating (.draining path) since)
  | .draining _ =>
      if ok then { s with activated := true }.finishActivate i true
      else s.finishActivate i false

/-- A tear-down goes on; `reconnect` then activates. -/
def resumeTearDown (s : MutterEisInput Path) (i : ℕ) (reconnect : Bool) :
    TearDownStage → MutterEisInput Path
  | .devices => s.setCall i (.tearingDown .context reconnect)
  | .context => { s with context := none }.setCall i (.tearingDown .connection reconnect)
  | .connection =>
      if reconnect then { s with connection := none }.startActivate i
      else { s with connection := none }.setCall i (.returned true)

/-- One step, `none` where it cannot be taken. -/
def step? (s : MutterEisInput Path) : EisStep Path → Option (MutterEisInput Path)
  | .ensureAlive i =>
      match s.calls i with
      | .notCalled => some (if s.activated then s.setCall i (.returned true) else s.startActivate i)
      | _ => none
  | .activate i =>
      match s.calls i with
      | .notCalled => some (s.startActivate i)
      | _ => none
  | .reconnect i =>
      match s.calls i with
      | .notCalled =>
          some ({ s with activated := false, tearDowns := s.tearDowns + 1 }.setCall i
            (.tearingDown .devices true))
      | _ => none
  | .rebind i path =>
      match s.calls i with
      | .notCalled =>
          some ({ s with tearDowns := s.tearDowns + 1 }.setCall i (.rebinding path))
      | _ => none
  | .resume i ok =>
      match s.calls i with
      | .activating stage since => some (s.resumeActivate i since ok stage)
      | .rebinding path =>
          some ({ s with rdSessionPath := path, activated := false }.setCall i
            (.tearingDown .devices false))
      | .tearingDown stage reconnect => some (s.resumeTearDown i reconnect stage)
      | .notCalled => none
      | .returned _ => none

/-! ### What must hold -/

/-- When the channel is activated and no call is inside, context and connection were
opened on the current path. -/
def FollowsSession (s : MutterEisInput Path) : Prop :=
  s.activated = true → (∀ i, ¬ (s.calls i).Inside) →
    s.context = some s.rdSessionPath ∧ s.connection = some s.rdSessionPath

/-- When `activate` returns `Ok` in the step and no tear-down has been started since its
call, the channel is activated. -/
def ReturnsActivated (s t : MutterEisInput Path) : Prop :=
  ∀ i stage since, s.calls i = .activating stage since → t.calls i = .returned true →
    t.tearDowns = since → t.activated = true

/-- The step does no harm to a call that is where `call` is.

The path is not replaced by another while an activation is under way that has copied it,
nor while an `activate` called after the last tear-down was started is checking the
socket, or waits though the activation it waited for has ended.  Context and connection
are not cleared when an activation under way has stored its own, nor when one has
completed.  An activation that waited does not return when the last one left the channel
inactive, unless a tear-down has been started since its call. -/
def spares [DecidableEq Path] (s : MutterEisInput Path) (e : EisStep Path)
    (call : EisCall Path) : Bool :=
  match e with
  | .resume i _ =>
      match s.calls i, call with
      | .rebinding path, .activating stage since =>
          stage.path?.all (· = path) &&
            (since ≠ s.tearDowns || match stage with
              | .checking => false
              | .waiting => s.activating
              | _ => true)
      | .tearingDown .context _, .activating (.storingConnection _) _ => false
      | .tearingDown .context _, .activating (.draining _) _ => false
      | .tearingDown .context _, _ => !s.activated
      | .tearingDown .connection _, .activating (.draining _) _ => false
      | .tearingDown .connection _, _ => !s.activated
      | .activating .waiting since, _ =>
          s.activating || since ≠ s.tearDowns || !s.attemptLost
      | _, _ => true
  | _ => true

/-- The step does no harm to any call. -/
def Undisturbed [DecidableEq Path] (s : MutterEisInput Path) (e : EisStep Path) : Prop :=
  ∀ j, s.spares e (s.calls j) = true

/-! ### The invariant -/

/-- What holds while a call is where it is. -/
def CallOk (s : MutterEisInput Path) : EisCall Path → Prop
  | .activating stage since => since ≤ s.tearDowns ∧
      match stage with
      | .waiting => since = s.tearDowns → s.activating = false → s.attemptLost = false →
          s.activated = true
      | .checking => since = s.tearDowns → s.activated = true
      | .clearing => True
      | .readingPath => s.activated = false
      | .connecting path => s.activated = false ∧ path = s.rdSessionPath
      | .handshaking path => s.activated = false ∧ path = s.rdSessionPath
      | .storingSerial path => s.activated = false ∧ path = s.rdSessionPath
      | .storingContext path => s.activated = false ∧ path = s.rdSessionPath
      | .storingConnection path => s.activated = false ∧ path = s.rdSessionPath ∧
          s.context = some path
      | .draining path => s.activated = false ∧ path = s.rdSessionPath ∧
          s.context = some path ∧ s.connection = some path
  | _ => True

/-- An activated connection is that of the present session, and one call at most connects. -/
structure Follows (s : MutterEisInput Path) : Prop where
  channel : s.activated = true →
    s.context = some s.rdSessionPath ∧ s.connection = some s.rdSessionPath
  lock : ∀ i, (s.calls i).Holds → s.activating = true
  unique : ∀ i j, (s.calls i).Holds → (s.calls j).Holds → i = j
  calls : ∀ i, s.CallOk (s.calls i)

variable {s t : MutterEisInput Path} {i : ℕ} {call : EisCall Path}

/-- A step that changes the fields and the call `i`. -/
theorem Follows.setCall (h : s.Follows) (hcalls : t.calls = s.calls)
    (hchannel : t.activated = true →
      t.context = some t.rdSessionPath ∧ t.connection = some t.rdSessionPath)
    (hlock : (∃ j, j ≠ i ∧ (s.calls j).Holds) → t.activating = true ∧ ¬ call.Holds)
    (hholds : call.Holds → t.activating = true)
    (hown : t.CallOk call) (hother : ∀ j, j ≠ i → t.CallOk (s.calls j)) :
    (t.setCall i call).Follows := by
  have hself : (t.setCall i call).calls i = call := Function.update_self ..
  have hne : ∀ j, j ≠ i → (t.setCall i call).calls j = s.calls j := by
    intro j hj
    rw [← hcalls]
    exact Function.update_of_ne hj ..
  refine ⟨hchannel, fun j hj => ?_, fun j k hj hk => ?_, fun j => ?_⟩
  · -- the lock is held by one call only, and it is the one that moves
    rcases eq_or_ne j i with rfl | hji
    · exact hholds (hself ▸ hj)
    · exact (hlock ⟨j, hji, hne j hji ▸ hj⟩).1
  · rcases eq_or_ne j i with rfl | hji <;> rcases eq_or_ne k j with rfl | hkj
    · rfl
    · exact absurd (hself ▸ hj) (hlock ⟨k, hkj, hne k hkj ▸ hk⟩).2
    · rfl
    · rcases eq_or_ne k i with rfl | hki
      · exact absurd (hself ▸ hk) (hlock ⟨j, hji, hne j hji ▸ hj⟩).2
      · exact h.unique j k (hne j hji ▸ hj) (hne k hki ▸ hk)
  · -- what each call knows of the state
    rcases eq_or_ne j i with rfl | hji
    · rw [hself]
      exact hown
    · rw [hne j hji]
      exact hother j hji

/-- A call that does not hold the flag, whatever the holder does to the channel. -/
theorem callOk_of_not_holds (hcall : ¬ call.Holds) (h : s.CallOk call)
    (htear : t.tearDowns = s.tearDowns)
    (hactivated : t.activating = false → t.attemptLost = false → t.activated = true) :
    t.CallOk call := by
  cases call with
  | activating stage since =>
      cases stage with
      | waiting => exact ⟨htear ▸ h.1, fun _ => hactivated⟩
      | _ => exact absurd trivial hcall
  | _ => trivial

/-- Every call, when a tear-down starts. -/
theorem callOk_tearDown (activated : Bool) (hactivated : activated = true → s.activated = true)
    (h : s.CallOk call) :
    { s with activated, tearDowns := s.tearDowns + 1 }.CallOk call := by
  have hfalse : s.activated = false → activated = false := by
    intro hs
    by_contra htrue
    rw [hactivated (Bool.not_eq_false _ ▸ htrue)] at hs
    cases hs
  cases call with
  | activating stage since =>
      obtain ⟨hsince, h⟩ := h
      refine ⟨Nat.le_succ_of_le hsince, ?_⟩
      cases stage with
      | waiting | checking => exact fun heq => absurd heq (Nat.ne_of_lt (Nat.lt_succ_of_le hsince))
      | clearing => trivial
      | readingPath => exact hfalse h
      | connecting | handshaking | storingSerial | storingContext | storingConnection
      | draining => exact ⟨hfalse h.1, h.2⟩
  | _ => trivial

/-! ### One lemma for each kind of step -/

/-- A call goes to where it needs nothing of the channel. -/
theorem Follows.leave (h : s.Follows) (hnot : ¬ call.Holds) (hown : s.CallOk call) :
    (s.setCall i call).Follows := by
  refine h.setCall rfl h.channel ?_ (fun hholds => absurd hholds hnot) hown fun j _ => h.calls j
  rintro ⟨j, -, hj⟩
  exact ⟨h.lock j hj, hnot⟩

/-- The fields change, all calls stay where they are. -/
theorem Follows.update (h : s.Follows) (hcalls : t.calls = s.calls)
    (hactivating : t.activating = s.activating)
    (hchannel : t.activated = true →
      t.context = some t.rdSessionPath ∧ t.connection = some t.rdSessionPath)
    (hall : ∀ j, t.CallOk (s.calls j)) : t.Follows := by
  refine ⟨hchannel, ?_, ?_, ?_⟩
  · rw [hcalls, hactivating]
    exact h.lock
  · rw [hcalls]
    exact h.unique
  · rw [hcalls]
    exact hall

theorem Follows.startActivate (h : s.Follows) (i : ℕ) : (s.startActivate i).Follows := by
  unfold MutterEisInput.startActivate
  split
  case isTrue hbusy =>
    refine h.setCall rfl h.channel (fun _ => ⟨hbusy, id⟩) False.elim ?_
      fun j _ => h.calls j
    refine ⟨Nat.le_refl _, fun _ hidle => ?_⟩
    rw [hbusy] at hidle
    cases hidle
  case isFalse hidle =>
    have hnone : ∀ j, ¬ (s.calls j).Holds := fun j hj => hidle (h.lock j hj)
    refine h.setCall rfl h.channel ?_ (fun _ => rfl) ?_ ?_
    · rintro ⟨j, -, hj⟩
      exact absurd hj (hnone j)
    · by_cases hactivated : s.activated = true
      · rw [if_pos hactivated]
        exact ⟨Nat.le_refl _, fun _ => hactivated⟩
      · rw [if_neg hactivated]
        exact ⟨Nat.le_refl _, Bool.eq_false_iff.mpr hactivated⟩
    · exact fun j _ => callOk_of_not_holds (hnone j) (h.calls j) rfl nofun

/-- A step of the call that holds the flag. -/
theorem Follows.hold (h : s.Follows) (hholds : (s.calls i).Holds) (hcalls : t.calls = s.calls)
    (htear : t.tearDowns = s.tearDowns) (hactivating : t.activating = s.activating)
    (hchannel : t.activated = true →
      t.context = some t.rdSessionPath ∧ t.connection = some t.rdSessionPath)
    (hown : t.CallOk call) : (t.setCall i call).Follows := by
  have hbusy : t.activating = true := by rw [hactivating, h.lock i hholds]
  have hother : ∀ j, j ≠ i → ¬ (s.calls j).Holds := fun j hj hholds' =>
    hj (h.unique j i hholds' hholds)
  refine h.setCall hcalls hchannel ?_ (fun _ => hbusy) hown fun j hj => ?_
  · rintro ⟨j, hj, hholds'⟩
    exact absurd hholds' (hother j hj)
  · refine callOk_of_not_holds (hother j hj) (h.calls j) htear fun hidle => ?_
    rw [hbusy] at hidle
    cases hidle

/-- The call that holds the flag returns. -/
theorem Follows.finishActivate (h : s.Follows) (hholds : (s.calls i).Holds)
    (hcalls : t.calls = s.calls) (htear : t.tearDowns = s.tearDowns)
    (hchannel : t.activated = true →
      t.context = some t.rdSessionPath ∧ t.connection = some t.rdSessionPath)
    (ok : Bool) : (t.finishActivate i ok).Follows := by
  have hother : ∀ j, j ≠ i → ¬ (s.calls j).Holds := fun j hj hholds' =>
    hj (h.unique j i hholds' hholds)
  refine h.setCall (t := { t with activating := false, attemptLost := !t.activated }) hcalls
    hchannel ?_ False.elim trivial fun j hj => ?_
  · rintro ⟨j, hj, hholds'⟩
    exact absurd hholds' (hother j hj)
  · refine callOk_of_not_holds (hother j hj) (h.calls j) htear fun _ hkept => ?_
    rwa [Bool.not_eq_false'] at hkept

theorem Follows.resumeActivate (h : s.Follows) {stage : ActivateStage Path} {since : ℕ}
    (hcall : s.calls i = .activating stage since) (ok : Bool) :
    (s.resumeActivate i since ok stage).Follows := by
  have hok := h.calls i
  rw [hcall] at hok
  obtain ⟨hsince, hok⟩ := hok
  cases stage with
  -- while another call holds the lock nothing moves
  | waiting =>
      rw [MutterEisInput.resumeActivate]
      split
      · exact h
      · exact h.leave id trivial
  | checking =>
      have hholds : (s.calls i).Holds := by rw [hcall]; trivial
      -- a live connection ends the attempt
      rw [MutterEisInput.resumeActivate]
      split
      · exact h.finishActivate hholds rfl rfl h.channel true
      · exact h.hold hholds rfl rfl rfl h.channel ⟨hsince, trivial⟩
  | clearing =>
      have hholds : (s.calls i).Holds := by rw [hcall]; trivial
      exact h.hold hholds rfl rfl rfl nofun ⟨hsince, rfl⟩
  | readingPath =>
      have hholds : (s.calls i).Holds := by rw [hcall]; trivial
      exact h.hold hholds rfl rfl rfl h.channel ⟨hsince, hok, rfl⟩
  -- a failure ends it, with the lock given back
  | connecting path | handshaking path =>
      have hholds : (s.calls i).Holds := by rw [hcall]; trivial
      rw [MutterEisInput.resumeActivate]
      split
      · exact h.hold hholds rfl rfl rfl h.channel ⟨hsince, hok⟩
      · exact h.finishActivate hholds rfl rfl h.channel false
  | storingSerial path =>
      have hholds : (s.calls i).Holds := by rw [hcall]; trivial
      exact h.hold hholds rfl rfl rfl h.channel ⟨hsince, hok⟩
  -- the new channel is stored before the flag is set
  | storingContext path =>
      have hholds : (s.calls i).Holds := by rw [hcall]; trivial
      refine h.hold hholds rfl rfl rfl (fun hactivated => ?_) ⟨hsince, hok.1, hok.2, rfl⟩
      exact absurd hactivated (Bool.eq_false_iff.mp hok.1)
  | storingConnection path =>
      have hholds : (s.calls i).Holds := by rw [hcall]; trivial
      refine h.hold hholds rfl rfl rfl (fun hactivated => ?_)
        ⟨hsince, hok.1, hok.2.1, hok.2.2, rfl⟩
      exact absurd hactivated (Bool.eq_false_iff.mp hok.1)
  | draining path =>
      have hholds : (s.calls i).Holds := by rw [hcall]; trivial
      obtain ⟨-, rfl, hcontext, hconnection⟩ := hok
      rw [MutterEisInput.resumeActivate]
      -- the drain is done: the channel is the current one, and the flag is set
      split
      · exact Follows.finishActivate (t := { s with activated := true }) h hholds rfl rfl
          (fun _ => ⟨hcontext, hconnection⟩) true
      · exact h.finishActivate hholds rfl rfl h.channel false

/-- A tear-down starts. -/
theorem Follows.startTearDown (h : s.Follows) (activated : Bool)
    (hactivated : activated = true → s.activated = true) :
    { s with activated, tearDowns := s.tearDowns + 1 }.Follows :=
  h.update rfl rfl (fun hs => h.channel (hactivated hs))
    fun j => callOk_tearDown activated hactivated (h.calls j)

/-- `rebind` writes the path. -/
theorem Follows.rebind [DecidableEq Path] (h : s.Follows) {path : Path} {ok : Bool}
    (hcall : s.calls i = .rebinding path) (hok : s.Undisturbed (.resume i ok)) :
    { s with rdSessionPath := path, activated := false }.Follows := by
  refine h.update rfl rfl nofun fun j => ?_
  have hj := h.calls j
  have hspares := hok j
  rcases hcallj : s.calls j with - | ⟨stage, since⟩ | - | - | - <;> try trivial
  rw [hcallj] at hj
  simp only [spares, hcall, hcallj, Bool.and_eq_true, Bool.or_eq_true, decide_eq_true_eq,
    Option.all_eq_true] at hspares
  obtain ⟨hcopied, hreturns⟩ := hspares
  refine ⟨hj.1, ?_⟩
  cases stage with
  | waiting =>
      intro heq hidle
      have hbusy : s.activating = true := hreturns.resolve_left (not_not.mpr heq)
      exact absurd hidle (by rw [hbusy]; exact Bool.noConfusion)
  | checking => exact fun heq => nomatch hreturns.resolve_left (not_not.mpr heq)
  | clearing => trivial
  | readingPath => rfl
  | connecting | handshaking | storingSerial | storingContext => exact ⟨rfl, hcopied _ rfl⟩
  | storingConnection | draining => exact ⟨rfl, hcopied _ rfl, hj.2.2.2⟩

/-- A tear-down clears the context. -/
theorem Follows.clearContext [DecidableEq Path] (h : s.Follows) {reconnect ok : Bool}
    (hcall : s.calls i = .tearingDown .context reconnect) (hok : s.Undisturbed (.resume i ok)) :
    { s with context := none }.Follows := by
  have hactivated : s.activated = false := by
    have hspares := hok i
    simpa [spares, hcall] using hspares
  refine h.update rfl rfl (fun hs => absurd hs (Bool.eq_false_iff.mp hactivated)) fun j => ?_
  have hj := h.calls j
  have hspares := hok j
  rcases hcallj : s.calls j with - | ⟨stage, since⟩ | - | - | - <;> try trivial
  rw [hcallj] at hj
  simp only [spares, hcall, hcallj] at hspares
  cases stage with
  | storingConnection path | draining path => cases hspares
  | _ => exact hj

/-- A tear-down clears the connection. -/
theorem Follows.clearConnection [DecidableEq Path] (h : s.Follows) {reconnect ok : Bool}
    (hcall : s.calls i = .tearingDown .connection reconnect)
    (hok : s.Undisturbed (.resume i ok)) : { s with connection := none }.Follows := by
  have hactivated : s.activated = false := by
    have hspares := hok i
    simpa [spares, hcall] using hspares
  refine h.update rfl rfl (fun hs => absurd hs (Bool.eq_false_iff.mp hactivated)) fun j => ?_
  have hj := h.calls j
  have hspares := hok j
  rcases hcallj : s.calls j with - | ⟨stage, since⟩ | - | - | - <;> try trivial
  rw [hcallj] at hj
  simp only [spares, hcall, hcallj] at hspares
  cases stage with
  | draining path => cases hspares
  | _ => exact hj

/-! ### Every step -/

theorem Follows.step [DecidableEq Path] {e : EisStep Path} (h : s.Follows) (hok : s.Undisturbed e)
    (hst : s.step? e = some t) : t.Follows := by
  unfold step? at hst
  split at hst
  · -- an attempt starts only when the flag is not set
    split at hst <;> cases hst
    split
    · exact h.leave id trivial
    · exact h.startActivate _
  · split at hst <;> cases hst
    exact h.startActivate _
  · -- a tear-down starts, for a reconnect or for another path
    split at hst <;> cases hst
    exact (h.startTearDown false nofun).leave id trivial
  · split at hst <;> cases hst
    exact (h.startTearDown s.activated id).leave id trivial
  · rename_i i ok
    cases hcall : s.calls i with
    | notCalled | returned =>
        simp only [hcall] at hst
        cases hst
    | activating stage since =>
        simp only [hcall] at hst
        cases hst
        exact h.resumeActivate hcall ok
    | rebinding path =>
        simp only [hcall] at hst
        cases hst
        exact (h.rebind hcall hok).leave id trivial
    | tearingDown stage reconnect =>
        simp only [hcall] at hst
        cases hst
        -- the last stage of a tear-down is followed by an attempt in a reconnect
        cases stage with
        | devices => exact h.leave id trivial
        | context => exact (h.clearContext hcall hok).leave id trivial
        | connection =>
            have hcleared := h.clearConnection hcall hok
            cases reconnect
            · exact hcleared.leave id trivial
            · exact hcleared.startActivate i

theorem follows_new (path : Path) : (new path).Follows :=
  ⟨nofun, fun _ hholds => hholds.elim, fun _ _ hholds => hholds.elim, fun _ => trivial⟩

/-! ### What `activate` returns -/

theorem calls_setCall_self (s : MutterEisInput Path) (i : ℕ) (call : EisCall Path) :
    (s.setCall i call).calls i = call :=
  Function.update_self ..

theorem calls_setCall_of_ne {j : ℕ} (hj : j ≠ i) : (s.setCall i call).calls j = s.calls j :=
  Function.update_of_ne hj ..

theorem calls_startActivate_of_ne {j : ℕ} (hj : j ≠ i) :
    (s.startActivate i).calls j = s.calls j := by
  rw [MutterEisInput.startActivate]
  split
  · exact calls_setCall_of_ne hj
  · exact calls_setCall_of_ne hj

theorem calls_resumeActivate_of_ne {j since : ℕ} (hj : j ≠ i) (ok : Bool)
    (stage : ActivateStage Path) : (s.resumeActivate i since ok stage).calls j = s.calls j := by
  cases stage <;> simp only [MutterEisInput.resumeActivate, MutterEisInput.finishActivate] <;>
    (try split) <;> first | rfl | exact calls_setCall_of_ne hj

theorem calls_resumeTearDown_of_ne {j : ℕ} (hj : j ≠ i) (reconnect : Bool)
    (stage : TearDownStage) : (s.resumeTearDown i reconnect stage).calls j = s.calls j := by
  cases stage
  case devices => exact calls_setCall_of_ne hj
  case context => exact calls_setCall_of_ne hj
  case connection =>
    rw [MutterEisInput.resumeTearDown]
    split
    · exact calls_startActivate_of_ne hj
    · exact calls_setCall_of_ne hj

/-- A step moves one call. -/
theorem calls_of_step? {e : EisStep Path} {j : ℕ} (hst : s.step? e = some t) (hj : j ≠ e.call) :
    t.calls j = s.calls j := by
  unfold step? at hst
  split at hst
  · split at hst <;> cases hst
    split
    · exact calls_setCall_of_ne hj
    · exact calls_startActivate_of_ne hj
  · split at hst <;> cases hst
    exact calls_startActivate_of_ne hj
  · split at hst <;> cases hst
    exact calls_setCall_of_ne hj
  · split at hst <;> cases hst
    exact calls_setCall_of_ne hj
  · split at hst <;> cases hst
    · exact calls_resumeActivate_of_ne hj ..
    · exact calls_setCall_of_ne hj
    · exact calls_resumeTearDown_of_ne hj ..

/-- An activation that returns in a step goes on in it. -/
theorem resume_of_returned {e : EisStep Path} {stage : ActivateStage Path} {since : ℕ} {ok : Bool}
    (hst : s.step? e = some t) (hcall : s.calls i = .activating stage since)
    (hreturned : t.calls i = .returned ok) :
    ∃ answer, e = .resume i answer ∧ t = s.resumeActivate i since answer stage := by
  obtain rfl : i = e.call := by
    by_contra hne
    rw [calls_of_step? hst hne, hcall] at hreturned
    cases hreturned
  cases e with
  | ensureAlive i | activate i | reconnect i | rebind i path =>
      have hcall : s.calls i = .activating stage since := hcall
      simp only [step?, hcall] at hst
      cases hst
  | resume i answer =>
      have hcall : s.calls i = .activating stage since := hcall
      simp only [step?, hcall] at hst
      cases hst
      exact ⟨answer, rfl, rfl⟩

/-- `activate` returns `Ok` from three of its stages. -/
theorem returnsActivated_step [DecidableEq Path] {e : EisStep Path} (h : s.Follows)
    (hok : s.Undisturbed e) (hst : s.step? e = some t) : s.ReturnsActivated t := by
  intro i stage since hcall hreturned htear
  obtain ⟨answer, rfl, rfl⟩ := resume_of_returned hst hcall hreturned
  have hnow := h.calls i
  rw [hcall] at hnow
  cases stage with
  -- another attempt ended meanwhile, and has set the flag
  | waiting =>
      have hspares := hok i
      simp only [spares, hcall, Bool.or_eq_true, decide_eq_true_eq, Bool.not_eq_true'] at hspares
      rw [MutterEisInput.resumeActivate] at hreturned htear ⊢
      split
      case isTrue hbusy =>
        rw [if_pos hbusy, hcall] at hreturned
        cases hreturned
      case isFalse hidle =>
        rw [if_neg hidle] at htear
        have hfree := Bool.eq_false_iff.mpr hidle
        have hkept : s.attemptLost = false :=
          hspares.resolve_left (not_or.mpr ⟨hidle, not_not.mpr htear.symm⟩)
        exact hnow.2 htear.symm hfree hkept
  -- a live connection is what the flag tells
  | checking =>
      rw [MutterEisInput.resumeActivate] at hreturned htear ⊢
      split
      case isTrue halive =>
        rw [if_pos halive] at htear
        exact hnow.2 htear.symm
      case isFalse hdead =>
        rw [if_neg hdead, calls_setCall_self] at hreturned
        cases hreturned
  -- after the drain the flag is set
  | draining =>
      rw [MutterEisInput.resumeActivate] at hreturned ⊢
      split
      · rfl
      case isFalse hfailed =>
        rw [if_neg hfailed, finishActivate, calls_setCall_self] at hreturned
        cases hreturned
  -- no other stage returns with success
  | connecting | handshaking =>
      rw [MutterEisInput.resumeActivate] at hreturned
      split at hreturned
      · rw [calls_setCall_self] at hreturned
        cases hreturned
      · rw [finishActivate, calls_setCall_self] at hreturned
        cases hreturned
  | clearing | readingPath | storingSerial | storingContext | storingConnection =>
      rw [MutterEisInput.resumeActivate, calls_setCall_self] at hreturned
      cases hreturned

end MutterEisInput

open MutterEisInput

variable {Path : Type*} {path : Path} {es : List (EisStep Path)} {s : MutterEisInput Path}

/-- In every undisturbed run the channel follows the session, and an `activate` that
returns `Ok` next, with no tear-down started since its call, leaves it activated. -/
theorem eis_follows_session [DecidableEq Path]
    (h : Run (Guarded (StepOf step?) Undisturbed) (new path) es s) :
    s.FollowsSession ∧
      ∀ e t, s.step? e = some t → s.Undisturbed e → s.ReturnsActivated t := by
  have hfollows : s.Follows :=
    h.invariant (follows_new path) fun hs hst => hs.step hst.2 hst.1
  exact ⟨fun hactivated _ => hfollows.channel hactivated,
    fun e t hst hok => returnsActivated_step hfollows hok hst⟩

/-! ### Runs of a few calls -/

namespace MutterEisInput

theorem notCalled_of_run {n : ℕ} (h : Run (StepOf step?) (new path) es s)
    (hes : ∀ e ∈ es, e.call < n) : ∀ j, n ≤ j → s.calls j = .notCalled := by
  induction h with
  | nil => exact fun _ _ => rfl
  | snoc _ hst ih =>
      intro j hj
      have hlast := hes _ (List.mem_append_right _ (List.mem_singleton_self _))
      rw [calls_of_step? hst (Nat.ne_of_gt (Nat.lt_of_lt_of_le hlast hj))]
      exact ih (fun e he => hes e (List.mem_append_left _ he)) j hj


/-- A run of calls below `n` is undisturbed if those are spared. -/
theorem undisturbed_of_below [DecidableEq Path] {n : ℕ}
    (h : Run (Guarded (StepOf step?) fun s e =>
      s.spares e .notCalled = true ∧ ∀ j < n, s.spares e (s.calls j) = true) (new path) es s)
    (hes : ∀ e ∈ es, e.call < n) : Run (Guarded (StepOf step?) Undisturbed) (new path) es s := by
  induction h with
  | nil => exact Run.nil
  | @snoc es r e t hr hst ih =>
      have hbefore : ∀ e ∈ es, e.call < n := fun e he => hes e (List.mem_append_left _ he)
      refine (ih hbefore).snoc ⟨hst.1, fun j => ?_⟩
      rcases Nat.lt_or_ge j n with hj | hj
      · exact hst.2.2 j hj
      · rw [notCalled_of_run hr.unguard hbefore j hj]
        exact hst.2.1

/-- Call `i` goes on, `n` times, and all goes well. -/
def resumes (i n : ℕ) : List (EisStep ℕ) := List.replicate n (.resume i true)

/-- The channel is activated, the session replaced, and the channel activated again. -/
def rebindRun : List (EisStep ℕ) :=
  .ensureAlive 0 :: resumes 0 7 ++ .rebind 1 1 :: resumes 1 4 ++ .ensureAlive 2 :: resumes 2 7

/-- The session is replaced during the handshake. -/
def staleRun : List (EisStep ℕ) :=
  .activate 0 :: resumes 0 2 ++ .rebind 1 1 :: resumes 1 4 ++ resumes 0 5

/-- `ConnectToEIS` fails while another activation waits. -/
def failedRun : List (EisStep ℕ) :=
  [.activate 0, .activate 1, .resume 0 true, .resume 0 false]

end MutterEisInput

theorem eis_follows_rebound_session :
    ∃ s : MutterEisInput ℕ, Run (StepOf step?) (new 0) rebindRun s ∧ s.activated = true ∧
      s.rdSessionPath = 1 ∧ s.context = some 1 ∧ s.connection = some 1 := by
  obtain ⟨s, hrun, hs⟩ : ∃ s, Run (Guarded (StepOf step?) fun s e =>
      s.spares e .notCalled = true ∧ ∀ j < 3, s.spares e (s.calls j) = true) (new 0) rebindRun s ∧
      (s.activated, s.rdSessionPath, s.calls 0, s.calls 1, s.calls 2) =
        (true, 1, .returned true, .returned true, .returned true) :=
    Run.exists_guarded_of_foldlM
      (fun s : MutterEisInput ℕ => (s.activated, s.rdSessionPath, s.calls 0, s.calls 1, s.calls 2))
      (by rfl)
  simp only [Prod.mk.injEq] at hs
  obtain ⟨hactivated, hpath, h0, h1, h2⟩ := hs
  have hcalls : ∀ e ∈ rebindRun, e.call < 3 := by decide
  have hidle : ∀ i, ¬ (s.calls i).Inside := by
    intro i
    match i with
    | 0 => rw [h0]; exact id
    | 1 => rw [h1]; exact id
    | 2 => rw [h2]; exact id
    | i + 3 =>
        rw [notCalled_of_run hrun.unguard hcalls (i + 3) (Nat.le_add_left ..)]
        exact id
  have hall := eis_follows_session (undisturbed_of_below hrun hcalls)
  exact ⟨s, hrun.unguard, hactivated, hpath, hpath ▸ hall.1 hactivated hidle⟩

/-- The channel is activated on a session that is gone; and `activate` returns `Ok` though
the attempt that it waited for failed. -/
theorem eis_left_behind :
    (∃ s : MutterEisInput ℕ, Run (StepOf step?) (new 0) staleRun s ∧
      s.rdSessionPath = 1 ∧ s.context = some 0 ∧ ¬ s.FollowsSession) ∧
    ∃ s t : MutterEisInput ℕ, Run (StepOf step?) (new 0) failedRun s ∧
      s.step? (.resume 1 true) = some t ∧ s.tearDowns = 0 ∧ ¬ s.ReturnsActivated t := by
  constructor
  · -- the first run ends on the old channel
    obtain ⟨s, hrun, hs⟩ : ∃ s, Run (StepOf step?) (new 0) staleRun s ∧
        (s.activated, s.rdSessionPath, s.context, s.calls 0, s.calls 1) =
          (true, 1, some 0, .returned true, .returned true) :=
      Run.exists_of_foldlM
        (fun s : MutterEisInput ℕ =>
          (s.activated, s.rdSessionPath, s.context, s.calls 0, s.calls 1)) (by rfl)
    simp only [Prod.mk.injEq] at hs
    obtain ⟨hactivated, hpath, hcontext, h0, h1⟩ := hs
    have hcalls : ∀ e ∈ staleRun, e.call < 2 := by decide
    refine ⟨s, hrun, hpath, hcontext, fun hfollows => ?_⟩
    have hidle : ∀ i, ¬ (s.calls i).Inside := by
      intro i
      match i with
      | 0 => rw [h0]; exact id
      | 1 => rw [h1]; exact id
      | i + 2 =>
          rw [notCalled_of_run hrun hcalls (i + 2) (Nat.le_add_left ..)]
          exact id
    have hcurrent := (hfollows hactivated hidle).1
    rw [hpath, hcontext] at hcurrent
    cases hcurrent
  · -- in the second a call returns for an attempt that failed
    obtain ⟨s, hrun, hs⟩ : ∃ s, Run (StepOf step?) (new 0) failedRun s ∧
        (s.activated, s.activating, s.tearDowns, s.calls 1) =
          (false, false, 0, .activating .waiting 0) :=
      Run.exists_of_foldlM
        (fun s : MutterEisInput ℕ => (s.activated, s.activating, s.tearDowns, s.calls 1)) (by rfl)
    simp only [Prod.mk.injEq] at hs
    obtain ⟨hactivated, hactivating, htear, hcall⟩ := hs
    refine ⟨s, s.setCall 1 (.returned true), hrun, ?_, htear, fun hreturns => ?_⟩
    · simp only [step?, hcall, MutterEisInput.resumeActivate, hactivating, Bool.false_eq_true,
        if_false]
    · have h := hreturns 1 .waiting 0 hcall (calls_setCall_self ..) htear
      rw [show (s.setCall 1 (.returned true)).activated = s.activated from rfl, hactivated] at h
      cases h

end LamcoRdp
