/-
LamcoRdp/Session/LibeiLocks.lean

Who holds the mutexes of a libei session's input.

A call holds `devices.all` while it assigns the roles of a device or takes note that one
was resumed, and `pointer_absolute` while it looks up the region of the absolute device.
`Held` says so of the locks in the state; every step keeps it, and moves one call only.
-/
import LamcoRdp.Session.LibeiInput

namespace LamcoRdp

open Runs Locks

namespace EisInputCall

variable {F : Type*}

/-- The absolute device whose region is being looked up. -/
def lookedUp : EisInputCall F → Option EisObject
  | .injecting _ (.offsetTable device) => some device
  | _ => none

end EisInputCall

namespace LibeiInput

variable {F : Type*} {s t u : LibeiInput F} {i j : ℕ} {before call : EisInputCall F}

/-! ### Who holds the mutexes -/

/-- The mutexes belong to the calls that are where they hold them, and while the region of
an absolute device is looked up the device keeps its role. -/
structure Held (s : LibeiInput F) : Prop where
  all : Owned s.allLock fun i => (s.calls i).holdsAll
  absolute : Owned s.absoluteLock fun i => (s.calls i).holdsAbsolute
  activating : Flagged s.activating fun i => (s.calls i).activates
  found : ∀ i d, (s.calls i).lookedUp = some d → s.roles .pointerAbsolute = some d

theorem held_new : (new : LibeiInput F).Held where
  all := owned_none
  absolute := owned_none
  activating := flagged_none
  found _ _ h := nomatch h

theorem setCall_self (s : LibeiInput F) (i : ℕ) (call : EisInputCall F) :
    (s.setCall i call).calls i = call := by
  simp only [setCall, Function.update_self]

theorem setCall_of_ne (s : LibeiInput F) (call : EisInputCall F) (h : j ≠ i) :
    (s.setCall i call).calls j = s.calls j := by
  simp only [setCall, Function.update_of_ne h]

theorem map_setCall {β : Type*} (f : EisInputCall F → β) (hcalls : u.calls = s.calls) :
    (fun j => f ((u.setCall i call).calls j)) =
      Function.update (fun j => f (s.calls j)) i (f call) := by
  funext j
  rcases eq_or_ne j i with rfl | hj
  · rw [setCall_self, Function.update_self]
  · rw [setCall_of_ne u call hj, Function.update_of_ne hj, hcalls]

/-- A call moves, and the mutexes with it. -/
theorem Held.move (h : s.Held) (hcall : s.calls i = before) (hcalls : u.calls = s.calls)
    (hall : Passes i s.allLock u.allLock before.holdsAll call.holdsAll)
    (habsolute : Passes i s.absoluteLock u.absoluteLock before.holdsAbsolute call.holdsAbsolute)
    (hactivating : PassesFlag s.activating u.activating before.activates call.activates)
    (hown : ∀ d, call.lookedUp = some d → u.roles .pointerAbsolute = some d)
    (hroles : u.roles .pointerAbsolute = s.roles .pointerAbsolute ∨ s.absoluteLock = none) :
    (u.setCall i call).Held where
  all := by
    rw [map_setCall EisInputCall.holdsAll hcalls]
    exact h.all.update (hcall ▸ hall)
  absolute := by
    rw [map_setCall EisInputCall.holdsAbsolute hcalls]
    exact h.absolute.update (hcall ▸ habsolute)
  activating := by
    rw [map_setCall EisInputCall.activates hcalls]
    exact h.activating.update (hcall ▸ hactivating)
  found := by
    intro j d hj
    rcases eq_or_ne j i with rfl | hji
    · rw [setCall_self] at hj
      exact hown d hj
    · rw [setCall_of_ne u call hji, hcalls] at hj
      rcases hroles with hsame | hfree
      · exact hsame.trans (h.found j d hj)
      · -- a device is looked up under the mutex
        have hholds : (s.calls j).holdsAbsolute = true := by
          revert hj
          rcases s.calls j with - | stage | ⟨injection, - | device | - | - | - | -⟩ | ok <;>
            simp [EisInputCall.lookedUp, EisInputCall.holdsAbsolute]
        rw [h.absolute.not_holds hfree j] at hholds
        cases hholds

/-- A change that touches neither calls nor mutexes. -/
theorem Held.same (h : s.Held) (hcalls : u.calls = s.calls) (hall : u.allLock = s.allLock)
    (habsolute : u.absoluteLock = s.absoluteLock) (hactivating : u.activating = s.activating)
    (hroles : u.roles = s.roles) : u.Held where
  all := by rw [hcalls, hall]; exact h.all
  absolute := by rw [hcalls, habsolute]; exact h.absolute
  activating := by rw [hcalls, hactivating]; exact h.activating
  found := by rw [hcalls, hroles]; exact h.found

theorem absoluteLock_of_roleFree {r : EisRole} (h : s.roleFree r = true) :
    r ≠ .pointerAbsolute ∨ s.absoluteLock = none := by
  rcases Bool.or_eq_true_iff.mp h with hne | hfree
  · exact Or.inl (of_decide_eq_true hne)
  · exact Or.inr (Option.isNone_iff_eq_none.mp hfree)

theorem roles_setRole_of_free {r : EisRole} (h : s.roleFree r = true) (device : Option EisObject) :
    (s.setRole r device).roles .pointerAbsolute = s.roles .pointerAbsolute ∨
      s.absoluteLock = none := by
  rcases absoluteLock_of_roleFree h with hne | hfree
  · exact Or.inl (by simp only [setRole, Function.update_of_ne hne.symm])
  · exact Or.inr hfree

theorem Held.handleEvent {conn : ℕ} (h : s.Held)
    (hcall : s.calls i = .activating (.draining conn)) (event : EisEvent) :
    (s.handleEvent i conn event).Held := by
  cases event with
  | seat id => exact h.same rfl rfl rfl rfl rfl
  | seatEvent id event =>
      simp only [LibeiInput.handleEvent]
      split
      · exact h
      · cases event with
        | capability interface mask => exact h.same rfl rfl rfl rfl rfl
        | done => exact h.same rfl rfl rfl rfl rfl
        | device d => exact h.move hcall rfl rfl rfl rfl nofun (Or.inl rfl)
        | other => exact h
  | deviceEvent d event => exact h.move hcall rfl rfl rfl rfl nofun (Or.inl rfl)
  | other => exact h

theorem Held.handleDeviceEvent {conn : ℕ} {device : EisObject} {event : EisDeviceEvent} (h : s.Held)
    (hcall : s.calls i = .activating (.deviceEvent conn device event)) (hfree : s.allLock = none) :
    (s.handleDeviceEvent i conn device event).Held := by
  simp only [LibeiInput.handleDeviceEvent]
  split
  · exact h.move hcall rfl rfl rfl rfl nofun (Or.inl rfl)
  · cases event with
    | deviceType type => exact h.move hcall rfl rfl rfl rfl nofun (Or.inl rfl)
    | interface name => exact h.move hcall rfl rfl rfl rfl nofun (Or.inl rfl)
    | region region => exact h.move hcall rfl rfl rfl rfl nofun (Or.inl rfl)
    | done =>
        dsimp only
        split
        · exact h.move hcall rfl rfl rfl rfl nofun (Or.inl rfl)
        · exact h.move hcall rfl ⟨hfree, rfl⟩ rfl rfl nofun (Or.inl rfl)
    | resumed serial => exact h.move hcall rfl ⟨hfree, rfl⟩ rfl rfl nofun (Or.inl rfl)
    | other => exact h.move hcall rfl rfl rfl rfl nofun (Or.inl rfl)

theorem Held.resumeActivate {stage : ActivateEisStage} {answer : EisAnswer} (h : s.Held)
    (hcall : s.calls i = .activating stage) (hst : s.resumeActivate i stage answer = some t) :
    t.Held := by
  -- most stages only change the call; `move` says what the others must show
  cases stage with
  | waiting =>
      simp only [LibeiInput.resumeActivate] at hst
      split at hst
      · cases hst
      · cases hst
        exact h.move hcall rfl rfl rfl rfl nofun (Or.inl rfl)
  | checking =>
      simp only [LibeiInput.resumeActivate] at hst
      split at hst <;> cases hst
      · exact h.move hcall rfl rfl rfl rfl nofun (Or.inl rfl)
      · exact h.move hcall rfl rfl rfl rfl nofun (Or.inl rfl)
  | clearingDevices =>
      simp only [LibeiInput.resumeActivate] at hst
      split at hst <;> cases hst
      exact h.move hcall rfl rfl rfl rfl nofun (Or.inl rfl)
  | clearingRoles left =>
      cases left with
      | nil =>
          cases hst
          exact h.move hcall rfl rfl rfl rfl nofun (Or.inl rfl)
      -- a role is written only with its lock free
      | cons r left =>
          simp only [LibeiInput.resumeActivate] at hst
          split at hst <;> cases hst
          next hfree => exact h.move hcall rfl rfl rfl rfl nofun (roles_setRole_of_free hfree none)
  | connecting =>
      cases answer <;> cases hst
      · exact h.move hcall rfl rfl rfl rfl nofun (Or.inl rfl)
      · exact h.move hcall rfl rfl rfl rfl nofun (Or.inl rfl)
  | storingContext conn serial =>
      cases hst
      exact h.move hcall rfl rfl rfl rfl nofun (Or.inl rfl)
  | storingConnection conn serial =>
      cases hst
      exact h.move hcall rfl rfl rfl rfl nofun (Or.inl rfl)
  | storingSerial conn serial =>
      cases hst
      exact h.move hcall rfl rfl rfl rfl nofun (Or.inl rfl)
  -- while draining, the event decides
  | draining conn =>
      cases answer with
      | ok =>
          cases hst
          exact h.move hcall rfl rfl rfl rfl nofun (Or.inl rfl)
      | failed =>
          cases hst
          exact h.move hcall rfl rfl rfl rfl nofun (Or.inl rfl)
      | opened serial => cases hst
      | event event =>
          cases hst
          exact h.handleEvent hcall event
  | addingDevice conn device =>
      simp only [LibeiInput.resumeActivate] at hst
      split at hst <;> cases hst
      exact h.move hcall rfl rfl rfl rfl nofun (Or.inl rfl)
  | deviceEvent conn device event =>
      simp only [LibeiInput.resumeActivate] at hst
      split at hst <;> cases hst
      next hfree => exact h.handleDeviceEvent hcall (Option.isNone_iff_eq_none.mp hfree)
  | assigning conn device left =>
      cases left with
      | nil =>
          cases hst
          exact h.move hcall rfl rfl rfl rfl nofun (Or.inl rfl)
      | cons r left =>
          simp only [LibeiInput.resumeActivate] at hst
          split at hst
          -- a role is assigned, its lock free
          next hfree =>
            split at hst <;> cases hst
            · exact h.move hcall rfl rfl rfl rfl nofun (roles_setRole_of_free hfree _)
            · exact h.move hcall rfl rfl rfl rfl nofun (roles_setRole_of_free hfree _)
          next => cases hst
  | resuming conn device serial =>
      cases hst
      exact h.move hcall rfl rfl rfl rfl nofun (Or.inl rfl)

theorem Held.resumeInject {injection : EisInjection F} {stage : InjectStage} {answer : EisAnswer}
    (h : s.Held) (hcall : s.calls i = .injecting injection stage)
    (hst : s.resumeInject i injection stage answer = some t) : t.Held := by
  cases stage with
  | offset =>
      simp only [LibeiInput.resumeInject] at hst
      -- the offset is read under the lock of the absolute pointer
      split at hst
      next hfree =>
        split at hst <;> cases hst
        · exact h.move hcall rfl rfl rfl rfl nofun (Or.inl rfl)
        next device hrole =>
          refine h.move hcall rfl rfl ⟨Option.isNone_iff_eq_none.mp hfree, rfl⟩ rfl ?_ (Or.inl rfl)
          intro d hd
          cases hd
          exact hrole
      next => cases hst
  | offsetTable device =>
      simp only [LibeiInput.resumeInject] at hst
      split at hst <;> cases hst
      exact h.move hcall rfl rfl rfl rfl nofun (Or.inl rfl)
  | role offset =>
      simp only [LibeiInput.resumeInject] at hst
      split at hst
      · split at hst <;> cases hst
        · exact h.move hcall rfl rfl rfl rfl nofun (Or.inl rfl)
        · exact h.move hcall rfl rfl rfl rfl nofun (Or.inl rfl)
      · cases hst
  | table offset device =>
      simp only [LibeiInput.resumeInject] at hst
      split at hst
      · split at hst
        · cases hst
          exact h.move hcall rfl rfl rfl rfl nofun (Or.inl rfl)
        · split at hst <;> cases hst
          · exact h.move hcall rfl rfl rfl rfl nofun (Or.inl rfl)
          · exact h.move hcall rfl rfl rfl rfl nofun (Or.inl rfl)
      · cases hst
  | serial device =>
      cases hst
      exact h.move hcall rfl rfl rfl rfl nofun (Or.inl rfl)
  | flush =>
      simp only [LibeiInput.resumeInject] at hst
      split at hst <;> cases hst
      all_goals exact h.move hcall rfl rfl rfl rfl nofun (Or.inl rfl)

/-- What a step does, by the call that takes it. -/
theorem step?_cases {e : EisInputStep F} (hst : s.step? e = some t) :
    (∃ i, e = .activate i ∧ s.calls i = .notCalled ∧ t = s.startActivate i) ∨
    (∃ i injection, e = .inject i injection ∧ s.calls i = .notCalled ∧
      t = s.setCall i (.injecting injection (if injection.shifted then .offset else .role (0, 0)))) ∨
    (∃ i answer stage, e = .resume i answer ∧ s.calls i = .activating stage ∧
      s.resumeActivate i stage answer = some t) ∨
    ∃ i answer injection stage, e = .resume i answer ∧ s.calls i = .injecting injection stage ∧
      s.resumeInject i injection stage answer = some t := by
  cases e with
  | activate i =>
      simp only [step?] at hst
      split at hst <;> cases hst
      next hcall => exact Or.inl ⟨i, rfl, hcall, rfl⟩
  | inject i injection =>
      simp only [step?] at hst
      split at hst <;> cases hst
      next hcall => exact Or.inr (Or.inl ⟨i, injection, rfl, hcall, rfl⟩)
  | resume i answer =>
      simp only [step?] at hst
      split at hst
      next stage hcall => exact Or.inr (Or.inr (Or.inl ⟨i, answer, stage, rfl, hcall, hst⟩))
      next injection stage hcall =>
        exact Or.inr (Or.inr (Or.inr ⟨i, answer, injection, stage, rfl, hcall, hst⟩))
      next => cases hst

theorem Held.step {e : EisInputStep F} (h : s.Held) (hst : s.step? e = some t) : t.Held := by
  obtain ⟨i, -, hcall, rfl⟩ | ⟨i, injection, -, hcall, rfl⟩ | ⟨i, answer, stage, -, hcall, hst⟩ |
    ⟨i, answer, injection, stage, -, hcall, hst⟩ := step?_cases hst
  · simp only [startActivate]
    split
    · exact h.move hcall rfl rfl rfl rfl nofun (Or.inl rfl)
    next hflag =>
      have hflag' : s.activating = false := Bool.eq_false_iff.mpr hflag
      cases s.eisActivated
      · exact h.move hcall rfl rfl rfl ⟨hflag', rfl⟩ nofun (Or.inl rfl)
      · exact h.move hcall rfl rfl rfl ⟨hflag', rfl⟩ nofun (Or.inl rfl)
  · cases injection.shifted
    · exact h.move hcall rfl rfl rfl rfl nofun (Or.inl rfl)
    · exact h.move hcall rfl rfl rfl rfl nofun (Or.inl rfl)
  · exact h.resumeActivate hcall hst
  · exact h.resumeInject hcall hst

/-! ### A call and the others -/

theorem calls_handleEvent {conn : ℕ} (hj : j ≠ i) (event : EisEvent) :
    (s.handleEvent i conn event).calls j = s.calls j := by
  cases event with
  | seat id => rfl
  | seatEvent id event =>
      simp only [handleEvent]
      split
      · rfl
      · cases event with
        | capability interface mask => rfl
        | done => rfl
        | device d => exact setCall_of_ne s _ hj
        | other => rfl
  | deviceEvent d event => exact setCall_of_ne s _ hj
  | other => rfl

theorem calls_handleDeviceEvent {conn : ℕ} (hj : j ≠ i) (device : EisObject)
    (event : EisDeviceEvent) : (s.handleDeviceEvent i conn device event).calls j = s.calls j := by
  simp only [handleDeviceEvent]
  split
  · exact setCall_of_ne _ _ hj
  · cases event with
    | done =>
        dsimp only
        split <;> exact setCall_of_ne _ _ hj
    | _ => exact setCall_of_ne _ _ hj

theorem calls_resumeActivate {stage : ActivateEisStage} {answer : EisAnswer} (hj : j ≠ i)
    (hst : s.resumeActivate i stage answer = some t) : t.calls j = s.calls j := by
  -- only the call of `i` is written
  cases stage with
  | clearingRoles left =>
      cases left <;> simp only [resumeActivate] at hst
      · cases hst
        exact setCall_of_ne _ _ hj
      · split at hst <;> cases hst
        exact setCall_of_ne _ _ hj
  | draining conn =>
      cases answer <;> cases hst
      · exact setCall_of_ne _ _ hj
      · exact setCall_of_ne _ _ hj
      · exact calls_handleEvent hj _
  | deviceEvent conn device event =>
      simp only [resumeActivate] at hst
      split at hst <;> cases hst
      exact calls_handleDeviceEvent hj device event
  | assigning conn device left =>
      cases left <;> simp only [resumeActivate] at hst
      · cases hst
        exact setCall_of_ne _ _ hj
      · split at hst
        · split at hst <;> cases hst <;> exact setCall_of_ne _ _ hj
        · cases hst
  | connecting => cases answer <;> cases hst <;> exact setCall_of_ne _ _ hj
  | _ =>
      simp only [resumeActivate] at hst
      first
        | (cases hst; exact setCall_of_ne _ _ hj)
        | (split at hst <;> cases hst <;> exact setCall_of_ne _ _ hj)

theorem calls_resumeInject {injection : EisInjection F} {stage : InjectStage} {answer : EisAnswer}
    (hj : j ≠ i) (hst : s.resumeInject i injection stage answer = some t) :
    t.calls j = s.calls j := by
  -- only the call of `i` is written
  cases stage with
  | offset =>
      simp only [resumeInject] at hst
      split at hst
      · split at hst <;> cases hst <;> exact setCall_of_ne _ _ hj
      · cases hst
  | offsetTable device =>
      simp only [resumeInject] at hst
      split at hst <;> cases hst
      exact setCall_of_ne _ _ hj
  | role offset =>
      simp only [resumeInject] at hst
      split at hst
      · split at hst <;> cases hst <;> exact setCall_of_ne _ _ hj
      · cases hst
  | table offset device =>
      simp only [resumeInject] at hst
      split at hst
      · split at hst
        · cases hst
          exact setCall_of_ne _ _ hj
        · split at hst <;> cases hst <;> exact setCall_of_ne _ _ hj
      · cases hst
  | serial device =>
      cases hst
      exact setCall_of_ne _ _ hj
  | flush =>
      simp only [resumeInject] at hst
      split at hst <;> cases hst <;> exact setCall_of_ne _ _ hj

/-- A step of one call leaves the others where they are. -/
theorem calls_of_step? {e : EisInputStep F} (hst : s.step? e = some t) (hj : j ≠ e.call) :
    t.calls j = s.calls j := by
  obtain ⟨i, rfl, -, rfl⟩ | ⟨i, injection, rfl, -, rfl⟩ | ⟨i, answer, stage, rfl, -, hst⟩ |
    ⟨i, answer, injection, stage, rfl, -, hst⟩ := step?_cases hst
  · simp only [startActivate]
    split <;> exact setCall_of_ne _ _ hj
  · exact setCall_of_ne s _ hj
  · exact calls_resumeActivate hj hst
  · exact calls_resumeInject hj hst

end LibeiInput

end LamcoRdp
