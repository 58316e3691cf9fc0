/-
LamcoRdp/Session/LibeiDeadlock.lean

The deadlock that a libei session's input allows.

An activation that handles the `Done` of a device locks `devices.all` and then the roles,
`pointer_absolute` among them; an absolute motion locks `pointer_absolute` and then, if a
device has that role, `devices.all`.  If the device has the role already when another one
is given it, the two can wait for each other.  No other order of the calls can: outside
that state every call can return, and the state is not reached where the absolute role
is given to a device only while no device has it (`libei_deadlock`).

A compositor that announces two virtual absolute devices in one burst is enough
(`libei_deadlock_two_devices`): the activation keeps `activating` set and `devices.all`
locked, so that no later activation returns and no later request is made.
-/
import LamcoRdp.Session.LibeiLocks

namespace LamcoRdp

open Runs Locks

/-! ### Ranks -/

/-- How far `activate_eis` is from its return. -/
@[simp]
def ActivateEisStage.rank : ActivateEisStage → ℕ
  | .waiting => 0
  | .checking => 13
  | .clearingDevices => 12
  | .clearingRoles left => left.length + 7
  | .connecting => 6
  | .storingContext _ _ => 5
  | .storingConnection _ _ => 4
  | .storingSerial _ _ => 3
  | .draining _ => 1
  | .addingDevice _ _ => 2
  | .deviceEvent _ _ _ => 8
  | .assigning _ _ left => left.length + 2
  | .resuming _ _ _ => 2

/-- How many steps a call of an injection may still take. -/
@[simp]
def InjectStage.rank : InjectStage → ℕ
  | .offset => 6
  | .offsetTable _ => 5
  | .role _ => 4
  | .table _ _ => 3
  | .serial _ => 2
  | .flush => 1

namespace EisInputCall

variable {F : Type*}

/-- How many steps a call may still take, if no event comes in. -/
@[simp]
def rank : EisInputCall F → ℕ
  | .notCalled => 0
  | .activating stage => stage.rank
  | .injecting _ stage => stage.rank
  | .returned _ => 0

/-- The call has been made, and does not wait for another activation. -/
def Steady : EisInputCall F → Prop
  | .notCalled => False
  | .activating .waiting => False
  | _ => True

theorem steady_of_inside {call : EisInputCall F} (h : call.Inside)
    (hnot : call ≠ .activating .waiting) : call.Steady := by
  cases call with
  | notCalled => exact h.elim
  | activating stage => cases stage <;> first | exact trivial | exact absurd rfl hnot
  | injecting injection stage => trivial
  | returned ok => trivial

theorem steady_of_activates {call : EisInputCall F} (h : call.activates = true) : call.Steady := by
  cases call with
  | activating stage => cases stage <;> first | exact trivial | cases h
  | _ => cases h

theorem not_activates_of_returned {call : EisInputCall F} (h : call.Returned) :
    call.activates = false := by
  cases call with
  | returned ok => rfl
  | _ => exact h.elim

end EisInputCall

theorem DeviceData.length_assignedRoles (data : DeviceData) : data.assignedRoles.length ≤ 4 := by
  rw [DeviceData.assignedRoles]
  split
  · exact List.length_filter_le _ _
  · exact Nat.zero_le _

namespace LibeiInput

variable {F : Type*} {s t u : LibeiInput F} {i j k : ℕ} {c : EisInputCall F}

/-! ### A call that finds the mutexes free -/

/-- Nobody but call `i` has locked a mutex. -/
structure Unblocked (s : LibeiInput F) (i : ℕ) : Prop where
  all : s.allLock = none ∨ s.allLock = some i
  absolute : s.absoluteLock = none ∨ s.absoluteLock = some i

/-- Call `i` has a step towards its return. -/
def Goes (s : LibeiInput F) (i : ℕ) : Prop :=
  ∃ e t, s.step? e = some t ∧ e.call = i ∧ t.Unblocked i ∧
    (t.calls i).rank < (s.calls i).rank ∧ (t.calls i).Steady

theorem Goes.of_activate {stage : ActivateEisStage} (answer : EisAnswer)
    (hcall : s.calls i = .activating stage)
    (hst : s.resumeActivate i stage answer = some (u.setCall i c)) (hu : u.Unblocked i)
    (hrank : c.rank < stage.rank) (hsteady : c.Steady) : s.Goes i := by
  refine ⟨.resume i answer, u.setCall i c, ?_, rfl, ⟨hu.all, hu.absolute⟩, ?_, ?_⟩
  · simp only [step?, hcall]
    exact hst
  · rw [setCall_self, hcall]
    exact hrank
  · rw [setCall_self]
    exact hsteady

theorem Goes.of_inject {injection : EisInjection F} {stage : InjectStage} (answer : EisAnswer)
    (hcall : s.calls i = .injecting injection stage)
    (hst : s.resumeInject i injection stage answer = some (u.setCall i c)) (hu : u.Unblocked i)
    (hrank : c.rank < stage.rank) (hsteady : c.Steady) : s.Goes i := by
  refine ⟨.resume i answer, u.setCall i c, ?_, rfl, ⟨hu.all, hu.absolute⟩, ?_, ?_⟩
  · simp only [step?, hcall]
    exact hst
  · rw [setCall_self, hcall]
    exact hrank
  · rw [setCall_self]
    exact hsteady

theorem Held.allLock_isNone (h : s.Held) (hu : s.Unblocked i) (hcall : s.calls i = c)
    (hnot : c.holdsAll = false) : s.allLock.isNone = true := by
  rcases hu.all with hfree | howned
  · rw [hfree]
    rfl
  · have hholds : (s.calls i).holdsAll = true := (h.all i).mp howned
    rw [hcall, hnot] at hholds
    cases hholds

theorem Held.absoluteLock_isNone (h : s.Held) (hu : s.Unblocked i) (hcall : s.calls i = c)
    (hnot : c.holdsAbsolute = false) : s.absoluteLock.isNone = true := by
  rcases hu.absolute with hfree | howned
  · rw [hfree]
    rfl
  · have hholds : (s.calls i).holdsAbsolute = true := (h.absolute i).mp howned
    rw [hcall, hnot] at hholds
    cases hholds

theorem roleFree_of_isNone (h : s.absoluteLock.isNone = true) (r : EisRole) :
    s.roleFree r = true := by
  rw [roleFree, h, Bool.or_true]

/-- What the event of a device does, up to the place where it leaves the activation. -/
theorem handleDeviceEvent_eq (hu : s.Unblocked i) (conn : ℕ) (device : EisObject)
    (event : EisDeviceEvent) : ∃ (u : LibeiInput F) (call : EisInputCall F),
      s.handleDeviceEvent i conn device event = u.setCall i call ∧
      u.Unblocked i ∧ call.rank < (ActivateEisStage.deviceEvent conn device event).rank ∧
      call.Steady := by
  simp only [handleDeviceEvent]
  split
  · exact ⟨s, _, rfl, hu, by simp, trivial⟩
  next data _ =>
    cases event with
    | deviceType type => exact ⟨_, _, rfl, ⟨hu.all, hu.absolute⟩, by simp, trivial⟩
    | interface name => exact ⟨_, _, rfl, ⟨hu.all, hu.absolute⟩, by simp, trivial⟩
    | region region => exact ⟨_, _, rfl, ⟨hu.all, hu.absolute⟩, by simp, trivial⟩
    | done =>
        dsimp only
        have hlength := data.length_assignedRoles
        split
        · exact ⟨s, _, rfl, hu, by simp, trivial⟩
        · refine ⟨_, _, rfl, ⟨Or.inr rfl, hu.absolute⟩, ?_, trivial⟩
          simp only [EisInputCall.rank, ActivateEisStage.rank]
          omega
    | resumed serial => exact ⟨_, _, rfl, ⟨Or.inr rfl, hu.absolute⟩, by simp, trivial⟩
    | other => exact ⟨s, _, rfl, hu, by simp, trivial⟩

theorem Held.goes_activate {stage : ActivateEisStage} (h : s.Held) (hu : s.Unblocked i)
    (hcall : s.calls i = .activating stage) (hsteady : stage ≠ .waiting) : s.Goes i := by
  -- its locks are free, so each stage but the wait moves on
  have hrole := roleFree_of_isNone (h.absoluteLock_isNone hu hcall rfl)
  cases stage with
  | waiting => exact absurd rfl hsteady
  | checking =>
      cases hcontext : s.context with
      | none =>
          exact .of_activate .failed hcall (u := s) (c := .activating .clearingDevices)
            (by simp only [LibeiInput.resumeActivate, hcontext]) hu (Nat.lt_succ_self _) trivial
      | some conn =>
          exact .of_activate .ok hcall (u := { s with activating := false }) (c := .returned true)
            (by simp only [LibeiInput.resumeActivate, hcontext, finish]) ⟨hu.all, hu.absolute⟩
            (Nat.zero_lt_succ _) trivial
  | clearingDevices =>
      have hall := h.allLock_isNone hu hcall rfl
      exact .of_activate .ok hcall (if_pos hall) ⟨hu.all, hu.absolute⟩ (by simp) trivial
  | clearingRoles left =>
      cases left with
      | nil =>
          exact .of_activate .ok hcall rfl ⟨hu.all, hu.absolute⟩ (by simp) trivial
      | cons r left =>
          exact .of_activate .ok hcall (if_pos (hrole r)) ⟨hu.all, hu.absolute⟩
            (Nat.lt_succ_self _) trivial
  -- whatever the answer may be, one that moves the call is enough
  | connecting =>
      exact .of_activate (.opened 0) hcall rfl ⟨hu.all, hu.absolute⟩ (Nat.lt_succ_self _) trivial
  | storingContext conn serial =>
      exact .of_activate .ok hcall rfl ⟨hu.all, hu.absolute⟩ (Nat.lt_succ_self _) trivial
  | storingConnection conn serial =>
      exact .of_activate .ok hcall rfl ⟨hu.all, hu.absolute⟩ (Nat.lt_succ_self _) trivial
  | storingSerial conn serial =>
      exact .of_activate .ok hcall rfl ⟨hu.all, hu.absolute⟩ (by simp) trivial
  | draining conn =>
      exact .of_activate .ok hcall rfl ⟨hu.all, hu.absolute⟩ (by simp) trivial
  | addingDevice conn device =>
      have hall := h.allLock_isNone hu hcall rfl
      exact .of_activate .ok hcall (if_pos hall) ⟨hu.all, hu.absolute⟩ (by simp) trivial
  | deviceEvent conn device event =>
      have hall := h.allLock_isNone hu hcall rfl
      obtain ⟨u, call, heq, hu', hrank, hcallSteady⟩ := handleDeviceEvent_eq hu conn device event
      refine .of_activate .ok hcall ?_ hu' hrank hcallSteady
      rw [← heq]
      exact if_pos hall
  | assigning conn device left =>
      cases left with
      | nil => exact .of_activate .ok hcall rfl ⟨Or.inl rfl, hu.absolute⟩ (by simp) trivial
      | cons r left =>
          by_cases hleft : left = []
          · exact .of_activate .ok hcall ((if_pos (hrole r)).trans (if_pos hleft))
              ⟨Or.inl rfl, hu.absolute⟩ (by simp) trivial
          · exact .of_activate .ok hcall ((if_pos (hrole r)).trans (if_neg hleft))
              ⟨hu.all, hu.absolute⟩ (by simp) trivial
  | resuming conn device serial =>
      exact .of_activate .ok hcall rfl ⟨Or.inl rfl, hu.absolute⟩ (by simp) trivial

theorem Held.goes_inject {injection : EisInjection F} {stage : InjectStage} (h : s.Held)
    (hu : s.Unblocked i) (hcall : s.calls i = .injecting injection stage) : s.Goes i := by
  -- the table of devices is free
  have hall := h.allLock_isNone hu hcall rfl
  cases stage with
  | offset =>
      -- the lock of the absolute pointer is taken for the offset
      have habsolute := h.absoluteLock_isNone hu hcall rfl
      cases hdevice : s.roles .pointerAbsolute with
      | none =>
          exact .of_inject .ok hcall (u := s) (c := .injecting injection (.role (0, 0)))
            (by simp only [LibeiInput.resumeInject, habsolute, hdevice, if_true]) hu (by simp)
            trivial
      | some device =>
          exact .of_inject .ok hcall (u := { s with absoluteLock := some i })
            (c := .injecting injection (.offsetTable device))
            (by simp only [LibeiInput.resumeInject, habsolute, hdevice, if_true])
            ⟨hu.all, Or.inr rfl⟩ (by simp) trivial
  | offsetTable device =>
      exact .of_inject .ok hcall (if_pos hall) ⟨hu.all, Or.inl rfl⟩ (by simp) trivial
  | role offset =>
      have hrole := roleFree_of_isNone (h.absoluteLock_isNone hu hcall rfl) injection.role
      cases hdevice : s.roles injection.role with
      | none =>
          exact .of_inject .ok hcall (u := s) (c := .returned false)
            (by simp only [LibeiInput.resumeInject, hrole, hdevice, if_true]) hu (by simp) trivial
      | some device =>
          exact .of_inject .ok hcall (u := s) (c := .injecting injection (.table offset device))
            (by simp only [LibeiInput.resumeInject, hrole, hdevice, if_true]) hu (by simp) trivial
  -- without the device or the interface the call ends
  | table offset device =>
      cases hdata : s.all device with
      | none =>
          exact .of_inject .ok hcall (u := s) (c := .returned false)
            (by simp only [LibeiInput.resumeInject, hall, hdata, if_true]) hu (by simp) trivial
      | some data =>
          by_cases hinterface : data.interfaces.contains injection.interface = true
          · exact .of_inject .ok hcall
              (u := s.send ((injection.requests offset).map (.request device injection.interface)))
              (c := .injecting injection (.serial device))
              (by simp only [LibeiInput.resumeInject, hall, hdata, hinterface, if_true])
              ⟨hu.all, hu.absolute⟩ (by simp) trivial
          · exact .of_inject .ok hcall (u := s) (c := .returned false)
              (by simp only [LibeiInput.resumeInject, hall, hdata, if_true]; exact if_neg hinterface)
              hu (by simp) trivial
  | serial device =>
      exact .of_inject .ok hcall rfl ⟨hu.all, hu.absolute⟩ (by simp) trivial
  | flush =>
      cases hcontext : s.context with
      | none =>
          exact .of_inject .ok hcall (u := s) (c := .returned false)
            (by simp only [LibeiInput.resumeInject, hcontext]) hu (by simp) trivial
      | some conn =>
          exact .of_inject .ok hcall (u := s) (c := .returned true)
            (by simp only [LibeiInput.resumeInject, hcontext]) hu (by simp) trivial

/-- A call that has returned, or one that can go on. -/
theorem Held.goes (h : s.Held) (hu : s.Unblocked i) (hsteady : (s.calls i).Steady) :
    (s.calls i).Returned ∨ s.Goes i := by
  cases hcall : s.calls i with
  | notCalled =>
      rw [hcall] at hsteady
      exact hsteady.elim
  | activating stage =>
      refine Or.inr (h.goes_activate hu hcall ?_)
      rintro rfl
      rw [hcall] at hsteady
      exact hsteady
  | injecting injection stage => exact Or.inr (h.goes_inject hu hcall)
  | returned ok => exact Or.inl trivial

/-! ### Out of the mutexes -/

/-- What has gone on between `s` and `t` has ended no call and begun none. -/
structure Passed (s t : LibeiInput F) : Prop where
  steady : ∀ k, (s.calls k).Steady → (t.calls k).Steady
  activates : ∀ k, (t.calls k).activates = (s.calls k).activates
  waiting : ∀ k, s.calls k = .activating .waiting → t.calls k = .activating .waiting

theorem Passed.refl (s : LibeiInput F) : Passed s s := ⟨fun _ h => h, fun _ => rfl, fun _ h => h⟩

theorem Passed.trans (h : Passed s t) (h' : Passed t u) : Passed s u where
  steady k hk := h'.steady k (h.steady k hk)
  activates k := (h'.activates k).trans (h.activates k)
  waiting k hk := h'.waiting k (h.waiting k hk)

theorem Passed.of_move (hcalls : u.calls = s.calls) (hbefore : s.calls i ≠ .activating .waiting)
    (hsteady : call.Steady) (hactivates : call.activates = (s.calls i).activates) :
    Passed s (u.setCall i call) := by
  constructor
  · intro k hk
    rcases eq_or_ne k i with rfl | hki
    · rwa [setCall_self]
    · rwa [setCall_of_ne u call hki, hcalls]
  · intro k
    rcases eq_or_ne k i with rfl | hki
    · rwa [setCall_self]
    · rw [setCall_of_ne u call hki, hcalls]
  · intro k hk
    rcases eq_or_ne k i with rfl | hki
    · exact absurd hk hbefore
    · rwa [setCall_of_ne u call hki, hcalls]

theorem step?_activating {stage : ActivateEisStage} (answer : EisAnswer)
    (hcall : s.calls i = .activating stage) :
    s.step? (.resume i answer) = s.resumeActivate i stage answer := by
  simp only [step?, hcall]

theorem step?_injecting {injection : EisInjection F} {stage : InjectStage} (answer : EisAnswer)
    (hcall : s.calls i = .injecting injection stage) :
    s.step? (.resume i answer) = s.resumeInject i injection stage answer := by
  simp only [step?, hcall]

/-- An activation whose roles are free assigns them and gives `devices.all` back. -/
theorem Held.leads_assigned {conn : ℕ} {device : EisObject} {left : List EisRole} (h : s.Held)
    (hcall : s.calls i = .activating (.assigning conn device left))
    (hfree : EisRole.pointerAbsolute ∈ left → s.absoluteLock = none) :
    Leads (StepOf step?) s fun t => t.Held ∧ t.allLock = none ∧ Passed s t := by
  induction left generalizing s with
  | nil =>
      have hst := step?_activating .ok hcall
      refine leads_step hst (leads_now ⟨h.step hst, rfl, ?_⟩)
      exact .of_move rfl (by rw [hcall]; nofun) trivial (by rw [hcall]; rfl)
  -- the first role is assigned when its lock is free, the rest by induction
  | cons r left ih =>
      have hrole : s.roleFree r = true := by
        by_cases hr : r = .pointerAbsolute
        · rw [roleFree, hfree (hr ▸ List.mem_cons_self)]
          exact Bool.or_true _
        · rw [roleFree, decide_eq_true hr]
          exact Bool.true_or _
      by_cases hleft : left = []
      · have hst := (step?_activating .ok hcall).trans ((if_pos hrole).trans (if_pos hleft))
        refine leads_step hst (leads_now ⟨h.step hst, rfl, ?_⟩)
        exact .of_move rfl (by rw [hcall]; nofun) trivial (by rw [hcall]; rfl)
      · have hst := (step?_activating .ok hcall).trans ((if_pos hrole).trans (if_neg hleft))
        have hpassed : Passed s ((s.setRole r (some device)).setCall i
            (.activating (.assigning conn device left))) :=
          .of_move rfl (by rw [hcall]; nofun) trivial (by rw [hcall]; rfl)
        refine leads_step hst ((ih (h.step hst) (setCall_self _ i _) ?_).trans ?_)
        · exact fun hmem => hfree (List.mem_cons_of_mem r hmem)
        · exact fun t ⟨ht, hall, hst⟩ => leads_now ⟨ht, hall, hpassed.trans hst⟩

/-- Activation `i` has locked `devices.all` and is still to assign `pointer_absolute`, and
motion `j` has locked `pointer_absolute` and waits for `devices.all`. -/
structure Deadlocked (s : LibeiInput F) (i j : ℕ) : Prop where
  assigns : ∃ conn device left, s.calls i = .activating (.assigning conn device left) ∧
    EisRole.pointerAbsolute ∈ left
  looksUp : ∃ injection device, s.calls j = .injecting injection (.offsetTable device)

/-- Two calls wait for each other. -/
def Deadlock (s : LibeiInput F) : Prop := ∃ i j, s.Deadlocked i j

theorem exists_offsetTable {call : EisInputCall F} (h : call.holdsAbsolute = true) :
    ∃ injection device, call = .injecting injection (.offsetTable device) := by
  cases call with
  | injecting injection stage =>
      cases stage <;> cases h
      exact ⟨injection, _, rfl⟩
  | _ => cases h

theorem exists_of_holdsAll {call : EisInputCall F} (h : call.holdsAll = true) :
    (∃ conn device left, call = .activating (.assigning conn device left)) ∨
      ∃ conn device serial, call = .activating (.resuming conn device serial) := by
  cases call with
  | activating stage =>
      cases stage <;> cases h
      · exact Or.inl ⟨_, _, _, rfl⟩
      · exact Or.inr ⟨_, _, _, rfl⟩
  | _ => cases h

/-- Outside a deadlock the mutexes that are held can all be given back. -/
theorem Held.leads_free (h : s.Held) (hdead : ¬ s.Deadlock) :
    Leads (StepOf step?) s fun t =>
      t.Held ∧ t.allLock = none ∧ t.absoluteLock = none ∧ Passed s t := by
  have hall : Leads (StepOf step?) s fun t => t.Held ∧ t.allLock = none ∧ Passed s t := by
    cases hlock : s.allLock with
    | none => exact leads_now ⟨h, hlock, .refl s⟩
    | some i =>
        rcases exists_of_holdsAll ((h.all i).mp hlock) with ⟨conn, device, left, hcall⟩ |
          ⟨conn, device, serial, hcall⟩
        · refine h.leads_assigned hcall fun hmem => ?_
          -- whoever had the role locked would be in a deadlock with the activation
          cases habsolute : s.absoluteLock with
          | none => rfl
          | some j =>
              have hj := exists_offsetTable ((h.absolute j).mp habsolute)
              exact absurd ⟨i, j, ⟨conn, device, left, hcall, hmem⟩, hj⟩ hdead
        · have hst := step?_activating .ok hcall
          refine leads_step hst (leads_now ⟨h.step hst, rfl, ?_⟩)
          exact .of_move rfl (by rw [hcall]; nofun) trivial (by rw [hcall]; rfl)
  refine hall.trans fun t ⟨ht, hall, hpassed⟩ => ?_
  cases hlock : t.absoluteLock with
  | none => exact leads_now ⟨ht, hall, hlock, hpassed⟩
  | some j =>
      obtain ⟨injection, device, hcall⟩ := exists_offsetTable ((ht.absolute j).mp hlock)
      have hst := (step?_injecting .ok hcall).trans (if_pos (by rw [hall]; rfl))
      refine leads_step hst (leads_now ⟨ht.step hst, hall, rfl, hpassed.trans ?_⟩)
      exact .of_move rfl (by rw [hcall]; nofun) trivial (by rw [hcall]; rfl)

/-- What is shown of the state in which call `i` has returned. -/
structure Ended (s : LibeiInput F) (i : ℕ) (t : LibeiInput F) : Prop where
  held : t.Held
  returned : (t.calls i).Returned
  activates : ∀ k, k ≠ i → (t.calls k).activates = (s.calls k).activates
  waiting : ∀ k, s.calls k = .activating .waiting → t.calls k = .activating .waiting

/-- Outside a deadlock a call that does not wait for another activation can return. -/
theorem Held.leads_ended (h : s.Held) (hdead : ¬ s.Deadlock) (hsteady : (s.calls i).Steady) :
    Leads (StepOf step?) s (s.Ended i) := by
  refine (h.leads_free hdead).trans fun t ⟨ht, hall, habsolute, hpassed⟩ => ?_
  let I (u : LibeiInput F) : Prop := u.Held ∧ u.Unblocked i ∧ (u.calls i).Steady ∧
    ∀ k, k ≠ i → u.calls k = t.calls k
  have hI : I t := ⟨ht, ⟨Or.inl hall, Or.inl habsolute⟩, hpassed.steady i hsteady, fun _ _ => rfl⟩
  refine leads_of_falls (I := I) (m := fun u => (u.calls i).rank) ?_ hI
  rintro u ⟨hu, hunblocked, husteady, hothers⟩
  rcases hu.goes hunblocked husteady with hreturned | ⟨e, v, hst, rfl, hv, hrank, hvsteady⟩
  · refine Or.inl ⟨hu, hreturned, fun k hk => ?_, fun k hk => ?_⟩
    · rw [hothers k hk, hpassed.activates k]
    · have hki : k ≠ i := by
        rintro rfl
        rw [hk] at hsteady
        exact hsteady
      rw [hothers k hki, hpassed.waiting k hk]
  · refine Or.inr ⟨e, v, hst, ⟨hu.step hst, hv, hvsteady, fun k hk => ?_⟩, hrank⟩
    rw [calls_of_step? hst hk, hothers k hk]

/-- Outside a deadlock every call that has been made can return. -/
theorem Held.leads_returned (h : s.Held) (hdead : ¬ s.Deadlock) (hin : (s.calls i).Inside) :
    Leads (StepOf step?) s fun t => (t.calls i).Returned := by
  by_cases hwaiting : s.calls i = .activating .waiting
  · -- first the activation that is waited for, then the one that waits
    have hlast (t : LibeiInput F) (hi : t.calls i = .activating .waiting)
        (hflag : t.activating = false) :
        Leads (StepOf step?) t fun u => (u.calls i).Returned := by
      have hst : t.step? (.resume i .ok) = some (t.setCall i (.returned true)) :=
        (step?_activating .ok hi).trans (if_neg (by rw [hflag]; exact Bool.false_ne_true))
      refine leads_step hst (leads_now ?_)
      rw [setCall_self]
      trivial
    cases hflag : s.activating with
    | false => exact hlast s hwaiting hflag
    | true =>
        obtain ⟨k, hk⟩ := h.activating.exists_holds hflag
        have hended := h.leads_ended hdead (EisInputCall.steady_of_activates hk)
        refine hended.trans fun t ht => hlast t (ht.waiting i hwaiting) ?_
        -- no other call activates
        by_contra hset
        obtain ⟨l, hl⟩ := ht.held.activating.exists_holds (Bool.not_eq_false _ ▸ hset)
        have hlk : l ≠ k := by
          rintro rfl
          rw [EisInputCall.not_activates_of_returned ht.returned] at hl
          cases hl
        exact hlk (h.activating.eq ((ht.activates l hlk).symm.trans hl) hk)
  · have hsteady := EisInputCall.steady_of_inside hin hwaiting
    exact (h.leads_ended hdead hsteady).trans fun t ht => leads_now ht.returned

/-! ### In a deadlock -/

/-- What has been asked of the devices. -/
def requests (s : LibeiInput F) : List (EisObject × String × EisRequest F) :=
  s.wire.filterMap fun q =>
    match q.2 with
    | .request device interface request => some (device, interface, request)
    | _ => none

/-- Requests are made in the table only. -/
theorem requests_resumeInject {injection : EisInjection F} {stage : InjectStage} {answer : EisAnswer}
    (hlock : s.allLock.isNone = false) (hst : s.resumeInject i injection stage answer = some t) :
    t.requests = s.requests := by
  -- requests are made with the table, which is locked
  cases stage with
  | offset =>
      simp only [LibeiInput.resumeInject] at hst
      split at hst
      · split at hst <;> cases hst <;> rfl
      · cases hst
  | offsetTable device =>
      simp only [LibeiInput.resumeInject, hlock] at hst
      cases hst
  | role offset =>
      simp only [LibeiInput.resumeInject] at hst
      split at hst
      · split at hst <;> cases hst <;> rfl
      · cases hst
  | table offset device =>
      simp only [LibeiInput.resumeInject, hlock] at hst
      cases hst
  -- a frame is no request
  | serial device =>
      cases hst
      exact List.filterMap_append.trans (List.append_nil _)
  | flush =>
      simp only [LibeiInput.resumeInject] at hst
      split at hst <;> cases hst <;> rfl

/-- A deadlock stays, and nothing is asked of a device in it. -/
theorem Deadlocked.step {e : EisInputStep F} (h : s.Held) (hd : s.Deadlocked i j)
    (hst : s.step? e = some t) :
    t.Deadlocked i j ∧ t.requests = s.requests ∧
      ∀ k stage, s.calls k = .activating stage → t.calls k = .activating stage ∨ k = i := by
  obtain ⟨⟨conn, device, left, hi, hmem⟩, injection, found, hj⟩ := hd
  have hall : s.allLock = some i := (h.all i).mpr (congrArg EisInputCall.holdsAll hi)
  have habsolute : s.absoluteLock = some j :=
    (h.absolute j).mpr (congrArg EisInputCall.holdsAbsolute hj)
  have hactivates : (s.calls i).activates = true := by rw [hi]; rfl
  have hflag : s.activating = true := h.activating.of_holds hactivates
  -- a step of neither leaves both where they are
  have hstays (hei : e.call ≠ i) (hej : e.call ≠ j) : t.Deadlocked i j :=
    ⟨⟨conn, device, left, (calls_of_step? hst hei.symm).trans hi, hmem⟩,
      injection, found, (calls_of_step? hst hej.symm).trans hj⟩
  have hother (k : ℕ) (stage : ActivateEisStage) (hk : s.calls k = .activating stage)
      (hke : k ≠ e.call) : t.calls k = .activating stage ∨ k = i :=
    Or.inl ((calls_of_step? hst hke).trans hk)
  obtain ⟨k, rfl, hk, rfl⟩ | ⟨k, inj, rfl, hk, rfl⟩ | ⟨k, answer, stage, rfl, hk, hst'⟩ |
    ⟨k, answer, inj, stage, rfl, hk, hst'⟩ := step?_cases hst
  · have hki : k ≠ i := by rintro rfl; rw [hi] at hk; cases hk
    have hkj : k ≠ j := by rintro rfl; rw [hj] at hk; cases hk
    refine ⟨hstays hki hkj, ?_, fun l stage hl => hother l stage hl ?_⟩
    · rw [startActivate, if_pos hflag]
      rfl
    · rintro rfl
      exact absurd (hl.symm.trans hk) fun heq => by cases heq
  · have hki : k ≠ i := by rintro rfl; rw [hi] at hk; cases hk
    have hkj : k ≠ j := by rintro rfl; rw [hj] at hk; cases hk
    refine ⟨hstays hki hkj, rfl, fun l stage hl => hother l stage hl ?_⟩
    rintro rfl
    exact absurd (hl.symm.trans hk) fun heq => by cases heq
  · by_cases hki : k = i
    · subst hki
      obtain rfl : stage = .assigning conn device left := by
        rw [hi] at hk
        injection hk with hk
        exact hk.symm
      obtain ⟨r, left, rfl⟩ := List.exists_cons_of_ne_nil (List.ne_nil_of_mem hmem)
      simp only [LibeiInput.resumeActivate] at hst'
      split at hst'
      next hfree =>
        -- the role that is assigned is another one, and the absolute role is still to come
        have hr : r ≠ .pointerAbsolute := by
          rcases absoluteLock_of_roleFree hfree with hne | hnone
          · exact hne
          · rw [habsolute] at hnone
            cases hnone
        have hmem' : EisRole.pointerAbsolute ∈ left :=
          (List.mem_cons.mp hmem).resolve_left hr.symm
        rw [if_neg (List.ne_nil_of_mem hmem')] at hst'
        cases hst'
        have hjk : j ≠ k := by rintro rfl; rw [hj] at hk; cases hk
        refine ⟨⟨⟨conn, device, left, setCall_self _ k _, hmem'⟩, injection, found, ?_⟩, rfl, ?_⟩
        · exact (calls_of_step? hst hjk).trans hj
        · intro l stage hl
          by_cases hlk : l = k
          · exact Or.inr hlk
          · exact hother l stage hl hlk
      next => cases hst'
    · -- any other activation waits for this one
      have hwaiting : stage = .waiting := by
        by_contra hne
        have hkact : (s.calls k).activates = true := by
          rw [hk]
          cases stage <;> first | rfl | exact absurd rfl hne
        exact hki (h.activating.eq hkact hactivates)
      subst hwaiting
      simp only [LibeiInput.resumeActivate, hflag] at hst'
      cases hst'
  · have hki : k ≠ i := by rintro rfl; rw [hi] at hk; cases hk
    have hlock : s.allLock.isNone = false := by rw [hall]; rfl
    have hkj : k ≠ j := by
      rintro rfl
      obtain ⟨rfl, rfl⟩ : inj = injection ∧ stage = .offsetTable found := by
        rw [hj] at hk
        cases hk
        exact ⟨rfl, rfl⟩
      simp only [LibeiInput.resumeInject, hlock] at hst'
      cases hst'
    refine ⟨hstays hki hkj, requests_resumeInject hlock hst', fun l stage hl => hother l stage hl ?_⟩
    rintro rfl
    exact absurd (hl.symm.trans hk) fun heq => by cases heq

/-- Whatever is done in a deadlock, it stays, nothing is asked of a device, and no
activation that has been called returns. -/
theorem Deadlocked.run {es : List (EisInputStep F)} (h : s.Held) (hd : s.Deadlocked i j)
    (hrun : Run (StepOf step?) s es t) :
    t.Held ∧ t.Deadlocked i j ∧ t.requests = s.requests ∧
      ∀ k stage, s.calls k = .activating stage → ∃ stage', t.calls k = .activating stage' := by
  induction hrun with
  | nil => exact ⟨h, hd, rfl, fun k stage hk => ⟨stage, hk⟩⟩
  | snoc _ hst ih =>
      obtain ⟨hu, hud, hrequests, hcalls⟩ := ih
      obtain ⟨hvd, hsame, hothers⟩ := hud.step hu hst
      refine ⟨hu.step hst, hvd, hsame.trans hrequests, fun k stage hk => ?_⟩
      obtain ⟨stage', hk'⟩ := hcalls k stage hk
      rcases hothers k stage' hk' with hstays | rfl
      · exact ⟨stage', hstays⟩
      · obtain ⟨conn, device, left, hi, -⟩ := hvd.assigns
        exact ⟨_, hi⟩

/-! ### Out of the way of a deadlock -/

/-- The absolute role is given to a device only where no device has it. -/
def FreshAbsolute (s : LibeiInput F) (e : EisInputStep F) : Prop :=
  ∀ conn device data, s.calls e.call = .activating (.deviceEvent conn device .done) →
    s.all device = some data → EisRole.pointerAbsolute ∈ data.assignedRoles →
    s.roles .pointerAbsolute = none

/-- The roles that are left are different, and the absolute role among them is free. -/
def FreshLeft (s : LibeiInput F) : Prop :=
  ∀ i conn device left, s.calls i = .activating (.assigning conn device left) →
    left.Nodup ∧ (EisRole.pointerAbsolute ∈ left → s.roles .pointerAbsolute = none)

theorem nodup_assignedRoles (data : DeviceData) : data.assignedRoles.Nodup := by
  rw [DeviceData.assignedRoles]
  split
  · exact List.Pairwise.filter _ (by decide)
  · exact List.nodup_nil

/-- A call that does not come to assign roles moves, and the absolute role is not given. -/
theorem FreshLeft.keep (hf : s.FreshLeft) (hcalls : u.calls = s.calls)
    (hroles : s.roles .pointerAbsolute = none → u.roles .pointerAbsolute = none)
    (hcall : ∀ conn device left, call ≠ .activating (.assigning conn device left)) :
    (u.setCall i call).FreshLeft := by
  intro k conn device left hk
  rcases eq_or_ne k i with rfl | hki
  · rw [setCall_self] at hk
    exact absurd hk (hcall conn device left)
  · rw [setCall_of_ne u call hki, hcalls] at hk
    exact (hf k conn device left hk).imp_right fun hfree hmem => hroles (hfree hmem)

/-- The activation moves. -/
theorem FreshLeft.own (h : s.Held) (hactivates : (s.calls i).activates = true)
    (hcalls : u.calls = s.calls)
    (hcall : ∀ conn device left, call = .activating (.assigning conn device left) →
      left.Nodup ∧ (EisRole.pointerAbsolute ∈ left → u.roles .pointerAbsolute = none)) :
    (u.setCall i call).FreshLeft := by
  intro k conn device left hk
  rcases eq_or_ne k i with rfl | hki
  · rw [setCall_self] at hk
    exact hcall conn device left hk
  · rw [setCall_of_ne u call hki, hcalls] at hk
    have hkact : (s.calls k).activates = true := by rw [hk]; rfl
    exact absurd (h.activating.eq hkact hactivates) hki

theorem FreshLeft.handleEvent {conn : ℕ} (hf : s.FreshLeft) (event : EisEvent) :
    (s.handleEvent i conn event).FreshLeft := by
  cases event with
  | seat id => exact hf
  | seatEvent id event =>
      simp only [LibeiInput.handleEvent]
      split
      · exact hf
      · cases event with
        | capability interface mask => exact hf
        | done => exact hf
        | device d => exact hf.keep rfl (fun hnone => hnone) fun _ _ _ heq => by cases heq
        | other => exact hf
  | deviceEvent d event => exact hf.keep rfl id fun _ _ _ heq => by cases heq
  | other => exact hf

theorem FreshLeft.handleDeviceEvent {conn : ℕ} {device : EisObject} {event : EisDeviceEvent}
    (h : s.Held) (hf : s.FreshLeft) (hcall : s.calls i = .activating (.deviceEvent conn device event))
    (hfresh : event = .done → ∀ data, s.all device = some data →
      EisRole.pointerAbsolute ∈ data.assignedRoles → s.roles .pointerAbsolute = none) :
    (s.handleDeviceEvent i conn device event).FreshLeft := by
  simp only [LibeiInput.handleDeviceEvent]
  split
  · exact hf.keep rfl id fun _ _ _ heq => by cases heq
  next data hdata =>
    cases event with
    | done =>
        dsimp only
        split
        · exact hf.keep rfl id fun _ _ _ heq => by cases heq
        · refine .own h (by rw [hcall]; rfl) rfl fun conn' device' left hleft => ?_
          cases hleft
          exact ⟨nodup_assignedRoles data, hfresh rfl data hdata⟩
    | _ => exact hf.keep rfl id fun _ _ _ heq => by cases heq

theorem FreshLeft.resumeActivate {stage : ActivateEisStage} {answer : EisAnswer} (h : s.Held)
    (hf : s.FreshLeft) (hfresh : s.FreshAbsolute (.resume i answer))
    (hcall : s.calls i = .activating stage) (hst : s.resumeActivate i stage answer = some t) :
    t.FreshLeft := by
  cases stage with
  | clearingRoles left =>
      cases left with
      | nil =>
          cases hst
          exact hf.keep rfl id fun _ _ _ heq => by cases heq
      | cons r left =>
          simp only [LibeiInput.resumeActivate] at hst
          split at hst <;> cases hst
          refine hf.keep rfl (fun hnone => ?_) fun _ _ _ heq => by cases heq
          simp only [setRole, Function.update_apply]
          split
          · rfl
          · exact hnone
  | connecting => cases answer <;> cases hst <;> exact hf.keep rfl id fun _ _ _ heq => by cases heq
  | draining conn =>
      cases answer <;> cases hst
      · exact hf.keep rfl id fun _ _ _ heq => by cases heq
      · exact hf.keep rfl id fun _ _ _ heq => by cases heq
      · exact hf.handleEvent _
  | deviceEvent conn device event =>
      simp only [LibeiInput.resumeActivate] at hst
      split at hst <;> cases hst
      refine hf.handleDeviceEvent h hcall ?_
      rintro rfl data hdata hmem
      exact hfresh conn device data hcall hdata hmem
  | assigning conn device left =>
      have hactivates : (s.calls i).activates = true := by rw [hcall]; rfl
      cases left with
      | nil =>
          cases hst
          exact .own h hactivates rfl fun _ _ _ heq => by cases heq
      | cons r left =>
          obtain ⟨hnodup, hfree⟩ := hf i conn device (r :: left) hcall
          obtain ⟨hnotmem, hnodup'⟩ := List.nodup_cons.mp hnodup
          simp only [LibeiInput.resumeActivate] at hst
          split at hst
          · split at hst <;> cases hst
            · exact .own h hactivates rfl fun _ _ _ heq => by cases heq
            · refine .own h hactivates rfl fun conn' device' left' hleft => ?_
              cases hleft
              refine ⟨hnodup', fun hmem => ?_⟩
              -- the role that is assigned is another one
              have hne : EisRole.pointerAbsolute ≠ r := by
                rintro rfl
                exact hnotmem hmem
              simp only [setRole, Function.update_of_ne hne]
              exact hfree (List.mem_cons_of_mem r hmem)
          · cases hst
  | storingContext conn serial => cases hst; exact hf.keep rfl id fun _ _ _ heq => by cases heq
  | storingConnection conn serial => cases hst; exact hf.keep rfl id fun _ _ _ heq => by cases heq
  | storingSerial conn serial => cases hst; exact hf.keep rfl id fun _ _ _ heq => by cases heq
  | resuming conn device serial => cases hst; exact hf.keep rfl id fun _ _ _ heq => by cases heq
  | _ =>
      simp only [LibeiInput.resumeActivate] at hst
      split at hst <;> cases hst <;> exact hf.keep rfl id fun _ _ _ heq => by cases heq

theorem FreshLeft.resumeInject {injection : EisInjection F} {stage : InjectStage}
    {answer : EisAnswer} (hf : s.FreshLeft)
    (hst : s.resumeInject i injection stage answer = some t) : t.FreshLeft := by
  -- an injection never comes to assign roles
  cases stage with
  | offset =>
      simp only [LibeiInput.resumeInject] at hst
      split at hst
      · split at hst <;> cases hst <;> exact hf.keep rfl id fun _ _ _ heq => by cases heq
      · cases hst
  | role offset =>
      simp only [LibeiInput.resumeInject] at hst
      split at hst
      · split at hst <;> cases hst <;> exact hf.keep rfl id fun _ _ _ heq => by cases heq
      · cases hst
  | table offset device =>
      simp only [LibeiInput.resumeInject] at hst
      split at hst
      · split at hst
        · cases hst
          exact hf.keep rfl id fun _ _ _ heq => by cases heq
        · split at hst <;> cases hst <;> exact hf.keep rfl id fun _ _ _ heq => by cases heq
      · cases hst
  | serial device => cases hst; exact hf.keep rfl id fun _ _ _ heq => by cases heq
  | _ =>
      simp only [LibeiInput.resumeInject] at hst
      split at hst <;> cases hst <;> exact hf.keep rfl id fun _ _ _ heq => by cases heq

theorem FreshLeft.step {e : EisInputStep F} (h : s.Held) (hf : s.FreshLeft)
    (hfresh : s.FreshAbsolute e) (hst : s.step? e = some t) : t.FreshLeft := by
  obtain ⟨i, -, hcall, rfl⟩ | ⟨i, injection, -, hcall, rfl⟩ | ⟨i, answer, stage, rfl, hcall, hst⟩ |
    ⟨i, answer, injection, stage, -, hcall, hst⟩ := step?_cases hst
  · simp only [startActivate]
    split
    · exact hf.keep rfl id fun _ _ _ heq => by cases heq
    · cases s.eisActivated <;> exact hf.keep rfl id fun _ _ _ heq => by cases heq
  · cases injection.shifted <;> exact hf.keep rfl id fun _ _ _ heq => by cases heq
  · exact hf.resumeActivate h hfresh hcall hst
  · exact hf.resumeInject hst

/-- Where the absolute role is fresh for every device that is given it, there is no
deadlock. -/
theorem FreshLeft.not_deadlock (h : s.Held) (hf : s.FreshLeft) : ¬ s.Deadlock := by
  rintro ⟨i, j, ⟨conn, device, left, hi, hmem⟩, injection, found, hj⟩
  have hnone := (hf i conn device left hi).2 hmem
  have hsome := h.found j found (by rw [hj]; rfl)
  rw [hnone] at hsome
  cases hsome

/-- **The input of a libei session** in every run: outside a deadlock each call that has
been made can still return; a deadlock stays whatever comes, with no further request made of
a device and no activation returning; and it does not come about where the absolute role is
only given to a device while no device has it. -/
theorem libei_deadlock {es : List (EisInputStep F)} (h : Run (StepOf step?) new es s) :
    (¬ s.Deadlock ↔
      ∀ i, (s.calls i).Inside → Leads (StepOf step?) s fun t => (t.calls i).Returned) ∧
    (s.Deadlock → ∀ es' t, Run (StepOf step?) s es' t →
      t.Deadlock ∧ t.requests = s.requests ∧
        ∀ k stage, s.calls k = .activating stage → ∃ stage', t.calls k = .activating stage') ∧
    (Run (Guarded (StepOf step?) FreshAbsolute) new es s → ¬ s.Deadlock) := by
  have hheld : s.Held := h.invariant held_new fun hu hst => hu.step hst
  refine ⟨⟨fun hdead i hin => hheld.leads_returned hdead hin, ?_⟩, ?_, ?_⟩
  · rintro hleads ⟨i, j, hd⟩
    obtain ⟨conn, device, left, hi, -⟩ := hd.assigns
    -- the activation stays where the deadlock has it, and does not return
    refine not_leads_of_kept (I := fun u => u.Held ∧ u.Deadlocked i j)
      (fun hu hst => ⟨hu.1.step hst, (hu.2.step hu.1 hst).1⟩) (fun u hu hreturned => ?_)
      ⟨hheld, hd⟩ (hleads i (by rw [hi]; trivial))
    obtain ⟨conn, device, left, hi, -⟩ := hu.2.assigns
    rw [hi] at hreturned
    exact hreturned
  · rintro ⟨i, j, hd⟩ es' t hrun
    obtain ⟨-, htd, hrest⟩ := hd.run hheld hrun
    exact ⟨⟨i, j, htd⟩, hrest⟩
  · intro hguarded
    have hfresh : (new : LibeiInput F).FreshLeft := fun i conn device left hi => nomatch hi
    have hboth : s.Held ∧ s.FreshLeft :=
      hguarded.invariant (P := fun u => u.Held ∧ u.FreshLeft) ⟨held_new, hfresh⟩
        fun hu hst => ⟨hu.1.step hst.1, hu.2.step hu.1 hst.2 hst.1⟩
    exact hboth.2.not_deadlock hboth.1

/-- A device that the compositor announces, up to its `Done`. -/
def announced (i device : ℕ) : List (EisInputStep ℕ) :=
  [.resume i (.event (.seatEvent 1 (.device device))), .resume i .ok,
    .resume i (.event (.deviceEvent device (.deviceType .virtual))), .resume i .ok,
    .resume i (.event (.deviceEvent device (.interface "ei_pointer_absolute"))), .resume i .ok,
    .resume i (.event (.deviceEvent device .done))]

/-- Two absolute devices, and a motion between the end of the first and that of the second. -/
def twoAbsolute : List (EisInputStep ℕ) :=
  [.activate 0, .resume 0 (.opened 5), .resume 0 .ok, .resume 0 .ok, .resume 0 .ok,
    .resume 0 (.event (.seat 1))] ++ announced 0 2 ++ [.resume 0 .ok, .resume 0 .ok] ++
    announced 0 3 ++ [.inject 1 (eisPointerMotionAbsolute 10 20), .resume 1 .ok, .resume 0 .ok]

/-- With two absolute devices the input can be lost for good. -/
theorem libei_deadlock_two_devices : ∃ s : LibeiInput ℕ, s.Deadlock ∧
    ∀ es t, Run (StepOf step?) s es t → t.Deadlock ∧ t.requests = s.requests ∧
      ∀ k stage, s.calls k = .activating stage → ∃ stage', t.calls k = .activating stage' := by
  have hrun : (twoAbsolute.foldlM step? new).map (fun s => (s.calls 0, s.calls 1)) =
      some (.activating (.assigning 0 (0, 3) [.pointerAbsolute]),
        .injecting (eisPointerMotionAbsolute 10 20) (.offsetTable (0, 2))) := rfl
  obtain ⟨s, hs, hcalls⟩ := Run.exists_of_foldlM _ hrun
  have hdead : s.Deadlock := ⟨0, 1, ⟨0, (0, 3), [.pointerAbsolute], congrArg Prod.fst hcalls,
    List.mem_singleton_self _⟩, _, (0, 2), congrArg Prod.snd hcalls⟩
  exact ⟨s, hdead, (libei_deadlock hs).2.1 hdead⟩

end LibeiInput

end LamcoRdp
