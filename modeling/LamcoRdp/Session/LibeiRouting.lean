/-
LamcoRdp/Session/LibeiRouting.lean

Where the requests of a libei session's input go.

An activation clears the table of devices only if the one before it ended well.  As long
as none fails in its setup burst with devices in the table, every device in the table is
one of the connection whose context is stored, and so is every device that a request is
made of (`requests_follow_context`).  After such a failure the next connection is opened
over a table that still has the devices of the lost one, and a request can be made of one
of them and `Ok` be returned for it (`request_left_behind`).
-/
import LamcoRdp.Session.LibeiLocks

namespace LamcoRdp

open Runs Locks

/-- What an activation has made sure of, by where it is. -/
def ActivateEisStage.Ok {F : Type*} (s : LibeiInput F) : ActivateEisStage → Prop
  | .waiting => True
  | .checking => s.eisActivated = true
  | .clearingDevices => s.eisActivated = true
  | .clearingRoles _ => ∀ d, s.all d = none
  | .connecting => ∀ d, s.all d = none
  | .storingContext _ _ => ∀ d, s.all d = none
  | .storingConnection conn _ => s.context = some conn
  | .storingSerial conn _ => s.context = some conn
  | .draining conn => s.context = some conn
  | .addingDevice conn device => s.context = some conn ∧ device.1 = conn
  | .deviceEvent conn device _ => s.context = some conn ∧ device.1 = conn
  | .assigning conn device _ => s.context = some conn ∧ device.1 = conn
  | .resuming conn device _ => s.context = some conn ∧ device.1 = conn

namespace LibeiInput

variable {F : Type*} {s t u : LibeiInput F} {i : ℕ} {call : EisInputCall F}

/-- The devices are those of the context's connection. -/
structure Routed (s : LibeiInput F) : Prop where
  table : ∀ d data, s.all d = some data → s.context = some d.1
  wire : ∀ c device interface request, (c, EisWire.request device interface request) ∈ s.wire →
    c = some device.1
  idle : s.activating = false → s.eisActivated = false → ∀ d, s.all d = none
  stage : ∀ i stage, s.calls i = .activating stage → stage.Ok s

theorem routed_new : (new : LibeiInput F).Routed where
  table _ _ h := nomatch h
  wire _ _ _ _ h := nomatch h
  idle _ _ _ := rfl
  stage _ _ h := nomatch h

/-- A move that leaves the table and what the activations rest on. -/
theorem Routed.keep (hr : s.Routed) (hcalls : u.calls = s.calls) (hall : u.all = s.all)
    (hcontext : u.context = s.context) (heis : u.eisActivated = s.eisActivated)
    (hidle : u.activating = false → s.eisActivated = false → ∀ d, s.all d = none)
    (hwire : ∀ c device interface request,
      (c, EisWire.request device interface request) ∈ u.wire → c = some device.1)
    (hcall : ∀ stage, call = .activating stage → stage.Ok s) : (u.setCall i call).Routed where
  table := by
    change ∀ d data, u.all d = some data → u.context = some d.1
    rw [hall, hcontext]
    exact hr.table
  wire := hwire
  idle := by
    change u.activating = false → u.eisActivated = false → ∀ d, u.all d = none
    rw [hall, heis]
    exact hidle
  stage := by
    intro k stage hk
    have hok : stage.Ok s := by
      rcases eq_or_ne k i with rfl | hki
      · rw [setCall_self] at hk
        exact hcall stage hk
      · rw [setCall_of_ne u call hki, hcalls] at hk
        exact hr.stage k stage hk
    cases stage <;> simp only [ActivateEisStage.Ok, setCall, hall, hcontext, heis] at hok ⊢ <;>
      exact hok

/-- The activation moves. -/
theorem Routed.own (h : s.Held) (hactivates : (s.calls i).activates = true)
    (hcalls : u.calls = s.calls) (htable : ∀ d data, u.all d = some data → u.context = some d.1)
    (hidle : u.activating = false → u.eisActivated = false → ∀ d, u.all d = none)
    (hwire : ∀ c device interface request,
      (c, EisWire.request device interface request) ∈ u.wire → c = some device.1)
    (hcall : ∀ stage, call = .activating stage → stage.Ok (u.setCall i call)) :
    (u.setCall i call).Routed where
  table := htable
  wire := hwire
  idle := hidle
  stage := by
    intro k stage hk
    rcases eq_or_ne k i with rfl | hki
    · rw [setCall_self] at hk
      exact hcall stage hk
    · rw [setCall_of_ne u call hki, hcalls] at hk
      -- any other activation waits
      cases stage with
      | waiting => trivial
      | _ => exact absurd (h.activating.eq (by rw [hk]; rfl) hactivates) hki

/-- The setup burst fails with an empty table only. -/
def BurstOk (s : LibeiInput F) (e : EisInputStep F) : Prop :=
  ∀ i conn, e = .resume i .failed → s.calls i = .activating (.draining conn) → ∀ d, s.all d = none

theorem wire_send {w : EisWire F} (hwire : ∀ c device interface request,
      (c, EisWire.request device interface request) ∈ s.wire → c = some device.1)
    (hw : ∀ device interface request, w ≠ .request device interface request) :
    ∀ c device interface request,
      (c, EisWire.request device interface request) ∈ (s.send [w]).wire → c = some device.1 := by
  intro c device interface request hmem
  rcases List.mem_append.mp hmem with hold | hnew
  · exact hwire c device interface request hold
  · rw [List.map_cons, List.map_nil, List.mem_singleton] at hnew
    exact absurd (Prod.ext_iff.mp hnew).2.symm (hw device interface request)

theorem table_setDevice {device : EisObject} {data : DeviceData} (hr : s.Routed)
    (hcontext : s.context = some device.1) :
    ∀ d data', (s.setDevice device data).all d = some data' → s.context = some d.1 := by
  intro d data' hd
  rcases eq_or_ne d device with rfl | hne
  · exact hcontext
  · simp only [setDevice, Function.update_of_ne hne] at hd
    exact hr.table d data' hd

theorem Routed.handleEvent {conn : ℕ} (hr : s.Routed)
    (hcall : s.calls i = .activating (.draining conn)) (event : EisEvent) :
    (s.handleEvent i conn event).Routed := by
  have hcontext : s.context = some conn := hr.stage i _ hcall
  have hidle : s.activating = false → s.eisActivated = false → ∀ d, s.all d = none := hr.idle
  -- what is known of a seat plays no part in the routing
  have hseat (seat : EisObject) (capabilities : List (String × UInt64)) :
      (s.setSeat seat capabilities).Routed :=
    ⟨hr.table, hr.wire, hr.idle, fun k stage hk => by
      have hok := hr.stage k stage hk
      cases stage <;> exact hok⟩
  cases event with
  | seat id => exact hseat _ _
  | seatEvent id event =>
      simp only [LibeiInput.handleEvent]
      split
      · exact hr
      · cases event with
        | capability interface mask => exact hseat _ _
        | done =>
            -- binding a seat sends no device request
            refine ⟨hr.table, wire_send hr.wire (fun _ _ _ heq => by cases heq), hr.idle,
              fun k stage hk => ?_⟩
            have hok := hr.stage k stage hk
            cases stage <;> exact hok
        -- a device is announced on the connection that is drained
        | device d =>
            refine hr.keep rfl rfl rfl rfl hidle hr.wire fun stage hstage => ?_
            cases hstage
            exact ⟨hcontext, rfl⟩
        | other => exact hr
  | deviceEvent d event =>
      refine hr.keep rfl rfl rfl rfl hidle hr.wire fun stage hstage => ?_
      cases hstage
      exact ⟨hcontext, rfl⟩
  | other => exact hr

theorem Routed.handleDeviceEvent {conn : ℕ} {device : EisObject} {event : EisDeviceEvent}
    (h : s.Held) (hr : s.Routed) (hcall : s.calls i = .activating (.deviceEvent conn device event)) :
    (s.handleDeviceEvent i conn device event).Routed := by
  obtain ⟨hcontext, hconn⟩ : s.context = some conn ∧ device.1 = conn := hr.stage i _ hcall
  have hactivates : (s.calls i).activates = true := by rw [hcall]; rfl
  -- an activation runs, so the routing is not idle
  have hflag : s.activating = true := h.activating.of_holds hactivates
  have hnotIdle {u : LibeiInput F} (hsame : u.activating = s.activating) :
      u.activating = false → u.eisActivated = false → ∀ d, u.all d = none := by
    intro hidle
    rw [hsame, hflag] at hidle
    cases hidle
  have hdrained : ∀ stage : ActivateEisStage,
      (EisInputCall.activating (.draining conn) : EisInputCall F) = .activating stage →
        stage.Ok s := by
    intro stage hstage
    cases hstage
    exact hcontext
  -- what is written to the table belongs to the current connection
  have hset (data : DeviceData) : ((s.setDevice device data).setCall i
      (.activating (.draining conn))).Routed := by
    refine .own h hactivates rfl (table_setDevice hr (hconn ▸ hcontext)) (hnotIdle rfl) hr.wire ?_
    intro stage hstage
    cases hstage
    exact hcontext
  simp only [LibeiInput.handleDeviceEvent]
  split
  · exact hr.keep rfl rfl rfl rfl (hnotIdle rfl) hr.wire hdrained
  next data _ =>
    -- properties are only stored
    cases event with
    | deviceType type => exact hset _
    | interface name => exact hset _
    | region region => exact hset _
    -- the device is complete: its roles are assigned next
    | done =>
        dsimp only
        split
        · exact hr.keep rfl rfl rfl rfl (hnotIdle rfl) hr.wire hdrained
        · refine hr.keep rfl rfl rfl rfl (fun hidle => by simp [hflag] at hidle) hr.wire ?_
          intro stage hstage
          cases hstage
          exact ⟨hcontext, hconn⟩
    -- a resume brings the serial
    | resumed serial =>
        refine hr.keep rfl rfl rfl rfl (fun hidle => by simp [hflag] at hidle) hr.wire ?_
        intro stage hstage
        cases hstage
        exact ⟨hcontext, hconn⟩
    | other => exact hr.keep rfl rfl rfl rfl (hnotIdle rfl) hr.wire hdrained

theorem Routed.resumeActivate {stage : ActivateEisStage} {answer : EisAnswer} (h : s.Held)
    (hr : s.Routed) (hburst : s.BurstOk (.resume i answer))
    (hcall : s.calls i = .activating stage) (hst : s.resumeActivate i stage answer = some t) :
    t.Routed := by
  have hok : stage.Ok s := hr.stage i stage hcall
  have hidle := hr.idle
  -- a stage that the activation goes on to without a change of what it rests on
  have hkeep {u : LibeiInput F} (next : ActivateEisStage) (hcalls : u.calls = s.calls)
      (hall : u.all = s.all) (hcontext : u.context = s.context)
      (heis : u.eisActivated = s.eisActivated) (hactivating : u.activating = s.activating)
      (hwire : ∀ c device interface request,
        (c, EisWire.request device interface request) ∈ u.wire → c = some device.1)
      (hnext : next.Ok s) : (u.setCall i (.activating next)).Routed := by
    refine hr.keep hcalls hall hcontext heis (hactivating ▸ hidle) hwire fun stage hstage => ?_
    cases hstage
    exact hnext
  cases stage with
  | waiting =>
      simp only [LibeiInput.resumeActivate] at hst
      split at hst <;> cases hst
      exact hr.keep rfl rfl rfl rfl hidle hr.wire fun _ heq => by cases heq
  | checking =>
      have hactivates : (s.calls i).activates = true := by rw [hcall]; rfl
      simp only [LibeiInput.resumeActivate] at hst
      split at hst <;> cases hst
      · refine hr.keep rfl rfl rfl rfl (fun _ hnot => ?_) hr.wire fun _ heq => by cases heq
        rw [show s.eisActivated = true from hok] at hnot
        cases hnot
      · exact hkeep .clearingDevices rfl rfl rfl rfl rfl hr.wire hok
  | clearingDevices =>
      have hactivates : (s.calls i).activates = true := by rw [hcall]; rfl
      simp only [LibeiInput.resumeActivate] at hst
      split at hst <;> cases hst
      refine .own h hactivates rfl (fun _ _ heq => by cases heq) (fun _ _ _ => rfl) hr.wire
        fun stage hstage => ?_
      cases hstage
      exact fun _ => rfl
  | clearingRoles left =>
      cases left with
      | nil =>
          have hactivates : (s.calls i).activates = true := by rw [hcall]; rfl
          cases hst
          refine .own h hactivates rfl hr.table (fun _ _ => hok) hr.wire fun stage hstage => ?_
          cases hstage
          exact hok
      | cons r left =>
          simp only [LibeiInput.resumeActivate] at hst
          split at hst <;> cases hst
          exact hkeep (.clearingRoles left) rfl rfl rfl rfl rfl hr.wire hok
  | connecting =>
      cases answer <;> cases hst
      · exact hr.keep rfl rfl rfl rfl (fun _ _ => hok) hr.wire fun _ heq => by cases heq
      · exact hkeep (.storingContext _ _) rfl rfl rfl rfl rfl hr.wire hok
  | storingContext conn serial =>
      have hactivates : (s.calls i).activates = true := by rw [hcall]; rfl
      cases hst
      refine .own h hactivates rfl (fun d data hd => ?_) (fun _ _ => hok) hr.wire ?_
      · rw [show s.all d = none from hok d] at hd
        cases hd
      · intro stage hstage
        cases hstage
        rfl
  | storingConnection conn serial =>
      cases hst
      exact hkeep (.storingSerial conn serial) rfl rfl rfl rfl rfl hr.wire hok
  | storingSerial conn serial =>
      cases hst
      exact hkeep (.draining conn) rfl rfl rfl rfl rfl hr.wire hok
  | draining conn =>
      have hactivates : (s.calls i).activates = true := by rw [hcall]; rfl
      cases answer with
      | ok =>
          cases hst
          exact .own h hactivates rfl hr.table (fun _ heq => by cases heq) hr.wire
            fun _ heq => by cases heq
      | failed =>
          cases hst
          have hempty := hburst i conn rfl hcall
          exact hr.keep rfl rfl rfl rfl (fun _ _ => hempty) hr.wire fun _ heq => by cases heq
      | opened serial => cases hst
      | event event =>
          cases hst
          exact hr.handleEvent hcall event
  | addingDevice conn device =>
      have hactivates : (s.calls i).activates = true := by rw [hcall]; rfl
      have hflag : s.activating = true := h.activating.of_holds hactivates
      obtain ⟨hcontext, hconn⟩ := hok
      simp only [LibeiInput.resumeActivate] at hst
      split at hst <;> cases hst
      refine .own h hactivates rfl (table_setDevice hr (hconn ▸ hcontext)) ?_ hr.wire ?_
      · exact fun hnot => by simp [setDevice, hflag] at hnot
      · intro stage hstage
        cases hstage
        exact hcontext
  | deviceEvent conn device event =>
      simp only [LibeiInput.resumeActivate] at hst
      split at hst <;> cases hst
      exact hr.handleDeviceEvent h hcall
  | assigning conn device left =>
      cases left with
      | nil =>
          cases hst
          exact hkeep (.draining conn) rfl rfl rfl rfl rfl hr.wire hok.1
      | cons r left =>
          simp only [LibeiInput.resumeActivate] at hst
          split at hst
          · split at hst <;> cases hst
            · exact hkeep (.draining conn) rfl rfl rfl rfl rfl hr.wire hok.1
            · exact hkeep (.assigning conn device left) rfl rfl rfl rfl rfl hr.wire hok
          · cases hst
  | resuming conn device serial =>
      cases hst
      exact hkeep (.draining conn) rfl rfl rfl rfl rfl
        (wire_send hr.wire fun _ _ _ heq => by cases heq) hok.1

theorem Routed.resumeInject {injection : EisInjection F} {stage : InjectStage} {answer : EisAnswer}
    (hr : s.Routed) (hst : s.resumeInject i injection stage answer = some t) : t.Routed := by
  have hidle := hr.idle
  cases stage with
  | offset =>
      simp only [LibeiInput.resumeInject] at hst
      split at hst
      · split at hst <;> cases hst <;>
          exact hr.keep rfl rfl rfl rfl hidle hr.wire fun _ heq => by cases heq
      · cases hst
  | offsetTable device =>
      simp only [LibeiInput.resumeInject] at hst
      split at hst <;> cases hst
      exact hr.keep rfl rfl rfl rfl hidle hr.wire fun _ heq => by cases heq
  | role offset =>
      simp only [LibeiInput.resumeInject] at hst
      split at hst
      · split at hst <;> cases hst <;>
          exact hr.keep rfl rfl rfl rfl hidle hr.wire fun _ heq => by cases heq
      · cases hst
  | table offset device =>
      simp only [LibeiInput.resumeInject] at hst
      split at hst
      · split at hst
        · cases hst
          exact hr.keep rfl rfl rfl rfl hidle hr.wire fun _ heq => by cases heq
        next data hdata =>
          split at hst <;> cases hst
          · -- the device is in the table, so the context is its connection's
            refine hr.keep rfl rfl rfl rfl hidle (fun c device' interface request hmem => ?_)
              fun _ heq => by cases heq
            rcases List.mem_append.mp hmem with hold | hnew
            · exact hr.wire c device' interface request hold
            · obtain ⟨w, hw, heq⟩ := List.mem_map.mp hnew
              obtain ⟨request', -, rfl⟩ := List.mem_map.mp hw
              cases heq
              exact hr.table device data hdata
          · exact hr.keep rfl rfl rfl rfl hidle hr.wire fun _ heq => by cases heq
      · cases hst
  | serial device =>
      cases hst
      exact hr.keep rfl rfl rfl rfl hidle (wire_send hr.wire fun _ _ _ heq => by cases heq)
        fun _ heq => by cases heq
  | flush =>
      simp only [LibeiInput.resumeInject] at hst
      split at hst <;> cases hst <;>
        exact hr.keep rfl rfl rfl rfl hidle hr.wire fun _ heq => by cases heq

theorem Routed.step {e : EisInputStep F} (h : s.Held) (hr : s.Routed) (hburst : s.BurstOk e)
    (hst : s.step? e = some t) : t.Routed := by
  obtain ⟨i, -, hcall, rfl⟩ | ⟨i, injection, -, hcall, rfl⟩ | ⟨i, answer, stage, rfl, hcall, hst⟩ |
    ⟨i, answer, injection, stage, -, hcall, hst⟩ := step?_cases hst
  · simp only [startActivate]
    split
    · refine hr.keep rfl rfl rfl rfl hr.idle hr.wire fun stage hstage => ?_
      cases hstage
      trivial
    next hflag =>
      refine hr.keep rfl rfl rfl rfl (fun heq => by cases heq) hr.wire fun stage hstage => ?_
      cases hstage
      cases heis : s.eisActivated
      · exact hr.idle (Bool.eq_false_iff.mpr hflag) heis
      · exact heis
  · exact hr.keep rfl rfl rfl rfl hr.idle hr.wire fun _ heq => by cases heq
  · exact hr.resumeActivate h hburst hcall hst
  · exact hr.resumeInject hst

/-- **Requests follow the context**: in every run in which no setup burst fails with devices
in the table, a request is made of a device of the connection whose context is stored then,
and at its end the table has devices of that connection only. -/
theorem requests_follow_context {es : List (EisInputStep F)}
    (h : Run (Guarded (StepOf step?) BurstOk) new es s) :
    (∀ c device interface request, (c, EisWire.request device interface request) ∈ s.wire →
      c = some device.1) ∧
    ∀ d data, s.all d = some data → s.context = some d.1 := by
  have hboth : s.Held ∧ s.Routed :=
    h.invariant (P := fun u => u.Held ∧ u.Routed) ⟨held_new, routed_new⟩
      fun hu hst => ⟨hu.1.step hst.1, hu.2.step hu.1 hst.2 hst.1⟩
  exact ⟨hboth.2.wire, hboth.2.table⟩

/-- A connection that announces a keyboard, up to the end of its burst. -/
def keyboardBurst : List (EisInputStep ℕ) :=
  [.activate 0, .resume 0 (.opened 5), .resume 0 .ok, .resume 0 .ok, .resume 0 .ok,
    .resume 0 (.event (.seat 1)), .resume 0 (.event (.seatEvent 1 (.device 2))), .resume 0 .ok,
    .resume 0 (.event (.deviceEvent 2 (.deviceType .virtual))), .resume 0 .ok,
    .resume 0 (.event (.deviceEvent 2 (.interface "ei_keyboard"))), .resume 0 .ok,
    .resume 0 (.event (.deviceEvent 2 .done)), .resume 0 .ok, .resume 0 .ok]

/-- Call `1` presses a key. -/
def keyPress : List (EisInputStep ℕ) :=
  .inject 1 (eisKeyboardKeycode 30 true) :: List.replicate 4 (.resume 1 .ok)

/-- A key that is pressed after a burst that went well. -/
def keyAfterBurst : List (EisInputStep ℕ) := keyboardBurst ++ .resume 0 .ok :: keyPress

/-- A burst that fails after the keyboard, a connection that announces nothing, and a key. -/
def keyAfterFailure : List (EisInputStep ℕ) :=
  keyboardBurst ++ .resume 0 .failed :: .activate 2 :: .resume 2 (.opened 6) ::
    (List.replicate 4 (.resume 2 .ok) ++ keyPress)

/-- What went to the compositor, and where call `1` is. -/
def outcome (s : LibeiInput ℕ) : List (Option ℕ × EisWire ℕ) × EisInputCall ℕ :=
  (s.wire, s.calls 1)

theorem burstOk_of_not_failed {e : EisInputStep F} (h : ∀ i, e ≠ .resume i .failed) :
    s.BurstOk e := fun i _ he => absurd he (h i)

theorem request_follows_keyboard : ∃ s : LibeiInput ℕ,
    (some 0, EisWire.request (0, 2) "ei_keyboard" (.key 30 true)) ∈ s.wire ∧
      ∀ c device interface request, (c, EisWire.request device interface request) ∈ s.wire →
        c = some device.1 := by
  have hrun : (keyAfterBurst.foldlM step? new).map outcome =
      some ([(some 0, .request (0, 2) "ei_keyboard" (.key 30 true)), (some 0, .frame (0, 2) 5)],
        .returned true) := rfl
  obtain ⟨s, hs, houtcome⟩ := Run.exists_of_foldlM _ hrun
  have hguarded : Run (Guarded (StepOf step?) BurstOk) new keyAfterBurst s := by
    refine hs.guarded fun e he s => burstOk_of_not_failed ?_
    rintro i rfl
    simp [keyAfterBurst, keyboardBurst, keyPress] at he
  refine ⟨s, ?_, (requests_follow_context hguarded).1⟩
  rw [show s.wire = _ from congrArg Prod.fst houtcome]
  exact List.mem_cons_self

/-- The call for the key returns `Ok`, and the request was made of the keyboard of the lost
connection. -/
theorem request_left_behind : ∃ s : LibeiInput ℕ,
    Run (StepOf step?) new keyAfterFailure s ∧ s.calls 1 = .returned true ∧
      (some 1, EisWire.request (0, 2) "ei_keyboard" (.key 30 true)) ∈ s.wire := by
  have hrun : (keyAfterFailure.foldlM step? new).map outcome =
      some ([(some 1, .request (0, 2) "ei_keyboard" (.key 30 true)), (some 1, .frame (0, 2) 6)],
        .returned true) := rfl
  obtain ⟨s, hs, houtcome⟩ := Run.exists_of_foldlM _ hrun
  refine ⟨s, hs, congrArg Prod.snd houtcome, ?_⟩
  rw [show s.wire = _ from congrArg Prod.fst houtcome]
  exact List.mem_cons_self

end LibeiInput

end LamcoRdp
