/-
LamcoRdp/Session/LibeiInput.lean

The EIS input of a libei session.

Any number of calls share the input: `activate_eis` opens a connection and takes the
devices that the compositor announces into the table, and the `notify_*` calls inject
through the device of a role.  A call goes from one await point to the next in one step.
The mutexes that a call can hold while it waits are in the state: `devices.all`, which an
activation keeps while it assigns roles, and `pointer_absolute`, which an absolute motion
keeps while it looks its region up.  The others are free whenever a call waits, and no
call waits for them.
-/
import LamcoRdp.Lib.Locks

namespace LamcoRdp

open Runs Locks

/-! ### Devices -/

/-- A seat or a device, by the connection that it was announced on. -/
abbrev EisObject := ℕ × ℕ

/-- What a device is used for. -/
inductive EisRole
  | keyboard
  | pointer
  | pointerAbsolute
  | touch
deriving DecidableEq

/-- The interface that gives a device the role. -/
def EisRole.interface : EisRole → String
  | .keyboard => "ei_keyboard"
  | .pointer => "ei_pointer"
  | .pointerAbsolute => "ei_pointer_absolute"
  | .touch => "ei_touchscreen"

/-- The types of devices. -/
inductive EisDeviceType
  | virtual
  | physical
deriving DecidableEq

/-- The coordinate space of an absolute device. -/
structure DeviceRegion where
  x : UInt32
  y : UInt32

/-- What is known of a device. -/
structure DeviceData where
  deviceType : Option EisDeviceType
  interfaces : List String
  regions : List DeviceRegion

/-- A device of which nothing is known yet. -/
def DeviceData.default : DeviceData where
  deviceType := none
  interfaces := []
  regions := []

/-- The roles of `assign_device_roles`, in its order. -/
def DeviceData.assignedRoles (data : DeviceData) : List EisRole :=
  if data.deviceType = some .virtual then
    [.keyboard, .pointerAbsolute, .pointer, .touch].filter fun r => data.interfaces.contains r.interface
  else []

/-- The first region that is not at the origin. -/
def DeviceData.offset (data : DeviceData) : UInt32 × UInt32 :=
  match data.regions.find? fun r => decide (0 < r.x) || decide (0 < r.y) with
  | some r => (r.x, r.y)
  | none => (0, 0)

/-! ### Requests -/

/-- What is asked of a device; `F` is the type of coordinates. -/
inductive EisRequest (F : Type*)
  | key (keycode : UInt32) (pressed : Bool)
  /-- the position, and the offset that is added to it -/
  | motionAbsolute (x y : F) (offset : UInt32 × UInt32)
  | motionRelative (dx dy : F)
  | button (button : UInt32) (pressed : Bool)
  | scrollX (dx : F)
  | scrollY (dy : F)
  | touchDown (slot : UInt32) (x y : F)
  | touchMotion (slot : UInt32) (x y : F)
  | touchUp (slot : UInt32)

/-- A call of `with_device_interface`. -/
structure EisInjection (F : Type*) where
  role : EisRole
  interface : String
  /-- the offset of the device's region is looked up first -/
  shifted : Bool
  requests : UInt32 × UInt32 → List (EisRequest F)

section Injections

variable {F : Type*}

/-- `eis_keyboard_keycode`. -/
def eisKeyboardKeycode (keycode : Int32) (pressed : Bool) : EisInjection F where
  role := .keyboard
  interface := "ei_keyboard"
  shifted := false
  requests _ := [.key keycode.toUInt32 pressed]

/-- `eis_pointer_motion_absolute`: the only one to look up the offset of its region. -/
def eisPointerMotionAbsolute (x y : F) : EisInjection F where
  role := .pointerAbsolute
  interface := "ei_pointer_absolute"
  shifted := true
  requests offset := [.motionAbsolute x y offset]

/-- `eis_pointer_motion_relative`. -/
def eisPointerMotionRelative (dx dy : F) : EisInjection F where
  role := .pointer
  interface := "ei_pointer"
  shifted := false
  requests _ := [.motionRelative dx dy]

/-- `eis_pointer_button`. -/
def eisPointerButton (button : Int32) (pressed : Bool) : EisInjection F where
  role := .pointer
  interface := "ei_button"
  shifted := false
  requests _ := [.button button.toUInt32 pressed]

/-- `moves v` is `v.abs() > 0.01`. -/
def eisPointerAxis (moves : F → Bool) (dx dy : F) : EisInjection F where
  role := .pointer
  interface := "ei_scroll"
  shifted := false
  requests _ := (if moves dx then [.scrollX dx] else []) ++ if moves dy then [.scrollY dy] else []

/-- `eis_touch_down`. -/
def eisTouchDown (slot : UInt32) (x y : F) : EisInjection F where
  role := .touch
  interface := "ei_touchscreen"
  shifted := false
  requests _ := [.touchDown slot x y]

/-- `eis_touch_motion`. -/
def eisTouchMotion (slot : UInt32) (x y : F) : EisInjection F where
  role := .touch
  interface := "ei_touchscreen"
  shifted := false
  requests _ := [.touchMotion slot x y]

/-- `eis_touch_up`. -/
def eisTouchUp (slot : UInt32) : EisInjection F where
  role := .touch
  interface := "ei_touchscreen"
  shifted := false
  requests _ := [.touchUp slot]

end Injections

/-- What goes to the compositor. -/
inductive EisWire (F : Type*)
  | bind (seat : EisObject) (capabilities : UInt64)
  | startEmulating (device : EisObject) (sequence serial : UInt32)
  | request (device : EisObject) (interface : String) (request : EisRequest F)
  | frame (device : EisObject) (serial : UInt32)

/-! ### Events -/

/-- The events of a device. -/
inductive EisDeviceEvent
  | deviceType (type : EisDeviceType)
  | interface (name : String)
  | region (region : DeviceRegion)
  | done
  | resumed (serial : UInt32)
  /-- its name, and the events that are not looked at -/
  | other

/-- The events of a seat. -/
inductive EisSeatEvent
  | capability (interface : String) (mask : UInt64)
  | done
  | device (id : ℕ)
  | other

/-- The events of a connection. -/
inductive EisEvent
  | seat (id : ℕ)
  | seatEvent (seat : ℕ) (event : EisSeatEvent)
  | deviceEvent (device : ℕ) (event : EisDeviceEvent)
  /-- a ping, a parse error, an invalid object -/
  | other

/-! ### Calls -/

/-- Where `activate_eis` is, by what it awaits. -/
inductive ActivateEisStage
  /-- `sleep`, another call is activating -/
  | waiting
  /-- the context, to flush it -/
  | checking
  /-- `devices.all`, to clear it -/
  | clearingDevices
  /-- the roles that `clear` has left to clear; then the seats -/
  | clearingRoles (left : List EisRole)
  /-- `ConnectToEIS` and the handshake -/
  | connecting
  | storingContext (conn : ℕ) (serial : UInt32)
  | storingConnection (conn : ℕ) (serial : UInt32)
  | storingSerial (conn : ℕ) (serial : UInt32)
  /-- the next event of the setup burst -/
  | draining (conn : ℕ)
  /-- `devices.all`, for a device of a seat -/
  | addingDevice (conn : ℕ) (device : EisObject)
  /-- `devices.all`, for an event of a device -/
  | deviceEvent (conn : ℕ) (device : EisObject) (event : EisDeviceEvent)
  /-- a role, with `devices.all` held; `left` are the roles still to be assigned -/
  | assigning (conn : ℕ) (device : EisObject) (left : List EisRole)
  /-- `last_serial`, with `devices.all` held -/
  | resuming (conn : ℕ) (device : EisObject) (serial : UInt32)

/-- Where an injection is, by what it awaits. -/
inductive InjectStage
  /-- `pointer_absolute`, for the offset -/
  | offset
  /-- `devices.all`, with `pointer_absolute` held -/
  | offsetTable (device : EisObject)
  | role (offset : UInt32 × UInt32)
  | table (offset : UInt32 × UInt32) (device : EisObject)
  | serial (device : EisObject)
  | flush

/-- Where a call is. -/
inductive EisInputCall (F : Type*)
  | notCalled
  | activating (stage : ActivateEisStage)
  | injecting (injection : EisInjection F) (stage : InjectStage)
  | returned (ok : Bool)

namespace EisInputCall

variable {F : Type*}

/-- The call holds `devices.all`. -/
def holdsAll : EisInputCall F → Bool
  | .activating (.assigning _ _ _) => true
  | .activating (.resuming _ _ _) => true
  | _ => false

/-- The call holds `pointer_absolute`. -/
def holdsAbsolute : EisInputCall F → Bool
  | .injecting _ (.offsetTable _) => true
  | _ => false

/-- The call has set the flag `activating`. -/
def activates : EisInputCall F → Bool
  | .activating .waiting => false
  | .activating _ => true
  | _ => false

/-- The call has been made and has not returned. -/
def Inside : EisInputCall F → Prop
  | .notCalled => False
  | .returned _ => False
  | _ => True

/-- The call has returned. -/
def Returned : EisInputCall F → Prop
  | .returned _ => True
  | _ => False

end EisInputCall

/-! ### The session's input -/

/-- The input of a session: its state, its locks, and the calls that are under way. -/
structure LibeiInput (F : Type*) where
  /-- the connection of the context -/
  context : Option ℕ
  connection : Option ℕ
  /-- the capabilities of the seats -/
  seats : EisObject → Option (List (String × UInt64))
  all : EisObject → Option DeviceData
  roles : EisRole → Option EisObject
  lastSerial : UInt32
  eisActivated : Bool
  activating : Bool
  calls : ℕ → EisInputCall F
  /-- the call that has locked `devices.all` -/
  allLock : Option ℕ
  /-- the call that has locked `pointer_absolute` -/
  absoluteLock : Option ℕ
  /-- how many connections have been opened -/
  connections : ℕ
  /-- what went to the compositor, with the context that was stored then -/
  wire : List (Option ℕ × EisWire F)

/-- What came of what a call awaited. -/
inductive EisAnswer
  /-- a flush that went well; the end of the setup burst -/
  | ok
  | failed
  | opened (serial : UInt32)
  | event (event : EisEvent)

/-- A call is made, or goes on with the answer that it has waited for. -/
inductive EisInputStep (F : Type*)
  | activate (i : ℕ)
  | inject (i : ℕ) (injection : EisInjection F)
  /-- call `i` goes on -/
  | resume (i : ℕ) (answer : EisAnswer)

/-- The call that takes the step. -/
def EisInputStep.call {F : Type*} : EisInputStep F → ℕ
  | .activate i => i
  | .inject i _ => i
  | .resume i _ => i

namespace LibeiInput

variable {F : Type*}

/-- Before the first call. -/
def new : LibeiInput F where
  context := none
  connection := none
  seats _ := none
  all _ := none
  roles _ := none
  lastSerial := 0
  eisActivated := false
  activating := false
  calls _ := .notCalled
  allLock := none
  absoluteLock := none
  connections := 0
  wire := []

/-- A call goes on. -/
def setCall (s : LibeiInput F) (i : ℕ) (call : EisInputCall F) : LibeiInput F :=
  { s with calls := Function.update s.calls i call }

/-- Messages to the compositor, with the context that they go to. -/
def send (s : LibeiInput F) (w : List (EisWire F)) : LibeiInput F :=
  { s with wire := s.wire ++ w.map fun x => (s.context, x) }

/-- `devices.all.insert`. -/
def setDevice (s : LibeiInput F) (device : EisObject) (data : DeviceData) : LibeiInput F :=
  { s with all := Function.update s.all device (some data) }

/-- `seats.insert`. -/
def setSeat (s : LibeiInput F) (seat : EisObject) (capabilities : List (String × UInt64)) :
    LibeiInput F :=
  { s with seats := Function.update s.seats seat (some capabilities) }

/-- A role gets a device, or loses it. -/
def setRole (s : LibeiInput F) (r : EisRole) (device : Option EisObject) : LibeiInput F :=
  { s with roles := Function.update s.roles r device }

/-- Nobody has the role's mutex. -/
def roleFree (s : LibeiInput F) (r : EisRole) : Bool :=
  decide (r ≠ .pointerAbsolute) || s.absoluteLock.isNone

/-- The guard of `activate_eis` is dropped. -/
def finish (s : LibeiInput F) (i : ℕ) (ok : Bool) : LibeiInput F :=
  { s with activating := false }.setCall i (.returned ok)

/-- `activate_eis` up to where it first waits. -/
def startActivate (s : LibeiInput F) (i : ℕ) : LibeiInput F :=
  -- whoever finds the flag set waits for it to fall, however the other activation ends
  if s.activating then s.setCall i (.activating .waiting)
  else
    { s with activating := true }.setCall i
      (.activating (if s.eisActivated then .checking else .connecting))

/-- `handle_event`, up to the mutex that it needs. -/
def handleEvent (s : LibeiInput F) (i conn : ℕ) : EisEvent → LibeiInput F
  | .seat id => s.setSeat (conn, id) []
  | .seatEvent id event =>
      match s.seats (conn, id) with
      | none => s
      | some capabilities =>
          match event with
          | .capability interface mask =>
              s.setSeat (conn, id) ((interface, mask) :: capabilities.filter fun c => c.1 != interface)
          | .done => s.send [.bind (conn, id) (capabilities.foldl (fun a c => a ||| c.2) 0)]
          | .device d => s.setCall i (.activating (.addingDevice conn (conn, d)))
          | .other => s
  | .deviceEvent d event => s.setCall i (.activating (.deviceEvent conn (conn, d) event))
  | .other => s

/-- The event of a device, once `devices.all` is locked. -/
def handleDeviceEvent (s : LibeiInput F) (i conn : ℕ) (device : EisObject) (event : EisDeviceEvent) :
    LibeiInput F :=
  let drained (s : LibeiInput F) := s.setCall i (.activating (.draining conn))
  match s.all device with
  | none => drained s
  | some data =>
      match event with
      | .deviceType type => drained (s.setDevice device { data with deviceType := some type })
      | .interface name =>
          drained (s.setDevice device { data with interfaces := name :: data.interfaces })
      | .region region =>
          drained (s.setDevice device { data with regions := data.regions ++ [region] })
      | .done =>
          match data.assignedRoles with
          | [] => drained s
          | left => { s with allLock := some i }.setCall i (.activating (.assigning conn device left))
      | .resumed serial =>
          { s with allLock := some i }.setCall i (.activating (.resuming conn device serial))
      | .other => drained s

/-- `activate_eis` goes on; `none` while what it waits for is not there. -/
def resumeActivate (s : LibeiInput F) (i : ℕ) :
    ActivateEisStage → EisAnswer → Option (LibeiInput F)
  | .waiting, _ => if s.activating then none else some (s.setCall i (.returned true))
  | .checking, answer =>
      -- a stored context that takes a flush is kept; any other is cleared away
      match s.context, answer with
      | some _, .ok => some (s.finish i true)
      | _, _ => some (s.setCall i (.activating .clearingDevices))
  | .clearingDevices, _ =>
      if s.allLock.isNone then
        some ({ s with all := fun _ => none }.setCall i
          (.activating (.clearingRoles [.keyboard, .pointer, .pointerAbsolute, .touch])))
      else none
  | .clearingRoles (r :: left), _ =>
      if s.roleFree r then
        some ((s.setRole r none).setCall i (.activating (.clearingRoles left)))
      else none
  | .clearingRoles [], _ =>
      some ({ s with seats := fun _ => none, eisActivated := false }.setCall i
        (.activating .connecting))
  | .connecting, .opened serial =>
      some ({ s with connections := s.connections + 1 }.setCall i
        (.activating (.storingContext s.connections serial)))
  | .connecting, .failed => some (s.finish i false)
  | .connecting, _ => none
  | .storingContext conn serial, _ =>
      some ({ s with context := some conn }.setCall i (.activating (.storingConnection conn serial)))
  | .storingConnection conn serial, _ =>
      some ({ s with connection := some conn }.setCall i (.activating (.storingSerial conn serial)))
  | .storingSerial conn serial, _ =>
      some ({ s with lastSerial := serial }.setCall i (.activating (.draining conn)))
  -- the burst ends with the stream or when it falls quiet; an error leaves the flag unset
  | .draining conn, .event event => some (s.handleEvent i conn event)
  | .draining _, .ok => some ({ s with eisActivated := true }.finish i true)
  | .draining _, .failed => some (s.finish i false)
  | .draining _, .opened _ => none
  | .addingDevice conn device, _ =>
      if s.allLock.isNone then
        some ((s.setDevice device .default).setCall i (.activating (.draining conn)))
      else none
  | .deviceEvent conn device event, _ =>
      if s.allLock.isNone then some (s.handleDeviceEvent i conn device event) else none
  | .assigning conn device (r :: left), _ =>
      -- `devices.all` stays locked until the last role is written
      if s.roleFree r then
        if left = [] then
          some ({ s.setRole r (some device) with allLock := none }.setCall i
            (.activating (.draining conn)))
        else some ((s.setRole r (some device)).setCall i (.activating (.assigning conn device left)))
      else none
  | .assigning conn _ [], _ =>
      some ({ s with allLock := none }.setCall i (.activating (.draining conn)))
  | .resuming conn device serial, _ =>
      some (({ s with allLock := none, lastSerial := serial }.send
        [.startEmulating device (serial + 1) serial]).setCall i (.activating (.draining conn)))

/-- An injection goes on; `none` while a lock that it waits for is taken. -/
def resumeInject (s : LibeiInput F) (i : ℕ) (injection : EisInjection F) :
    InjectStage → EisAnswer → Option (LibeiInput F)
  | .offset, _ =>
      if s.absoluteLock.isNone then
        match s.roles .pointerAbsolute with
        | none => some (s.setCall i (.injecting injection (.role (0, 0))))
        | some device =>
            -- the role stays locked while `devices.all` is waited for
            some ({ s with absoluteLock := some i }.setCall i
              (.injecting injection (.offsetTable device)))
      else none
  | .offsetTable device, _ =>
      if s.allLock.isNone then
        some ({ s with absoluteLock := none }.setCall i
          (.injecting injection (.role ((s.all device).elim (0, 0) DeviceData.offset))))
      else none
  | .role offset, _ =>
      if s.roleFree injection.role then
        match s.roles injection.role with
        | none => some (s.setCall i (.returned false))
        | some device => some (s.setCall i (.injecting injection (.table offset device)))
      else none
  | .table offset device, _ =>
      if s.allLock.isNone then
        match s.all device with
        | none => some (s.setCall i (.returned false))
        | some data =>
            if data.interfaces.contains injection.interface then
              some ((s.send ((injection.requests offset).map
                (.request device injection.interface))).setCall i
                  (.injecting injection (.serial device)))
            else some (s.setCall i (.returned false))
      else none
  | .serial device, _ =>
      some ((s.send [.frame device s.lastSerial]).setCall i (.injecting injection .flush))
  | .flush, answer =>
      match s.context, answer with
      | none, _ => some (s.setCall i (.returned false))
      | some _, .ok => some (s.setCall i (.returned true))
      | some _, .failed => some (s.setCall i (.returned false))
      | some _, _ => none

/-- One step; nothing if the call waits for a mutex that another holds. -/
def step? (s : LibeiInput F) : EisInputStep F → Option (LibeiInput F)
  | .activate i =>
      match s.calls i with
      | .notCalled => some (s.startActivate i)
      | _ => none
  | .inject i injection =>
      match s.calls i with
      | .notCalled =>
          some (s.setCall i (.injecting injection (if injection.shifted then .offset else .role (0, 0))))
      | _ => none
  | .resume i answer =>
      match s.calls i with
      | .activating stage => s.resumeActivate i stage answer
      | .injecting injection stage => s.resumeInject i injection stage answer
      | _ => none

end LibeiInput

end LamcoRdp
