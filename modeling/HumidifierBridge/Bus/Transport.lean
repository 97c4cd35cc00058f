import HumidifierBridge.Bus.Property
import HumidifierBridge.DsUid.Basic
import HumidifierBridge.Error

/-!
# The bus transport

The bridge speaks to the bus controller in six calls, and hears from it in events. A `Transport`
says at one moment whether there is a session and which calls it takes. `Sent` notes a call that was
made and whether it was taken.
-/

namespace HumidifierBridge

/-- A call to the bus controller. -/
inductive Call where
  | announceContainer (vdc : DsUid)
  | announceDevice (vdc device : DsUid)
  /-- The device is there. -/
  | identifyDevice (device : DsUid)
  /-- The device is gone. -/
  | deviceVanished (device : DsUid)
  | sendPong (dsuid : DsUid)
  | pushProperty (device : DsUid) (properties : Properties)

/-- The name of a call. -/
def Call.name : Call → String
  | .announceContainer _ => "announce_container"
  | .announceDevice _ _ => "announce_device"
  | .identifyDevice _ => "identify_device"
  | .deviceVanished _ => "device_vanished"
  | .sendPong _ => "send_pong"
  | .pushProperty _ _ => "push_property"

/-- What the transport is ready for. -/
structure Transport where
  /-- Is there a session with the controller? -/
  session : Bool
  answer : Call → Except BusError Unit

namespace Transport

/-- Does the transport take a call? -/
def takes (t : Transport) (call : Call) : Bool := (t.answer call).isOk

/-- The transport where none is linked in: it takes every call, but a push only in a session. -/
def loopback (session : Bool) : Transport where
  session := session
  answer
    | .pushProperty _ _ => if session then .ok () else .error .noSession
    | _ => .ok ()

end Transport

/-- A call that was made. -/
structure Sent where
  call : Call
  taken : Bool

/-- Makes a call. -/
def Transport.send (t : Transport) (call : Call) : Sent := ⟨call, t.takes call⟩

/-- What the bus controller asks or reports. -/
inductive BusEvent where
  | newSession
  | endSession
  | ping (dsuid : String)
  | getProperty (dsuid : String) (query : List QueryItem)
  | setProperty (dsuid : String) (entries : List PropertyEntry)
  | callScene (dsuids : List String) (scene : Int32) (force : Bool)
  | saveScene (dsuids : List String) (scene : Int32)
  | identify (dsuid : String)
  | remove (dsuid : String)
  | genericRequest (dsuid method : String) (params : List PropertyEntry)

/-- What the bridge replies to an event. -/
inductive Reply where
  /-- The event asks for no reply, or the request was dropped. -/
  | none
  | properties (entries : Properties)
  | code (code : ResultCode)
  | accepted (yes : Bool)

end HumidifierBridge
