import HumidifierBridge.DsUid.Basic

/-!
# Identity on the bus

The bridge answers to three dSUIDs: those of the container and of its library, which both mean the
container, and that of the device.
-/

namespace HumidifierBridge

/-- Whom a request is for. -/
inductive Target where
  | container
  | device
  deriving DecidableEq, Repr

/-- The names of the bridge on the bus. -/
structure Identity where
  /-- The dSUID of the container. -/
  vdc : DsUid
  library : DsUid
  device : DsUid
  /-- The host that the bridge runs on. -/
  hostname : String
  deriving DecidableEq

namespace Identity

/-- The name under which the service is announced. -/
def serviceName (i : Identity) : String := "Venta humifier Controller @" ++ i.hostname

/-- The own dSUID that a text means, whatever the case of its letters. -/
def resolve (i : Identity) (text : String) : Option DsUid :=
  [i.vdc, i.library, i.device].find? (·.matchesText text)

/-- Whom a text means, whatever the case of its letters. -/
def target (i : Identity) (text : String) : Option Target :=
  if i.vdc.matchesText text || i.library.matchesText text then some .container
  else if i.device.matchesText text then some .device
  else none

end Identity

end HumidifierBridge
