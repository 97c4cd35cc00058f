import HumidifierBridge.Bridge.Icon
import HumidifierBridge.Bridge.State
import HumidifierBridge.Bus.Identity
import HumidifierBridge.Bus.Property
import HumidifierBridge.Text.Blank
import HumidifierBridge.Text.Decimal

/-!
# The properties of the bridge

The container and the device each have a table of named properties. A `Handler` reads a property and
may write it. Some properties are known but have no value; they are read as nothing.
-/

namespace HumidifierBridge

/-- What a property is read from. -/
structure ReadContext where
  state : BridgeState
  identity : Identity
  query : QueryItem
  now : Time

/-- How a property is read and written. A property that cannot be written has no `write`. -/
structure Handler where
  read : ReadContext → Option Property
  write : Option (BridgeState → Property → Option BridgeState) := none

namespace Handler

/-- A property that can be read only. -/
def readOnly (read : ReadContext → Property) : Handler := { read := fun c => some (read c) }

/-- A property that never changes. -/
def constant (value : Property) : Handler := readOnly fun _ => value

/-- A property without a value. -/
def silent : Handler := { read := fun _ => none }

/-- The zone that a property can be set to. -/
def zone? (value : Property) : Option UInt16 :=
  value.uint?.bind fun n => if n < UInt16.size then some (.ofNat n) else none

/-- The product's name. -/
def productName : String := "Venta Humifier"

/-- The bus group of climate devices. -/
def climateGroup : Nat := 8

/-- The seconds after which the bus takes a silent sensor for dead: 300. -/
def aliveSignInterval : Binary64 := ⟨0x4072C00000000000⟩

/-- The least seconds between pushes of an unchanged value: 5. -/
def changesOnlyInterval : Binary64 := ⟨0x4014000000000000⟩

/-- One entry for each active sensor, under its slot number. -/
def perSensor (p : Profile) (entries : Nat → Sensor → Properties) : Properties :=
  p.activeSensors.map fun s => (toString s.1, .object (entries s.1 s.2))

/-- What the sensors are. -/
def sensorDescriptions (s : BridgeState) : Properties :=
  perSensor s.profile fun _ sensor => [
    ("name", .string (s.profile.name ++ "-" ++ sensor.name)),
    ("sensorType", .uint sensor.kind.code.toNat),
    ("sensorUsage", .uint sensor.usage.toNat),
    ("aliveSignInterval", .double aliveSignInterval)]

/-- How the sensors report. -/
def sensorSettings (s : BridgeState) : Properties :=
  perSensor s.profile fun _ _ => [
    ("group", .uint climateGroup),
    ("minPushInterval", .uint 5),
    ("changesOnlyInterval", .double changesOnlyInterval)]

/-- The slot that a request for sensor states is narrowed to: the number that its first child is
named. -/
def requestedSlot (query : QueryItem) : Option Nat := do
  let child ← query.children.head?
  let name ← child.name
  let slot ← Decimal.unsigned? (Text.trim name).toList
  if slot < UInt64.size then some slot else none

/-- The value of a sensor, its age in seconds, and that nothing is wrong with it. -/
def sensorState (s : BridgeState) (now : Time) (sensor : Sensor) : Properties := [
  ("value", .double sensor.reading.value),
  ("age", .int (sensor.reading.ageSeconds now s.profile.loadedAt)),
  ("error", .int 0)]

/-- The states of the sensors, or of the one in a slot. -/
def sensorStates (s : BridgeState) (now : Time) (only : Option Nat) : Properties :=
  let wanted (slot : Nat) : Bool := only.all (· == slot)
  (s.profile.activeSensors.filter fun a => wanted a.1).map fun a =>
    (toString a.1, .object (sensorState s now a.2))

/-- One thing the device can be asked to do. -/
def action (id title : String) : String × Property :=
  (id, .object [
    ("id", .string ("dynamic." ++ id)),
    ("action", .string ("dynamic." ++ id)),
    ("title", .string title),
    ("description", .string title)])

/-- What the device can be asked to do. -/
def actionDescriptions : Properties := [
  action "ActTurnOn" "01-Einschalten",
  action "ActTurnOff" "02-Ausschalten",
  action "ActFan1" "03-Fanspeed 1",
  action "ActFan2" "04-Fanspeed 2",
  action "ActFan3" "05-Fanspeed 3",
  action "ActSleepModeOn" "06-Schlafmodus an",
  action "ActSleepModeOff" "07-Schlafmodus aus",
  action "ActAutoModeOn" "08-Automatikmodus an",
  action "ActAutoModeOff" "09-Automatikmodus aus"]

/-- The zone of the bridge itself. -/
def bridgeZone : Handler where
  read c := some (.uint c.state.settings.defaultZone.toNat)
  write := some fun s value => (zone? value).map fun zone =>
    { s with settings := { s.settings with defaultZone := zone } }

/-- The zone of the device. -/
def deviceZone : Handler where
  read c := some (.uint c.state.profile.zone.toNat)
  write := some fun s value => (zone? value).map fun zone =>
    { s with profile := { s.profile with zone := zone } }

/-- The properties of the container. -/
def containerTable : List (String × Handler) := [
  ("hardwareGuid", readOnly fun c => .string ("humifier-id:" ++ c.state.profile.id)),
  ("displayId", readOnly fun c => .string c.state.profile.id),
  ("vendorId", silent),
  ("oemGuid", silent),
  ("configURL", silent),
  ("implementationId", constant (.string productName)),
  ("modelUID", constant (.string productName)),
  ("modelGuid", constant (.string productName)),
  ("name", readOnly fun c => .string (productName ++ " " ++ c.state.profile.name)),
  ("model", readOnly fun c => .string (productName ++ " Controller @" ++ c.identity.hostname)),
  ("capabilities", constant (.object [
    ("metering", .bool false), ("dynamicDefinitions", .bool true)])),
  ("zoneID", bridgeZone)]

/-- The properties of the device. -/
def deviceTable : List (String × Handler) := [
  ("primaryGroup", constant (.uint climateGroup)),
  ("zoneID", deviceZone),
  ("dynamicActionDescriptions", constant (.object actionDescriptions)),
  ("outputDescription", constant (.object [
    ("name", .string productName), ("defaultGroup", .uint 3), ("function", .uint 0),
    ("outputUsage", .uint 1), ("variableRamp", .bool true), ("maxPower", .uint 100)])),
  ("outputSettings", constant (.object [
    ("groups", .object [("0", .bool true), ("3", .bool true)]),
    ("mode", .uint 1), ("pushChanges", .bool true)])),
  ("sensorDescriptions", readOnly fun c => .object (sensorDescriptions c.state)),
  ("sensorSettings", readOnly fun c => .object (sensorSettings c.state)),
  ("sensorStates", readOnly fun c =>
    .object (sensorStates c.state c.now (requestedSlot c.query))),
  ("name", readOnly fun c => .string c.state.profile.name),
  ("type", constant (.string "vDSD")),
  ("model", constant (.string "Humifier")),
  ("modelFeatures", constant (.object [
    ("dontcare", .bool false), ("blink", .bool false), ("outmode", .bool false),
    ("jokerconfig", .bool true)])),
  ("modelUID", constant (.string productName)),
  ("modelVersion", constant (.string "0")),
  ("vendorId", constant (.string "vendor: Venta")),
  ("vendorName", constant (.string "Venta")),
  ("vendorGuid", readOnly fun c => .string ("Venta vDC " ++ c.state.profile.id)),
  ("hardwareVersion", constant (.string "0.0.0")),
  ("configURL", constant (.string "")),
  ("hardwareModelGuid", constant (.string "")),
  ("deviceIcon16", constant (.bytes Icon.small)),
  ("deviceIcon48", constant (.bytes Icon.large)),
  ("deviceIconName", constant (.string Icon.fileName)),
  ("buttonInputDescriptions", silent),
  ("buttonInputSettings", silent),
  ("binaryInputDescriptions", silent),
  ("binaryInputSettings", silent),
  ("binaryInputStates", silent),
  ("channelDescriptions", silent),
  ("channelSettings", silent),
  ("channelStates", silent),
  ("deviceStates", silent),
  ("deviceProperties", silent),
  ("devicePropertyDescriptions", silent),
  ("customActions", silent),
  ("deviceClass", silent),
  ("deviceClassVersion", silent),
  ("oemGuid", silent),
  ("oemModelGuid", silent)]

/-- The properties of a target. -/
def table : Target → List (String × Handler)
  | .container => containerTable
  | .device => deviceTable

/-- The handler of a target's property. -/
def find? (target : Target) (name : String) : Option Handler :=
  ((table target).find? (·.1 = name)).map (·.2)

end Handler

end HumidifierBridge
