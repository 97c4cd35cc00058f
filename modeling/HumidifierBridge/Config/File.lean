import HumidifierBridge.Appliance.FanSpeed
import HumidifierBridge.Config.Settings
import HumidifierBridge.DsUid.Basic
import HumidifierBridge.KeyMap

/-!
# The configuration file

`ConfigFile` holds what is written in a configuration file, before anything is checked. Sensors and
scenes are sections under keys; `ConfigFile.load` in `Config.Load` reads those under `s0`, `s1` and
so on, and `ConfigFile.ofParts` writes them so.
-/

namespace HumidifierBridge

/-- A scene as written. A negative number sets nothing. -/
structure SceneSection where
  number : Int32
  fan : Option Int64 := none
  auto : Option Int64 := none
  sleep : Option Int64 := none
  deriving DecidableEq

/-- A sensor as written. -/
structure SensorSection where
  name : String := ""
  kind : UInt32 := 0
  usage : UInt32 := 0
  active : Bool := true
  deriving DecidableEq

/-- The appliance as written. -/
structure ApplianceSection where
  name : Option String := none
  id : Option String := none
  address : Option String := none
  zone : Option UInt16 := none
  scenes : KeyMap SceneSection := .empty
  deriving DecidableEq

/-- The contents of a configuration file. -/
structure ConfigFile where
  vdc : Option String := none
  library : Option String := none
  reloadSeconds : Option UInt64 := none
  zone : Option UInt16 := none
  debugLevel : Option Int64 := none
  appliance : Option ApplianceSection := none
  sensors : KeyMap SensorSection := .empty
  deriving DecidableEq

namespace ConfigFile

/-- The key of the section for a slot. -/
def slotKey (slot : Nat) : String := "s" ++ toString slot

/-- Sections under the keys of the slots from zero on. -/
def slotted {α : Type} (sections : List α) : KeyMap α :=
  KeyMap.ofList (sections.mapIdx fun i a => (slotKey i, a))

/-- The file to start from. Its appliance has no identity yet, so that it cannot be loaded as it
is. -/
def template : ConfigFile where
  reloadSeconds := some Settings.defaultReloadSeconds
  zone := some defaultZone
  debugLevel := some 5
  appliance := some {
    name := some "Venta"
    id := some ""
    address := some ""
    scenes := slotted [{ number := 5, fan := some 2, auto := some 0, sleep := some 0 }] }
  sensors := slotted [
    { name := "hum", kind := SensorKind.humidity.code, usage := 1 },
    { name := "temp", kind := SensorKind.temperature.code, usage := 1 }]

/-- The section of a sensor. -/
def sensorSection (s : Sensor) : SensorSection where
  name := s.name
  kind := s.kind.code
  usage := s.usage
  active := s.active

/-- The number that a setting of a scene is written as. -/
def flagNumber (b : Bool) : Int64 := if b then 1 else 0

/-- The section of a scene. -/
def sceneSection (slot : SceneSlot) : SceneSection where
  number := slot.number
  fan := slot.spec.fan.map fun f => Int64.ofNat f.level
  auto := slot.spec.auto.map flagNumber
  sleep := slot.spec.sleep.map flagNumber

/-- The file that a running bridge would be loaded from. -/
def ofParts (profile : Profile) (settings : Settings) (vdc library : DsUid) : ConfigFile where
  vdc := some vdc.text
  library := some library.text
  reloadSeconds := some settings.reloadSeconds
  zone := some settings.defaultZone
  debugLevel := settings.debugLevel.map fun level => Int64.ofNat level.toNat
  appliance := some {
    name := some profile.name
    id := some profile.id
    address := some profile.address
    zone := some profile.zone
    scenes := slotted (profile.scenes.slots.map sceneSection) }
  sensors := slotted (profile.sensors.map sensorSection)

end ConfigFile

end HumidifierBridge
