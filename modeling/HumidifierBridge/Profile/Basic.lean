import HumidifierBridge.Error
import HumidifierBridge.Profile.Scene
import HumidifierBridge.Profile.Sensor

/-!
# The appliance's profile

A profile describes the bridged appliance: its identity, the sensors it shows to the bus, and its
scenes. It is read once from the configuration and then kept up to date by reports and by requests
of the bus.
-/

namespace HumidifierBridge

/-- The zone where none is configured. -/
def defaultZone : UInt16 := 65534

/-- The description of the bridged appliance. -/
structure Profile where
  id : String
  name : String
  /-- Host name, network address or base URL. -/
  address : String
  zone : UInt16 := defaultZone
  /-- The sensors by slot. -/
  sensors : List Sensor := []
  scenes : SceneTable := {}
  /-- When the profile was loaded; sensors never read age from here. -/
  loadedAt : Time := 0
  deriving DecidableEq, Inhabited

namespace Profile

/-- The number of sensor slots. -/
def sensorCapacity : Nat := 15

/-- Appends a sensor. It is refused when all slots are taken, or else when a sensor of that name,
active or not, is there. -/
def addSensor (p : Profile) (s : Sensor) : Except ConfigError Profile :=
  if p.sensors.length ≥ sensorCapacity then
    .error (.invalidValue "sensor_values"
      ("at most " ++ toString sensorCapacity ++ " sensors are supported"))
  else if p.sensors.any (·.isNamed s.name) then .error (.duplicateSensor s.name)
  else .ok { p with sensors := p.sensors ++ [s] }

/-- Active sensors with their slot numbers. -/
def activeSensors (p : Profile) : List (Nat × Sensor) :=
  (p.sensors.mapIdx fun i s => (i, s)).filter (·.2.active)

/-- Does the name mean this sensor, and is it active? -/
def answersTo (name : String) (s : Sensor) : Bool := s.active && s.isNamed name

/-- The active sensor of a name. -/
def findSensor? (p : Profile) (name : String) : Option Sensor :=
  p.sensors.find? (answersTo name)

/-- Changes the first element that satisfies a test. -/
def modifyFirst {α : Type} (test : α → Bool) (f : α → α) : List α → List α
  | [] => []
  | a :: as => if test a then f a :: as else a :: modifyFirst test f as

/-- Hands a value to the active sensor of a name. The second part says whether it was news, and is
none where no active sensor has the name. -/
def recordReading (p : Profile) (name : String) (value : Binary64) (now : Time) :
    Profile × Option Bool :=
  ({ p with
      sensors := modifyFirst (answersTo name)
        (fun s => { s with reading := s.reading.record value now }) p.sensors },
    (p.findSensor? name).map (·.reading.differs value))

/-- Notes that the values of all active sensors were pushed to the bus. -/
def markReported (p : Profile) (now : Time) : Profile :=
  { p with
    sensors := p.sensors.map fun s =>
      if s.active then { s with reading := s.reading.markReported now } else s }

end Profile

end HumidifierBridge
