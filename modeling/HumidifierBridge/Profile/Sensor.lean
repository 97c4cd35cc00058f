import HumidifierBridge.Number.Binary64
import HumidifierBridge.Text.Ascii
import HumidifierBridge.Time

/-!
# Sensors

A sensor is a named measurement of the appliance that the bus can see. Its name is matched without
regard to case against the names in data reports. It keeps the last two values and the times at
which it was last read and last pushed to the bus.
-/

namespace HumidifierBridge

/-- What a sensor measures, by the number the bus has for it. -/
structure SensorKind where
  code : UInt32
  deriving DecidableEq, Inhabited

namespace SensorKind

/-- Room temperature in degrees Celsius. -/
def temperature : SensorKind := ⟨1⟩

/-- Relative humidity in percent. -/
def humidity : SensorKind := ⟨2⟩

/-- The name of a kind; kinds without one go by their number. -/
def name (k : SensorKind) : String :=
  if k = temperature then "Temperature"
  else if k = humidity then "Humidity"
  else "Other(" ++ toString k.code ++ ")"

end SensorKind

/-- The last two values of a sensor. -/
structure Reading where
  value : Binary64 := .zero
  previous : Binary64 := .zero
  /-- When the value was last read from the appliance. -/
  lastQueried : Option Time := none
  /-- When the value was last pushed to the bus. -/
  lastReported : Option Time := none
  deriving DecidableEq, Inhabited

namespace Reading

/-- Would this value be news? A first value always is, and so is every NaN. -/
def differs (r : Reading) (value : Binary64) : Bool :=
  r.lastQueried.isNone || !r.value.sameValue value

/-- Takes a value read from the appliance. -/
def record (r : Reading) (value : Binary64) (now : Time) : Reading :=
  { r with value := value, previous := r.value, lastQueried := some now }

/-- Notes that the value was pushed to the bus. -/
def markReported (r : Reading) (now : Time) : Reading := { r with lastReported := some now }

/-- The age of the value in whole seconds; a sensor never read ages from the time given. -/
def ageSeconds (r : Reading) (now since : Time) : Int :=
  now.secondsSince (r.lastQueried.getD since)

end Reading

/-- A named measurement that the bus can see. -/
structure Sensor where
  name : String
  kind : SensorKind
  /-- The bus number for the use of the measurement. -/
  usage : UInt32
  /-- An inactive sensor keeps its slot but is passed over by every read. -/
  active : Bool := true
  reading : Reading := {}
  deriving DecidableEq, Inhabited

/-- Does the name mean this sensor, whatever the case of its letters? -/
def Sensor.isNamed (s : Sensor) (name : String) : Bool := Ascii.sameFold s.name name

end HumidifierBridge
