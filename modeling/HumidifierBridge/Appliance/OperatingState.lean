import HumidifierBridge.Appliance.FanSpeed

/-!
# Operating state

What is known of the appliance's operation. Each field is optional, because not every appliance
reports every field; a report is merged field by field, and a field it lacks stays as known.
-/

namespace HumidifierBridge

/-- The known operating values: those of one report, or those of all reports so far. -/
structure OperatingState where
  /-- Measured relative humidity in percent. -/
  humidity : Option Int := none
  temperature : Option Int := none
  targetHumidity : Option Int := none
  /-- The fan level as reported, whatever its number. -/
  fan : Option Int := none
  sleep : Option Bool := none
  auto : Option Bool := none
  deriving DecidableEq, Inhabited

namespace OperatingState

/-- Nothing is known. -/
def empty : OperatingState := {}

/-- The known values after a report. -/
def merge (known report : OperatingState) : OperatingState where
  humidity := report.humidity <|> known.humidity
  temperature := report.temperature <|> known.temperature
  targetHumidity := report.targetHumidity <|> known.targetHumidity
  fan := report.fan <|> known.fan
  sleep := report.sleep <|> known.sleep
  auto := report.auto <|> known.auto

/-- Does the report change a known value? -/
def changedBy (known report : OperatingState) : Bool := known.merge report ≠ known

/-- The fan level, if it is one of the three speeds. -/
def fanSpeed (s : OperatingState) : Option FanSpeed := s.fan.bind FanSpeed.ofLevel?

@[simp] theorem merge_empty (known : OperatingState) : known.merge empty = known := by
  simp [merge, empty]

@[simp] theorem merge_self (known : OperatingState) : known.merge known = known := by
  simp [merge]

end OperatingState

end HumidifierBridge
