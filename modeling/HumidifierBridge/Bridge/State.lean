import HumidifierBridge.Appliance.Report
import HumidifierBridge.Config.Settings

/-!
# The state of a bridge

Everything about a running bridge that changes: the profile with its readings, the operating state
of the appliance, the settings, and how far the bus has been told.
-/

namespace HumidifierBridge

/-- What the bus has been told about the device. -/
structure Presence where
  /-- The device was announced in this session. -/
  announced : Bool := false
  /-- The appliance counts as there. -/
  present : Bool := true
  /-- The bus was last told that the appliance is there. -/
  presentSignaled : Bool := false
  deriving DecidableEq

/-- The changing part of a bridge. -/
structure BridgeState where
  profile : Profile
  appliance : OperatingState := .empty
  /-- Readings wait to be pushed to the bus. -/
  dirty : Bool := false
  settings : Settings
  presence : Presence := {}
  deriving DecidableEq

namespace BridgeState

/-- The state at the start. -/
def new (profile : Profile) (settings : Settings) : BridgeState := { profile, settings }

/-- Offers one value of a report to the sensors, and notes whether that was a change. -/
def offer (now : Time) (s : Profile × Bool) (value : String × Binary64) : Profile × Bool :=
  let (profile, news) := s.1.recordReading value.1 value.2 now
  (profile, s.2 || news.getD false)

/-- Takes a report in: the operating state field by field, and every value for the sensor of that
name. The second part says whether a sensor changed or was read for the first time. -/
def applyReport (s : BridgeState) (report : DataReport) (now : Time) : BridgeState × Bool :=
  let (profile, changed) := report.values.foldl (offer now) (s.profile, false)
  ({ s with profile, appliance := s.appliance.merge report.device }, changed)

end BridgeState

end HumidifierBridge
