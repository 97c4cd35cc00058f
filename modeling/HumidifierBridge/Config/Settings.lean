import HumidifierBridge.Profile.Basic

/-!
# Settings

What the configuration sets apart from the appliance: how often to poll, the zone of the bridge
itself, and how much to log.
-/

namespace HumidifierBridge

/-- No part of a second. -/
def noMillis : Fin 1000 := 0

/-- Settings of a running bridge. -/
structure Settings where
  /-- Whole seconds from a successful poll to the next one. -/
  reloadSeconds : UInt64 := 60
  /-- The milliseconds beyond these. Configurations give none. -/
  reloadMillis : Fin 1000 := noMillis
  /-- The zone of the bridge, and of an appliance without one of its own. -/
  defaultZone : UInt16 := HumidifierBridge.defaultZone
  /-- How much to log, on the scale of the system log. -/
  debugLevel : Option UInt8 := none
  deriving DecidableEq, Inhabited

namespace Settings

/-- The reload interval, from a successful poll to the next one, in milliseconds as all times. -/
def reload (s : Settings) : Nat := s.reloadSeconds.toNat * 1000 + s.reloadMillis

/-- The seconds between polls where none are configured. -/
def defaultReloadSeconds : UInt64 := 60

/-- The most seconds between polls, a day. -/
def maxReloadSeconds : UInt64 := 86400

/-- The greatest level of logging. -/
def maxDebugLevel : Nat := 10

/-- The level of logging where none is configured. -/
def defaultDebugLevel : UInt8 := 5

end Settings

end HumidifierBridge
