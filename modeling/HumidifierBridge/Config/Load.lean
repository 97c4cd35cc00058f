import HumidifierBridge.Config.File
import HumidifierBridge.Error
import HumidifierBridge.Text.Blank

/-!
# Loading a configuration

`ConfigFile.load` checks a configuration file and makes the profile and settings that a bridge
starts from. Of the sensors and scenes it takes those in the slots from zero on, up to the first
slot without a section.
-/

namespace HumidifierBridge

/-- What a configuration file gives. -/
structure LoadedConfig where
  profile : Profile
  settings : Settings
  vdc : Option DsUid
  library : Option DsUid
  deriving DecidableEq

namespace ConfigFile

/-- A text, unless it is blank. -/
def nonBlank (text : Option String) : Option String := text.filter fun s => !Text.isBlankText s

/-- The sections in `count` slots from a first one, with their keys, up to the first slot without a
section. -/
def slotRun {α : Type} (sections : KeyMap α) : (first count : Nat) → List (String × α)
  | _, 0 => []
  | first, count + 1 =>
    match sections.get? (slotKey first) with
    | none => []
    | some a => (slotKey first, a) :: slotRun sections (first + 1) count

/-- The seconds between polls, from one to a day. -/
def loadReload : Option UInt64 → Except ConfigError UInt64
  | none => .ok Settings.defaultReloadSeconds
  | some seconds =>
    if seconds = 0 then .error (.invalidValue "reload_values" "must be at least one second")
    else if Settings.maxReloadSeconds < seconds then
      .error (.invalidValue "reload_values"
        ("must be at most " ++ toString Settings.maxReloadSeconds ++ " seconds"))
    else .ok seconds

/-- The level of logging; a number that is no level is as good as none. -/
def loadDebugLevel (level : Option Int64) : Option UInt8 :=
  level.bind fun n =>
    if 0 ≤ n.toInt ∧ n.toInt ≤ Settings.maxDebugLevel then some (UInt8.ofNat n.toInt.toNat)
    else none

/-- A dSUID, with blanks around it allowed; a blank text is none. -/
def loadDsUid (field : String) (text : Option String) : Except ConfigError (Option DsUid) :=
  match nonBlank text with
  | none => .ok none
  | some s =>
    match DsUid.ofText (Text.trim s) with
    | .ok d => .ok (some d)
    | .error e => .error (.invalidValue field e.message)

/-- Adds the sensor of a section to a profile. -/
def loadSensor (p : Profile) (s : String × SensorSection) : Except ConfigError Profile :=
  if Text.isBlankText s.2.name then
    .error (.invalidValue ("sensor_values." ++ s.1 ++ ".value_name") "sensor name is empty")
  else
    p.addSensor { name := s.2.name, kind := ⟨s.2.kind⟩, usage := s.2.usage, active := s.2.active }

/-- A number that is not negative. -/
def nonNegative (n : Option Int64) : Option Int := (n.map (·.toInt)).filter (0 ≤ ·)

/-- A mode setting: positive numbers turn it on. -/
def loadFlag (n : Option Int64) : Option Bool := (nonNegative n).map (0 < ·)

/-- The settings of a scene. -/
def loadSpec (s : String × SceneSection) : Except ConfigError SceneSpec :=
  match nonNegative s.2.fan with
  | none => .ok ⟨none, loadFlag s.2.sleep, loadFlag s.2.auto⟩
  | some n =>
    match FanSpeed.ofLevel n with
    | .ok fan => .ok ⟨some fan, loadFlag s.2.sleep, loadFlag s.2.auto⟩
    | .error e => .error (.invalidValue ("humifier.scenes." ++ s.1 ++ ".fan") e.message)

/-- Adds the scene of a section to a table; the last section of a scene number holds. -/
def loadScene (t : SceneTable) (s : String × SceneSection) : Except ConfigError SceneTable :=
  match loadSpec s with
  | .ok spec => .ok (t.insert s.2.number spec).1
  | .error e => .error e

/-- Makes sure that a mandatory text is there. -/
def require (field : String) (text : Option String) : Except ConfigError String :=
  match nonBlank text with
  | some s => .ok s
  | none => .error (.missingField field)

/-- Checks the file and gives what a bridge starts from; sensors that are never read age from
`loadedAt`. -/
def load (f : ConfigFile) (loadedAt : Time) : Except ConfigError LoadedConfig := do
  let reloadSeconds ← loadReload f.reloadSeconds
  let settings : Settings := {
    reloadSeconds
    defaultZone := f.zone.getD defaultZone
    debugLevel := loadDebugLevel f.debugLevel }
  let vdc ← loadDsUid "vdcdsuid" f.vdc
  let library ← loadDsUid "libdsuid" f.library
  let a := f.appliance.getD {}
  let id ← require "humifier.id" a.id
  let address ← require "humifier.ip" a.address
  let bare : Profile := {
    id
    name := a.name.getD id
    address
    zone := a.zone.getD settings.defaultZone
    loadedAt }
  let profile ← (slotRun f.sensors 0 Profile.sensorCapacity).foldlM loadSensor bare
  let scenes ← (slotRun a.scenes 0 profile.scenes.capacity).foldlM loadScene profile.scenes
  return { profile := { profile with scenes }, settings, vdc, library }

end ConfigFile

end HumidifierBridge
