import HumidifierBridge.Config.File
import HumidifierBridge.Toml.Reader
import HumidifierBridge.Toml.Writer

/-!
# The text of a configuration file

`ConfigFile.ofText?` reads a file and `ConfigFile.toText` writes one. Reading passes over unknown
keys and refuses values of a wrong type or outside the range of their field. A section may also be
an array that gives its fields in their order. Numbers without a value are refused wherever a table
holds them, but not among the items of an array that follow the last field.
-/

namespace HumidifierBridge

namespace ConfigFile

/-- A way to read a value. -/
abbrev Decoder (α : Type) := Toml → Option α

/-- The value at a field that may be missing; one that is there must be readable. -/
def optional? {α : Type} (decode : Decoder α) : Option Toml → Option (Option α)
  | none => some none
  | some v => (decode v).map some

/-- The value at a field that has a default. -/
def orDefault? {α : Type} (decode : Decoder α) (default : α) : Option Toml → Option α
  | none => some default
  | some v => decode v

/-- A text. -/
def string? : Decoder String
  | .string s => some s
  | _ => none

/-- A boolean. -/
def boolean? : Decoder Bool
  | .boolean b => some b
  | _ => none

/-- An integer within bounds. -/
def integer? (least greatest : Int) : Decoder Int
  | .integer n => if least ≤ n ∧ n ≤ greatest then some n else none
  | _ => none

/-- An unsigned 16-bit integer. -/
def uint16? (v : Toml) : Option UInt16 := (integer? 0 65535 v).map fun n => .ofNat n.toNat

/-- An unsigned 32-bit integer. -/
def uint32? (v : Toml) : Option UInt32 := (integer? 0 4294967295 v).map fun n => .ofNat n.toNat

/-- An unsigned 64-bit integer. -/
def uint64? (v : Toml) : Option UInt64 :=
  (integer? 0 18446744073709551615 v).map fun n => .ofNat n.toNat

/-- A signed 32-bit integer. -/
def int32? (v : Toml) : Option Int32 := (integer? (-2147483648) 2147483647 v).map .ofInt

/-- A signed 64-bit integer. -/
def int64? (v : Toml) : Option Int64 :=
  (integer? (-9223372036854775808) 9223372036854775807 v).map .ofInt

/-- The fields of a section of the given names, which an array gives in their order; a date has none
of them. What a table holds under other names has to be readable. -/
def section? (names : List String) : Decoder (String → Option Toml)
  | .table fields =>
    if fields.all fun f => names.contains f.1 || f.2.isReadable then
      some (KeyMap.lookup? fields)
    else none
  | .array items => some fun name => (names.idxOf? name).bind (items[·]?)
  | .dateTime _ => some fun _ => none
  | _ => none

/-- A table of sections under any keys. -/
def sections? {α : Type} (decode : Decoder α) : Decoder (KeyMap α)
  | .table fields => (fields.mapM fun f => (decode f.2).map (f.1, ·)).map KeyMap.ofList
  | _ => none

/-- The section of a scene, whose number is mandatory. -/
def scene? : Decoder SceneSection := fun v => do
  let field ← section? ["dsId", "fan", "mode_automatic", "mode_sleep"] v
  let number ← (field "dsId").bind int32?
  let fan ← optional? int64? (field "fan")
  let auto ← optional? int64? (field "mode_automatic")
  let sleep ← optional? int64? (field "mode_sleep")
  return { number, fan, auto, sleep }

/-- The section of a sensor. -/
def sensor? : Decoder SensorSection := fun v => do
  let field ← section? ["value_name", "sensor_type", "sensor_usage", "active"] v
  let name ← orDefault? string? "" (field "value_name")
  let kind ← orDefault? uint32? 0 (field "sensor_type")
  let usage ← orDefault? uint32? 0 (field "sensor_usage")
  let active ← orDefault? boolean? true (field "active")
  return { name, kind, usage, active }

/-- The section of the appliance. -/
def appliance? : Decoder ApplianceSection := fun v => do
  let field ← section? ["name", "id", "ip", "zone_id", "scenes"] v
  let name ← optional? string? (field "name")
  let id ← optional? string? (field "id")
  let address ← optional? string? (field "ip")
  let zone ← optional? uint16? (field "zone_id")
  let scenes ← orDefault? (sections? scene?) .empty (field "scenes")
  return { name, id, address, zone, scenes }

/-- The file with the given fields in its outermost table. -/
def ofFields? (fields : List (String × Toml)) : Option ConfigFile := do
  let names := ["vdcdsuid", "libdsuid", "reload_values", "zone_id", "debug", "humifier",
    "sensor_values"]
  let field ← section? names (.table fields)
  let vdc ← optional? string? (field "vdcdsuid")
  let library ← optional? string? (field "libdsuid")
  let reloadSeconds ← optional? uint64? (field "reload_values")
  let zone ← optional? uint16? (field "zone_id")
  let debugLevel ← optional? int64? (field "debug")
  let appliance ← optional? appliance? (field "humifier")
  let sensors ← orDefault? (sections? sensor?) .empty (field "sensor_values")
  return { vdc, library, reloadSeconds, zone, debugLevel, appliance, sensors }

/-- Reads the text of a file. -/
def ofText? (text : List Char) : Option ConfigFile := (Toml.parse? text).bind ofFields?

open Toml (Block Plain Sheet)

/-- A field that is written only if it has a value. -/
def field? {α : Type} (name : String) (value : Option α) (write : α → Plain) :
    Option (String × Plain) :=
  value.map fun a => (name, write a)

/-- The fields that have a value. -/
def present (fields : List (Option (String × Plain))) : List (String × Plain) :=
  fields.filterMap id

/-- The fields of a scene. -/
def sceneFields (s : SceneSection) : List (String × Plain) :=
  present [
    some ("dsId", .integer s.number.toInt),
    field? "fan" s.fan fun n => .integer n.toInt,
    field? "mode_automatic" s.auto fun n => .integer n.toInt,
    field? "mode_sleep" s.sleep fun n => .integer n.toInt]

/-- The fields of a sensor. -/
def sensorFields (s : SensorSection) : List (String × Plain) :=
  [("value_name", .string s.name), ("sensor_type", .integer s.kind.toNat),
    ("sensor_usage", .integer s.usage.toNat), ("active", .boolean s.active)]

/-- The fields of the appliance. -/
def applianceFields (a : ApplianceSection) : List (String × Plain) :=
  present [
    field? "name" a.name .string,
    field? "id" a.id .string,
    field? "ip" a.address .string,
    field? "zone_id" a.zone fun n => .integer n.toNat]

/-- The appliance's own block, which is left out where there are scenes but no fields. -/
def applianceBlock (a : ApplianceSection) : List Block :=
  if (applianceFields a).isEmpty && !a.scenes.isEmpty then []
  else [⟨["humifier"], applianceFields a⟩]

/-- The blocks of the appliance and its scenes. -/
def applianceBlocks (a : ApplianceSection) : List Block :=
  applianceBlock a ++
    a.scenes.toList.map fun s => ⟨["humifier", "scenes", s.1], sceneFields s.2⟩

/-- The document that a file is written as. -/
def sheet (f : ConfigFile) : Sheet where
  top := present [
    field? "vdcdsuid" f.vdc .string,
    field? "libdsuid" f.library .string,
    field? "reload_values" f.reloadSeconds fun n => .integer n.toNat,
    field? "zone_id" f.zone fun n => .integer n.toNat,
    field? "debug" f.debugLevel fun n => .integer n.toInt]
  blocks := (f.appliance.map applianceBlocks).getD [] ++
    f.sensors.toList.map fun s => ⟨["sensor_values", s.1], sensorFields s.2⟩

/-- The text that a file is written as. -/
def toText (f : ConfigFile) : String := String.ofList f.sheet.write

end ConfigFile

end HumidifierBridge
