import HumidifierBridge.Appliance.OperatingState
import HumidifierBridge.Error
import HumidifierBridge.Json.Reader

/-!
# Data reports

The appliance answers a data request with a JSON object. Its `device` member, if that is an object,
carries the operating state. Every number or boolean, in `device` or beside it, is also a value that
a sensor of the same name may take; values come in ascending order of names, those of `device` at
the place of that name. A boolean counts as zero or one. Texts, nulls and arrays are passed over.
-/

namespace HumidifierBridge

/-- A decoded report. -/
structure DataReport where
  device : OperatingState
  /-- Names and values that sensors may take, in order. -/
  values : List (String × Binary64)

namespace DataReport

/-- The name of the member that carries the operating state. -/
def deviceName : String := "device"

/-- The value of a number or boolean. -/
def scalar? : Json → Option Binary64
  | .bool b => some (if b then .one else .zero)
  | .number n => some n.toBinary64
  | _ => none

/-- The integer of a number or boolean. -/
def integer? : Json → Option Int
  | .bool b => some (if b then 1 else 0)
  | .number n => some n.toInt64
  | _ => none

/-- The members that are numbers or booleans, with their values. -/
def scalars (members : List (String × Json)) : List (String × Binary64) :=
  members.filterMap fun m => (scalar? m.2).map (m.1, ·)

/-- The operating state that the members of `device` carry. -/
def operatingState (members : List (String × Json)) : OperatingState :=
  let int (name : String) : Option Int := (KeyMap.lookup? members name).bind integer?
  let flag (name : String) : Option Bool := (int name).map (0 < ·)
  { humidity := int "hum"
    temperature := int "temp"
    targetHumidity := int "humt"
    fan := int "fan"
    sleep := flag "sleep"
    auto := flag "auto" }

/-- The values of one member of the document. -/
def memberValues (m : String × Json) : List (String × Binary64) :=
  if m.1 = deviceName then
    match m.2 with
    | .object members => scalars members
    | _ => []
  else scalars [m]

/-- The report of the members of a document. -/
def ofMembers (members : List (String × Json)) : DataReport where
  device :=
    match KeyMap.lookup? members deviceName with
    | some (.object device) => operatingState device
    | _ => .empty
  values := members.flatMap memberValues

/-- Decodes the body of an answer. -/
def parse (body : List Char) : Except ParseError DataReport :=
  match Json.parse? body with
  | none => .error .json
  | some (.object members) => .ok (ofMembers members)
  | some other => .error (.unexpectedFormat ("expected a JSON object, got " ++ other.kindName))

end DataReport

end HumidifierBridge
