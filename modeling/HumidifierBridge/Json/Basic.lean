import HumidifierBridge.KeyMap
import HumidifierBridge.Number.Binary64

/-!
# JSON documents

`Json` is a decoded document. The members of an object are kept as the entries of a key map: in
ascending order of their names, each name once. Where a document repeats a name, the last occurrence
stays.
-/

namespace HumidifierBridge

/-- A number of a document: an integer of at most 64 bits as it is, anything else as a double. -/
inductive JsonNumber where
  | integer (n : Int)
  | double (x : Binary64)
  deriving DecidableEq

namespace JsonNumber

/-- The number as a double. -/
def toBinary64 : JsonNumber → Binary64
  | .integer n => .ofInt n
  | .double x => x

/-- The number as a signed 64-bit integer: an integer as it is, if it is one of these, and otherwise
the integer part of the double, clamped. -/
def toInt64 : JsonNumber → Int
  | .integer n =>
    if -9223372036854775808 ≤ n ∧ n ≤ 9223372036854775807 then n else (Binary64.ofInt n).toInt64
  | .double x => x.toInt64

end JsonNumber

/-- A decoded document. -/
inductive Json where
  | null
  | bool (b : Bool)
  | number (n : JsonNumber)
  | string (s : String)
  | array (items : List Json)
  | object (members : List (String × Json))

namespace Json

/-- The name of a document's kind. -/
def kindName : Json → String
  | .null => "null"
  | .bool _ => "boolean"
  | .number _ => "number"
  | .string _ => "string"
  | .array _ => "array"
  | .object _ => "object"

end Json

end HumidifierBridge
