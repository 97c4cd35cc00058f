import HumidifierBridge.Number.Binary64

/-!
# Properties

The bus reads and writes named properties. A property is a plain value or a list of named
properties, whose order counts and whose names may repeat.
-/

namespace HumidifierBridge

/-- The value of a property. -/
inductive Property where
  | bool (b : Bool)
  /-- A signed 64-bit integer. -/
  | int (n : Int)
  /-- An unsigned 64-bit integer. -/
  | uint (n : Nat)
  | double (x : Binary64)
  | string (s : String)
  | bytes (octets : List UInt8)
  | object (entries : List (String × Property))
  deriving Inhabited

/-- Named properties in order. -/
abbrev Properties := List (String × Property)

namespace Property

/-- The value of an unsigned integer. -/
def uint? : Property → Option Nat
  | .uint n => some n
  | _ => none

/-- The text of a string. -/
def string? : Property → Option String
  | .string s => some s
  | _ => none

/-- The entries of an object. -/
def object? : Property → Option Properties
  | .object entries => some entries
  | _ => none

/-- The first property of a name. -/
def get? (entries : Properties) (name : String) : Option Property :=
  (entries.find? (·.1 = name)).map (·.2)

mutual

/-- Equality of values; a NaN differs from itself. -/
def sameValue : Property → Property → Bool
  | .bool a, .bool b => a == b
  | .int a, .int b => a == b
  | .uint a, .uint b => a == b
  | .double a, .double b => a.sameValue b
  | .string a, .string b => a == b
  | .bytes a, .bytes b => a == b
  | .object a, .object b => sameEntries a b
  | _, _ => false

/-- Equality of entries, one by one in order. -/
def sameEntries : List (String × Property) → List (String × Property) → Bool
  | [], [] => true
  | (m, a) :: as, (n, b) :: bs => m == n && sameValue a b && sameEntries as bs
  | _, _ => false

end

end Property

/-- A property that the bus hands over; without a name it means all properties. -/
structure PropertyEntry where
  name : Option String
  value : Property

/-- A property that the bus asks for; without a name it means all properties. The children narrow
the request. -/
structure QueryItem where
  name : Option String := none
  children : List QueryItem := []
  deriving Inhabited

namespace QueryItem

/-- A request for one property. -/
def named (name : String) : QueryItem := { name := some name }

/-- A request that is narrowed by one more child. -/
def withChild (item child : QueryItem) : QueryItem :=
  { item with children := item.children ++ [child] }

mutual

/-- Equality of requests. -/
def same : QueryItem → QueryItem → Bool
  | ⟨m, as⟩, ⟨n, bs⟩ => m == n && sameItems as bs

/-- Equality of lists of requests. -/
def sameItems : List QueryItem → List QueryItem → Bool
  | [], [] => true
  | a :: as, b :: bs => same a b && sameItems as bs
  | _, _ => false

end

end QueryItem

/-- How a request of the bus ended. -/
inductive ResultCode where
  | ok
  | notFound
  | invalidValueType
  | notImplemented
  | missingData
  deriving DecidableEq, Repr

/-- The words for a result. -/
def ResultCode.text : ResultCode → String
  | .ok => "ok"
  | .notFound => "not found"
  | .invalidValueType => "invalid value type"
  | .notImplemented => "not implemented"
  | .missingData => "missing data"

end HumidifierBridge
