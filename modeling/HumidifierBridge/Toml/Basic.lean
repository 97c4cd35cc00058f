import HumidifierBridge.Number.Binary64

/-!
# TOML values

`Toml` is a value of the configuration format. A date or time is kept as its text. A number that has
no value does not spoil its document: `Toml.isReadable` tells those who look at it.
-/

namespace HumidifierBridge

/-- A value of the configuration format. -/
inductive Toml where
  | string (s : String)
  | integer (n : Int)
  | float (x : Binary64)
  | boolean (b : Bool)
  | dateTime (text : String)
  /-- What has the form of a number but no value, since it is too large or lacks its digits. -/
  | unreadable
  | array (items : List Toml)
  | table (fields : List (String × Toml))

namespace Toml

mutual

/-- Has every number in the value, at any depth, a value? -/
def isReadable : Toml → Bool
  | .unreadable => false
  | .array items => areReadable items
  | .table fields => areFieldsReadable fields
  | _ => true

/-- Are all items readable? -/
def areReadable : List Toml → Bool
  | [] => true
  | item :: rest => item.isReadable && areReadable rest

/-- Are all fields readable? -/
def areFieldsReadable : List (String × Toml) → Bool
  | [] => true
  | (_, value) :: rest => value.isReadable && areFieldsReadable rest

end

/-- Blanks within a line. -/
def isSpace (c : Char) : Bool := c = ' ' || c = '\t'

/-- Control characters, which comments and strings do not hold as they are, save for the tab. -/
def isControl (c : Char) : Bool := c.toNat < 0x20 || c.toNat = 0x7F

/-- Characters of a comment, and of a string where nothing else excludes them. -/
def isText (c : Char) : Bool := c = '\t' || !isControl c

/-- Characters of a key without quotes. -/
def isBareKey (c : Char) : Bool := c.isAlphanum || c = '_' || c = '-'

end Toml

end HumidifierBridge
