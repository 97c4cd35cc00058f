/-!
# Decimal digits

Reading the ASCII decimal digits, and the numbers that runs of them write.
-/

namespace HumidifierBridge.Decimal

/-- The value of a decimal digit. -/
def digit? (c : Char) : Option Nat :=
  if '0' ≤ c ∧ c ≤ '9' then some (c.toNat - 48) else none

/-- Is the character a decimal digit? -/
def isDigit (c : Char) : Bool := (digit? c).isSome

/-- The number that digits write, given by their values, in a base. -/
def ofDigits (base : Nat) (ds : List Nat) : Nat := ds.foldl (fun n d => n * base + d) 0

/-- The number of a text of decimal digits, which has at least one. -/
def natural? (text : List Char) : Option Nat :=
  match text with
  | [] => none
  | _ => (text.mapM digit?).map (ofDigits 10)

/-- The number of a text of decimal digits with at most one plus sign before it. -/
def unsigned? : List Char → Option Nat
  | '+' :: rest => natural? rest
  | text => natural? text

/-- The number of a text of decimal digits with at most one sign before it. -/
def signed? : List Char → Option Int
  | '-' :: rest => (natural? rest).map fun n => -(n : Int)
  | text => (unsigned? text).map Int.ofNat

end HumidifierBridge.Decimal
