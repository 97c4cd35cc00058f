import HumidifierBridge.Json.Basic
import HumidifierBridge.Text.Decimal

/-!
# Number literals

A number literal is read into its parts (`Literal.scan?`) and then valued (`Literal.value?`).

Valuing keeps as many leading digits as fit into 64 bits. A literal without fraction and exponent
whose digits all fit is an integer, save for a minus sign before zero or before a value beyond the
signed 64-bit integers, which make a double. Every other literal is a double: the kept digits,
rounded, then multiplied or divided by one rounded power of ten. This is not always the double
nearest to the literal, but it is exact for the short literals that appliances send. A literal
whose double would be infinite has no value.
-/

namespace HumidifierBridge.Json

/-- The parts of a number literal; digits are values below ten. -/
structure Literal where
  negative : Bool
  /-- The digits before the point, at least one. -/
  whole : List Nat
  /-- The digits after the point, if there is one. -/
  fraction : Option (List Nat)
  /-- The sign of the exponent, true for a minus, and its digits, if there is one. -/
  exponent : Option (Bool × List Nat)
  deriving DecidableEq

namespace Literal

/-- The digits at the start of a text, and the rest. -/
def digits : List Char → List Nat × List Char
  | [] => ([], [])
  | c :: rest =>
    match Decimal.digit? c with
    | some d => (d :: (digits rest).1, (digits rest).2)
    | none => ([], c :: rest)

/-- The fraction part, if the text starts with a point; a point needs a digit after it. -/
def scanFraction? : List Char → Option (Option (List Nat) × List Char)
  | '.' :: rest =>
    match digits rest with
    | ([], _) => none
    | (ds, rest) => some (some ds, rest)
  | rest => some (none, rest)

/-- The sign of an exponent, true for a minus. -/
def scanSign : List Char → Bool × List Char
  | '-' :: rest => (true, rest)
  | '+' :: rest => (false, rest)
  | rest => (false, rest)

/-- The exponent part, if the text starts with its letter; the letter needs a digit after it. -/
def scanExponent? : List Char → Option (Option (Bool × List Nat) × List Char)
  | [] => some (none, [])
  | c :: rest =>
    if c = 'e' ∨ c = 'E' then
      let sign := scanSign rest
      match digits sign.2 with
      | ([], _) => none
      | (ds, rest) => some (some (sign.1, ds), rest)
    else some (none, c :: rest)

/-- Reads a number literal; a leading zero stands alone before the point. -/
def scan? (text : List Char) : Option (Literal × List Char) := do
  let (negative, text) := match text with
    | '-' :: rest => (true, rest)
    | _ => (false, text)
  let (whole, rest) ← match digits text with
    | ([], _) => none
    | (0 :: _ :: _, _) => none
    | read => some read
  let (fraction, rest) ← scanFraction? rest
  let (exponent, rest) ← scanExponent? rest
  return (⟨negative, whole, fraction, exponent⟩, rest)

/-- The greatest unsigned 64-bit integer. -/
def maxKept : Nat := 18446744073709551615

/-- Appends leading digits to a number as long as it fits into 64 bits; the digits that are left
over start at the first that does not fit. -/
def keep (kept : Nat) : List Nat → Nat × List Nat
  | [] => (kept, [])
  | d :: ds => if kept * 10 + d ≤ maxKept then keep (kept * 10 + d) ds else (kept, d :: ds)

/-- A power of ten as a double, for exponents up to 308. -/
def powerOfTen (n : Nat) : Binary64 := .ofRatio false (Nat.pow 10 n) 1

/-- Division by a power of ten, in steps of at most 308 digits; a zero stays as it is. -/
def scaleDown (x : Binary64) (n : Nat) : Binary64 :=
  if n ≤ 308 then x.div (powerOfTen n)
  else if x.magnitude = 0 then x
  else scaleDown (x.div (powerOfTen 308)) (n - 308)
termination_by n

/-- The kept digits times a power of ten, none where that is infinite. -/
def scale? (kept : Nat) (exponent : Int) : Option Binary64 :=
  let x := Binary64.ofRatio false kept 1
  if exponent < 0 then some (scaleDown x exponent.natAbs)
  else if exponent ≤ 308 then
    let y := x.mul (powerOfTen exponent.toNat)
    if y.isInfinite then none else some y
  else if x.magnitude = 0 then some x
  else none

/-- An exponent beyond every 32-bit integer: nothing but zero can be written with it, and with a
plus it needs zero digits. -/
def exponentLimit : Nat := 2147483647

/-- The double of a literal without its sign, none where it is infinite. -/
def absolute? (l : Literal) : Option Binary64 :=
  let (kept, dropped) := keep 0 l.whole
  let (kept, ignored) := keep kept (l.fraction.getD [])
  let shift : Int := dropped.length - ((l.fraction.getD []).length - ignored.length : Nat)
  match l.exponent with
  | none => scale? kept shift
  | some (minus, ds) =>
    let n := Decimal.ofDigits 10 ds
    if n > exponentLimit then
      if kept ≠ 0 ∧ !minus then none else some .zero
    else scale? kept (if minus then shift - n else shift + n)

/-- The value of a literal, none where a double would be infinite. -/
def value? (l : Literal) : Option JsonNumber :=
  let (kept, dropped) := keep 0 l.whole
  let asDouble := (absolute? l).map fun x => .double (if l.negative then x.neg else x)
  match l.fraction, l.exponent, dropped with
  | none, none, [] =>
    if !l.negative then some (.integer kept)
    else if 0 < kept ∧ kept ≤ 9223372036854775808 then some (.integer (-kept))
    else asDouble
  | _, _, _ => asDouble

end Literal

end HumidifierBridge.Json
