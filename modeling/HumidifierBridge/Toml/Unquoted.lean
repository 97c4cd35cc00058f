import HumidifierBridge.Text.Ascii
import HumidifierBridge.Text.Decimal
import HumidifierBridge.Toml.Basic

/-!
# Values without quotes

Booleans, numbers, dates and times. `ofUnquoted?` reads a whole text as one of them. An underscore
may stand between two digits of a number; a decimal number has no leading zeros. An integer of more
than 128 bits, a float that would round to infinity, a base without digits and a decimal integer
with other characters in its groups have the form of a number but no value: they are read as
`Toml.unreadable`.
-/

namespace HumidifierBridge.Toml

/-- Does every underscore stand between two digits? The flag says whether a digit comes before the
text. -/
def isGrouped (isDigit : Char → Bool) (afterDigit : Bool) : List Char → Bool
  | [] => true
  | '_' :: rest => afterDigit && rest.head?.any isDigit && isGrouped isDigit false rest
  | c :: rest => isGrouped isDigit (isDigit c) rest

/-- A text without its underscores. -/
def ungrouped (text : List Char) : List Char := text.filter (· ≠ '_')

/-- Is the text zero alone, or without a zero in front? -/
def hasNoLeadingZero (text : List Char) : Bool := text = ['0'] || text.head? ≠ some '0'

/-- A sign, true for a minus, and the text after it. -/
def takeSign : List Char → Bool × List Char
  | '-' :: rest => (true, rest)
  | '+' :: rest => (false, rest)
  | rest => (false, rest)

/-- The integers that have a value: signed and unsigned ones of 128 bits. -/
def integerFits (n : Int) : Bool :=
  -170141183460469231731687303715884105728 ≤ n && n < 340282366920938463463374607431768211456

/-- The value of an integer. -/
def ofInteger (n : Int) : Toml := if integerFits n then .integer n else .unreadable

/-- Is the character a digit of some base? -/
def isAnyDigit (c : Char) : Bool := (Ascii.hexValue? c).isSome

/-- The value of a digit in a base up to sixteen. -/
def digitBelow? (base : Nat) (c : Char) : Option Nat :=
  (Ascii.hexValue? c).bind fun d => if d.val < base then some d.val else none

/-- An integer in a base, given by what follows the mark of the base. -/
def based? (base : Nat) (text : List Char) : Option Toml := do
  let digits ← (ungrouped text).mapM (digitBelow? base)
  if isGrouped isAnyDigit false text then
    return if digits.isEmpty then .unreadable else ofInteger (Decimal.ofDigits base digits)
  else none

/-- Characters that only floats have. -/
def isFloatMark (c : Char) : Bool := c = '.' || c = 'e' || c = 'E'

/-- A decimal integer with a sign or without. Behind its first underscore only the characters beside
underscores have to be digits, of any base; with others than decimal digits it has no value. -/
def decimal? (text : List Char) : Option Toml :=
  let (minus, body) := takeSign text
  let groups := body.dropWhile Decimal.isDigit
  if body ≠ [] ∧ hasNoLeadingZero body ∧ (groups = [] ∨ groups.head? = some '_') ∧
      !groups.any isFloatMark ∧ isGrouped isAnyDigit false body then
    match Decimal.natural? (ungrouped body) with
    | some n => some (ofInteger (if minus then -(n : Int) else n))
    | none => some .unreadable
  else none

/-- A text before and after the first character that satisfies a test; the second part is none
where there is no such character. -/
def splitAtFirst (test : Char → Bool) : List Char → List Char × Option (List Char)
  | [] => ([], none)
  | c :: rest =>
    if test c then ([], some rest)
    else ((c :: (splitAtFirst test rest).1), (splitAtFirst test rest).2)

/-- The decimal digits of a part of a float, which has at least one, without its underscores. -/
def digits? (text : List Char) : Option (List Char) :=
  let digits := ungrouped text
  if digits ≠ [] ∧ digits.all Decimal.isDigit then some digits else none

/-- A float: a whole part with a fraction, an exponent or both, or one of the special values. -/
def float? (text : List Char) : Option Toml :=
  let (minus, body) := takeSign text
  if body = ['i', 'n', 'f'] then some (.float (.ofMagnitude minus Binary64.infinityPattern))
  else if body = ['n', 'a', 'n'] then some (.float (.ofMagnitude minus Binary64.quietPattern))
  else do
    let (mantissa, exponent) := splitAtFirst (fun c => c = 'e' || c = 'E') body
    let (whole, fraction) := splitAtFirst (· = '.') mantissa
    if exponent.isNone && fraction.isNone then none
    if !hasNoLeadingZero whole || !isGrouped Decimal.isDigit false body then none
    let wholeDigits ← digits? whole
    let fractionDigits ← match fraction with
      | some fraction => digits? fraction
      | none => some []
    let (minusExponent, exponentText) := takeSign (exponent.getD ['0'])
    let exponentDigits ← digits? exponentText
    let digits ← Decimal.natural? (wholeDigits ++ fractionDigits)
    let power ← Decimal.natural? exponentDigits
    let x := Binary64.ofDecimal minus digits
      ((if minusExponent then -(power : Int) else power) - fractionDigits.length)
    return if x.isInfinite then .unreadable else .float x

/-- Two decimal digits and the text after them. -/
def twoDigits? : List Char → Option (Nat × List Char)
  | a :: b :: rest => do
    let a ← Decimal.digit? a
    let b ← Decimal.digit? b
    return (a * 10 + b, rest)
  | _ => none

/-- The number of days of a month. -/
def daysInMonth (year month : Nat) : Nat :=
  if month = 2 then
    if year % 4 = 0 ∧ (year % 100 ≠ 0 ∨ year % 400 = 0) then 29 else 28
  else if month = 4 ∨ month = 6 ∨ month = 9 ∨ month = 11 then 30
  else 31

/-- A date, and the text after it. -/
def takeDate? (text : List Char) : Option (List Char) := do
  let (century, rest) ← twoDigits? text
  let (year, rest) ← twoDigits? rest
  let year := century * 100 + year
  match rest with
  | '-' :: rest =>
    let (month, rest) ← twoDigits? rest
    match rest with
    | '-' :: rest =>
      let (day, rest) ← twoDigits? rest
      if 1 ≤ month ∧ month ≤ 12 ∧ 1 ≤ day ∧ day ≤ daysInMonth year month then some rest
      else none
    | _ => none
  | _ => none

/-- The fraction of a second, if there is one, and the text after it. -/
def takeSecondFraction? : List Char → Option (List Char)
  | '.' :: rest =>
    if (rest.takeWhile Decimal.isDigit).isEmpty then none
    else some (rest.dropWhile Decimal.isDigit)
  | rest => some rest

/-- A time of day, its seconds optional, and the text after it. -/
def takeTime? (text : List Char) : Option (List Char) := do
  let (hour, rest) ← twoDigits? text
  if hour > 23 then none
  match rest with
  | ':' :: rest =>
    let (minute, rest) ← twoDigits? rest
    if minute > 59 then none
    match rest with
    | ':' :: rest =>
      let (second, rest) ← twoDigits? rest
      if second > 60 then none
      takeSecondFraction? rest
    | _ => some rest
  | _ => none

/-- Is the text empty or the offset of a time zone? -/
def isOffset : List Char → Bool
  | [] => true
  | c :: rest =>
    if c = 'Z' ∨ c = 'z' then rest.isEmpty
    else if c = '+' ∨ c = '-' then
      match twoDigits? rest with
      | some (hours, ':' :: rest) =>
        match twoDigits? rest with
        | some (minutes, rest) => hours ≤ 23 && minutes ≤ 59 && rest.isEmpty
        | none => false
      | _ => false
    else false

/-- Is the text a date, a time, or a date with a time and perhaps an offset? -/
def isDateTime (text : List Char) : Bool :=
  match takeDate? text with
  | some [] => true
  | some (c :: rest) =>
    if c = 'T' ∨ c = 't' ∨ c = ' ' then (takeTime? rest).any isOffset else false
  | none => takeTime? text = some []

/-- The value that a text without quotes stands for. -/
def ofUnquoted? (text : List Char) : Option Toml :=
  if text = ['t', 'r', 'u', 'e'] then some (.boolean true)
  else if text = ['f', 'a', 'l', 's', 'e'] then some (.boolean false)
  else if isDateTime text then some (.dateTime (String.ofList text))
  else match text with
    | '0' :: 'x' :: rest => based? 16 rest
    | '0' :: 'o' :: rest => based? 8 rest
    | '0' :: 'b' :: rest => based? 2 rest
    | _ => decimal? text <|> float? text

end HumidifierBridge.Toml
