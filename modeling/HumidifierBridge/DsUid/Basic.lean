import HumidifierBridge.Text.Ascii
import HumidifierBridge.ValueError

/-!
# dSUIDs

A dSUID names a participant of the bus: seventeen octets, written as 34 hexadecimal digits. `DsUid`
holds the digits' values, so that two spellings of one identifier are one value, and `DsUid.text`
writes it in upper case. Texts from the bus are compared without regard to case.
-/

namespace HumidifierBridge

/-- The number of digits of a dSUID. -/
def dsUidDigits : Nat := 34

/-- A dSUID: the values of its 34 hexadecimal digits. -/
structure DsUid where
  digits : List (Fin 16)
  length_digits : digits.length = dsUidDigits
  deriving DecidableEq

namespace DsUid

/-- The written form, in upper case. -/
def text (d : DsUid) : String := String.ofList (d.digits.map Ascii.hexUpper)

/-- Reads 34 hexadecimal digits of either case, and nothing else. -/
def ofText? (s : String) : Option DsUid :=
  match s.toList.mapM Ascii.hexValue? with
  | none => none
  | some digits => if h : digits.length = dsUidDigits then some ⟨digits, h⟩ else none

/-- Reads a dSUID, or complains about the text. -/
def ofText (s : String) : Except ValueError DsUid :=
  match ofText? s with
  | some d => .ok d
  | none => .error (.invalidDsUid s)

/-- Does the text name this dSUID, whatever the case of its letters? -/
def matchesText (d : DsUid) (s : String) : Bool := Ascii.sameFold d.text s

/-- A dSUID of 34 equal digits. -/
def repeated (digit : Fin 16) : DsUid :=
  ⟨List.replicate dsUidDigits digit, List.length_replicate⟩

end DsUid

end HumidifierBridge
