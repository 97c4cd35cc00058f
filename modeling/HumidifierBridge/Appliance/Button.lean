import HumidifierBridge.ValueError

/-!
# Front panel buttons

The appliance has no absolute setters: every change is a press of one of four buttons, sent by its
code.
-/

namespace HumidifierBridge

/-- A button of the front panel. -/
inductive Button where
  | fanUp
  | fanDown
  | toggleSleep
  | toggleAuto
  deriving DecidableEq, Repr

namespace Button

/-- The code that the appliance expects. -/
def code : Button → Nat
  | .fanUp => 3
  | .fanDown => 4
  | .toggleSleep => 5
  | .toggleAuto => 6

/-- A short label for people. -/
def label : Button → String
  | .fanUp => "fan up"
  | .fanDown => "fan down"
  | .toggleSleep => "toggle sleep"
  | .toggleAuto => "toggle auto"

/-- The code and the label. -/
def describe (b : Button) : String := toString b.code ++ " (" ++ b.label ++ ")"

/-- The button of a code. -/
def ofCode? : Nat → Option Button
  | 3 => some .fanUp
  | 4 => some .fanDown
  | 5 => some .toggleSleep
  | 6 => some .toggleAuto
  | _ => none

/-- The button of a code, or the complaint that there is none. -/
def ofCode (n : Nat) : Except ValueError Button :=
  match ofCode? n with
  | some button => .ok button
  | none => .error (.outOfRange 3 6 n)

@[simp] theorem ofCode?_code (b : Button) : ofCode? b.code = some b := by
  cases b <;> rfl

end Button

end HumidifierBridge
