import HumidifierBridge.ValueError

/-!
# Fan speeds

The fan has three speeds, numbered one to three.
-/

namespace HumidifierBridge

/-- A speed of the fan. -/
inductive FanSpeed where
  | low
  | medium
  | high
  deriving DecidableEq, Repr

namespace FanSpeed

/-- The number of a speed. -/
def level : FanSpeed → Nat
  | .low => 1
  | .medium => 2
  | .high => 3

/-- The speed of a number. -/
def ofLevel? : Int → Option FanSpeed
  | 1 => some .low
  | 2 => some .medium
  | 3 => some .high
  | _ => none

/-- The speed of a number, or the complaint that there is none. -/
def ofLevel (n : Int) : Except ValueError FanSpeed :=
  match ofLevel? n with
  | some speed => .ok speed
  | none => .error (.outOfRange 1 3 n)

@[simp] theorem ofLevel?_level (s : FanSpeed) : ofLevel? s.level = some s := by
  cases s <;> rfl

@[simp] theorem ofLevel_level (s : FanSpeed) : ofLevel s.level = .ok s := by
  cases s <;> rfl

end FanSpeed

end HumidifierBridge
