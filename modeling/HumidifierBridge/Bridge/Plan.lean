import HumidifierBridge.Appliance.Button
import HumidifierBridge.Appliance.OperatingState
import HumidifierBridge.Profile.Scene

/-!
# Planning a scene

The appliance only has buttons, so a scene becomes the presses that lead from what is known of the
appliance to the settings of the scene: first sleep, then automatic mode, then the fan. Sleep and
automatic mode are toggled where they are known to differ. The lowest and the highest fan speed are
reached by two presses from anywhere; the middle one by one press from either end.
-/

namespace HumidifierBridge

/-- A press of a mode's button where the mode is known and not as wanted. -/
def toggle (button : Button) (wanted known : Option Bool) : List Button :=
  match wanted, known with
  | some w, some k => if w = k then [] else [button]
  | _, _ => []

/-- The presses for a fan speed, given the known fan level. -/
def fanPresses (wanted : Option FanSpeed) (level : Option Int) : List Button :=
  match wanted with
  | none => []
  | some .low => [.fanDown, .fanDown]
  | some .high => [.fanUp, .fanUp]
  | some .medium =>
    if level = some 1 then [.fanUp]
    else if level = some 3 then [.fanDown]
    else []

/-- The presses that lead from the known operating state to a scene. -/
def SceneSpec.plan (spec : SceneSpec) (known : OperatingState) : List Button :=
  toggle .toggleSleep spec.sleep known.sleep ++ toggle .toggleAuto spec.auto known.auto ++
    fanPresses spec.fan known.fan

end HumidifierBridge
