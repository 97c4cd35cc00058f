import HumidifierBridge.Bridge.Plan
import HumidifierBridge.Proofs.Transcript

/-!
# A device behind the line

`Device` is what a scene can change of an appliance: the fan, which steps up and down and stops at
either end, and two modes, which a press flips. The presses of `SceneSpec.plan` lead a device whose
state is known to the settings of the scene (`Device.pressAll_plan`), and a mode is toggled at most
once, namely where it is not as wanted.

`Line.LeadsTo` relates a line to a device: `view` is the device behind an appliance in any state.
-/

namespace HumidifierBridge

namespace FanSpeed

/-- One step up, stopping at the highest. -/
def up : FanSpeed → FanSpeed
  | .low => .medium
  | .medium => .high
  | .high => .high

/-- One step down, stopping at the lowest. -/
def down : FanSpeed → FanSpeed
  | .low => .low
  | .medium => .low
  | .high => .medium

end FanSpeed

/-- The part of an appliance that scenes set. -/
structure Device where
  fan : FanSpeed
  sleep : Bool
  auto : Bool
  deriving DecidableEq

namespace Device

/-- What a button does. -/
def press (d : Device) : Button → Device
  | .fanUp => { d with fan := d.fan.up }
  | .fanDown => { d with fan := d.fan.down }
  | .toggleSleep => { d with sleep := !d.sleep }
  | .toggleAuto => { d with auto := !d.auto }

/-- What several presses do, one after the other. -/
def pressAll (d : Device) (presses : List Button) : Device := presses.foldl press d

@[simp] theorem pressAll_append (d : Device) (as bs : List Button) :
    d.pressAll (as ++ bs) = (d.pressAll as).pressAll bs := List.foldl_append ..

/-- The device with the settings of a scene; one that the scene leaves unset stays. -/
def withScene (d : Device) (spec : SceneSpec) : Device where
  fan := spec.fan.getD d.fan
  sleep := spec.sleep.getD d.sleep
  auto := spec.auto.getD d.auto

@[simp] theorem withScene_withScene (d : Device) (spec : SceneSpec) :
    (d.withScene spec).withScene spec = d.withScene spec := by
  rcases spec with ⟨_ | _, _ | _, _ | _⟩ <;> rfl

/-- Fan, sleep and automatic mode are known as they are. -/
structure KnownAs (known : OperatingState) (d : Device) : Prop where
  fan : known.fan = some (d.fan.level : Int)
  sleep : known.sleep = some d.sleep
  auto : known.auto = some d.auto

/-- A report that shows the device makes it known, whatever was known before. -/
theorem KnownAs.merge {report : OperatingState} {d : Device} (h : KnownAs report d)
    (known : OperatingState) : KnownAs (known.merge report) d := by
  constructor <;> simp [OperatingState.merge, h.fan, h.sleep, h.auto]

theorem pressAll_toggleSleep (d : Device) (wanted : Option Bool) :
    d.pressAll (toggle .toggleSleep wanted (some d.sleep)) =
      { d with sleep := wanted.getD d.sleep } := by
  rcases d with ⟨fan, sleep, auto⟩
  rcases wanted with _ | _ | _ <;> cases sleep <;> rfl

theorem pressAll_toggleAuto (d : Device) (wanted : Option Bool) :
    d.pressAll (toggle .toggleAuto wanted (some d.auto)) =
      { d with auto := wanted.getD d.auto } := by
  rcases d with ⟨fan, sleep, auto⟩
  rcases wanted with _ | _ | _ <;> cases auto <;> rfl

/-- Two presses reach either end from anywhere, and one or none the middle. -/
theorem pressAll_fanPresses (d : Device) (wanted : Option FanSpeed) :
    d.pressAll (fanPresses wanted (some d.fan.level)) = { d with fan := wanted.getD d.fan } := by
  rcases d with ⟨fan, sleep, auto⟩
  rcases wanted with _ | _ | _ | _ <;> cases fan <;> rfl

/-- **A plan reaches its scene**, and leaves what the scene leaves unset. -/
theorem pressAll_plan {d : Device} {known : OperatingState} (h : KnownAs known d)
    (spec : SceneSpec) : d.pressAll (spec.plan known) = d.withScene spec := by
  rw [SceneSpec.plan, h.fan, h.sleep, h.auto, pressAll_append, pressAll_append,
    pressAll_toggleSleep]
  rw [show d.auto = { d with sleep := spec.sleep.getD d.sleep }.auto from rfl, pressAll_toggleAuto]
  exact pressAll_fanPresses _ spec.fan

theorem mem_fanPresses {b : Button} {wanted : Option FanSpeed} {level : Option Int}
    (h : b ∈ fanPresses wanted level) : b = .fanUp ∨ b = .fanDown := by
  simp only [fanPresses] at h
  repeat' split at h
  all_goals simp_all

theorem count_toggle (b button : Button) (wanted : Option Bool) (known : Bool) :
    (toggle button wanted (some known)).count b =
      if button = b ∧ wanted = some !known then 1 else 0 := by
  rcases wanted with _ | _ | _ <;> cases known <;>
    simp [toggle, List.count_singleton]

/-- A button that is no fan button is pressed by the toggles of a plan only. -/
theorem count_plan {d : Device} {known : OperatingState} (h : KnownAs known d) (spec : SceneSpec)
    {b : Button} (hup : b ≠ .fanUp) (hdown : b ≠ .fanDown) :
    (spec.plan known).count b =
      (if .toggleSleep = b ∧ spec.sleep = some !d.sleep then 1 else 0) +
        if .toggleAuto = b ∧ spec.auto = some !d.auto then 1 else 0 := by
  have hfan : (fanPresses spec.fan known.fan).count b = 0 :=
    List.count_eq_zero.2 fun hb => (mem_fanPresses hb).elim hup hdown
  rw [SceneSpec.plan, h.sleep, h.auto, List.count_append, List.count_append, count_toggle,
    count_toggle, hfan, Nat.add_zero]

end Device

namespace Line

variable {σ : Type}

/-- The line leads to a device: presses are delivered and do what the buttons do, and reading
changes nothing. -/
structure LeadsTo (line : Line σ) (view : σ → Device) : Prop where
  press_ok : ∀ b a, (line.press b a).1 = .ok ()
  view_press : ∀ b a, view (line.press b a).2 = (view a).press b
  view_fetchReport : ∀ a, view (line.fetchReport a).2 = view a

/-- Reading the appliance succeeds, and shows the device as it is. -/
def IsTruthful (line : Line σ) (view : σ → Device) : Prop :=
  ∀ a, ∃ report, (line.fetchReport a).1 = .ok report ∧ Device.KnownAs report.device (view a)

/-- The presses that reach the device move it as its buttons do. -/
theorem LeadsTo.view_foldl {line : Line σ} {view : σ → Device} (h : line.LeadsTo view)
    (presses : List Button) (a : σ) :
    view (presses.foldl (fun a b => (line.press b a).2) a) = (view a).pressAll presses := by
  induction presses generalizing a with
  | nil => rfl
  | cons b rest ih => exact (ih _).trans (congrArg (Device.pressAll · rest) (h.view_press b a))

end Line

end HumidifierBridge
