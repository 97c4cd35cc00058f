import HumidifierBridge.Proofs.Course
import HumidifierBridge.Proofs.Device
import Mathlib.Data.List.Count

/-!
# Scene calls on a device

Scenes are called on a device one after the other, and each call reads the device as it is.
`Line.calls_reach_scenes` is about any call of such a run: it sets what the scene specifies and
leaves the rest, toggles a mode only where it was not as wanted, and does nothing when it is
repeated. A call of a number without a scene makes no request.

Nothing here depends on what was known of the device before, so the run only matters for the table
of scenes, which the calls leave as it is.
-/

namespace HumidifierBridge

variable {σ : Type}

/-- A scene was applied to a device by way of some requests. -/
structure SceneSpec.Applied (line : Line σ) (spec : SceneSpec) (before after : Device)
    (requests : List Request) : Prop where
  after_eq : after = before.withScene spec
  /-- Sleep is toggled once where it is not as wanted, and else not at all. -/
  count_toggleSleep : requests.count (line.pressRequest .toggleSleep) =
    if spec.sleep = some !before.sleep then 1 else 0
  /-- So is automatic mode. -/
  count_toggleAuto : requests.count (line.pressRequest .toggleAuto) =
    if spec.auto = some !before.auto then 1 else 0

namespace SceneSpec

/-- Applied again, a scene changes nothing and toggles nothing. -/
theorem Applied.again {line : Line σ} {spec : SceneSpec} {d₀ d₁ d₂ : Device}
    {requests repeated : List Request} (h : spec.Applied line d₀ d₁ requests)
    (hagain : spec.Applied line d₁ d₂ repeated) :
    d₂ = d₁ ∧ line.pressRequest .toggleSleep ∉ repeated ∧
      line.pressRequest .toggleAuto ∉ repeated := by
  obtain rfl := h.after_eq
  refine ⟨by rw [hagain.after_eq, Device.withScene_withScene], ?_, ?_⟩
  · rw [← List.count_eq_zero, hagain.count_toggleSleep]
    cases hsleep : spec.sleep <;> simp [Device.withScene, hsleep]
  · rw [← List.count_eq_zero, hagain.count_toggleAuto]
    cases hauto : spec.auto <;> simp [Device.withScene, hauto]

end SceneSpec

namespace BridgeState

theorem scenes_takeRefresh (s : BridgeState) (result : Except BridgeError DataReport) (now : Time) :
    (s.takeRefresh result now).profile.scenes = s.profile.scenes := by
  cases result with
  | error e => rfl
  | ok report => exact s.scenes_applyReport report now

end BridgeState

namespace Line

/-- The effect of scene calls one after the other, each at its time. -/
def invokeAll (line : Line σ) (calls : List (Int32 × Time)) (s : BridgeState) (a : σ) :
    BridgeState × σ :=
  calls.foldl (fun sa call => (line.invoke sa.1 call.1 call.2 sa.2).2) (s, a)

theorem scenes_invoke (line : Line σ) (s : BridgeState) (scene : Int32) (now : Time) (a : σ) :
    (line.invoke s scene now a).2.1.profile.scenes = s.profile.scenes := by
  simp only [invoke]
  split
  · rfl
  · exact s.scenes_takeRefresh _ now

theorem scenes_invokeAll (line : Line σ) (calls : List (Int32 × Time)) (s : BridgeState) (a : σ) :
    (line.invokeAll calls s a).1.profile.scenes = s.profile.scenes := by
  induction calls generalizing s a with
  | nil => rfl
  | cons call rest ih => exact (ih _ _).trans (line.scenes_invoke s call.1 call.2 a)

/-- A call of a scene in the table applies it. -/
theorem invoke_applied {line : Line σ} {view : σ → Device} (hline : line.LeadsTo view)
    (htruthful : line.IsTruthful view) {s : BridgeState} {scene : Int32} {spec : SceneSpec}
    (hspec : s.profile.scenes.get? scene = some spec) (now : Time) (a : σ)
    (noted : List Request) :
    ∃ presses s' a' requests,
      line.noting.invoke s scene now (a, noted) =
        (.ok (.applied presses), s', (a', noted ++ requests)) ∧
      spec.Applied line (view a) (view a') requests := by
  obtain ⟨report, hreport, hknown⟩ := htruthful a
  have hplan := hknown.merge s.appliance
  set known := s.appliance.merge report.device
  set presses := spec.plan known
  have hcount : ∀ b, (line.dataRequest :: presses.map line.pressRequest).count
      (line.pressRequest b) = presses.count b := by
    intro b
    rw [List.count_cons_of_ne (line.dataRequest_ne_pressRequest b),
      List.count_map_of_injective _ _ line.pressRequest_injective]
  refine ⟨presses, s.takeRefresh (.ok report) now,
    presses.foldl (fun a b => (line.press b a).2) (line.fetchReport a).2,
    line.dataRequest :: presses.map line.pressRequest, ?_, ?_, ?_, ?_⟩
  · have happliance : (s.takeRefresh (.ok report) now).appliance = known := rfl
    simp only [invoke, hspec, fetchReport_noting, hreport, happliance]
    rw [line.pressAll_noting _ _ fun b _ a => hline.press_ok b a]
    simp [Except.map, presses]
  · rw [hline.view_foldl, hline.view_fetchReport]
    exact Device.pressAll_plan hplan spec
  · rw [hcount, Device.count_plan hplan spec (by simp) (by simp)]
    simp
  · rw [hcount, Device.count_plan hplan spec (by simp) (by simp)]
    simp

/-- What a call and its repetition have to do, from a state of the bridge, an appliance and the
requests noted so far: without a scene nothing at all, with a scene apply it and then change
nothing. -/
def CallWorks (line : Line σ) (view : σ → Device) (found : Option SceneSpec) (scene : Int32)
    (now later : Time) (s : BridgeState) (a : σ) (noted : List Request) : Prop :=
  match found with
  | none => line.noting.invoke s scene now (a, noted) = (.ok .notConfigured, s, (a, noted))
  | some spec =>
    ∃ presses s₁ a₁ requests presses' s₂ a₂ repeated,
      line.noting.invoke s scene now (a, noted) =
        (.ok (.applied presses), s₁, (a₁, noted ++ requests)) ∧
      spec.Applied line (view a) (view a₁) requests ∧
      line.noting.invoke s₁ scene later (a₁, noted ++ requests) =
        (.ok (.applied presses'), s₂, (a₂, noted ++ requests ++ repeated)) ∧
      view a₂ = view a₁ ∧
      line.pressRequest .toggleSleep ∉ repeated ∧ line.pressRequest .toggleAuto ∉ repeated

/-- **Scene calls reach their scene.** Whatever is in the table and known at the start, and whatever
calls came before. -/
theorem calls_reach_scenes {line : Line σ} {view : σ → Device} (hline : line.LeadsTo view)
    (htruthful : line.IsTruthful view) (s₀ : BridgeState) (a₀ : σ) (calls : List (Int32 × Time))
    (scene : Int32) (now later : Time) :
    let reached := line.noting.invokeAll calls s₀ (a₀, [])
    line.CallWorks view (s₀.profile.scenes.get? scene) scene now later reached.1 reached.2.1
      reached.2.2 := by
  rcases hreached : line.noting.invokeAll calls s₀ (a₀, []) with ⟨s, a, noted⟩
  have hscenes : s.profile.scenes = s₀.profile.scenes := by
    rw [← line.noting.scenes_invokeAll calls s₀ (a₀, []), hreached]
  simp only [CallWorks, ← hscenes]
  split
  · rename_i hnone
    simp only [invoke, hnone]
  · rename_i spec hspec
    obtain ⟨presses, s₁, a₁, requests, hcall, happlied⟩ :=
      invoke_applied hline htruthful hspec now a noted
    have hspec₁ : s₁.profile.scenes.get? scene = some spec := by
      have h := line.noting.scenes_invoke s scene now (a, noted)
      rw [hcall] at h
      rw [h, hspec]
    obtain ⟨presses', s₂, a₂, repeated, hagain, happlied'⟩ :=
      invoke_applied hline htruthful hspec₁ later a₁ (noted ++ requests)
    obtain ⟨hview, hsleep, hauto⟩ := happlied.again happlied'
    exact ⟨presses, s₁, a₁, requests, presses', s₂, a₂, repeated, hcall, happlied, hagain, hview,
      hsleep, hauto⟩

/-! ### A device that answers

The device reports its state as a document and obeys every press. -/

/-- The data document of a device. -/
def deviceDocument (d : Device) : String :=
  let flag (b : Bool) : String := if b then "1" else "0"
  "\x7b\"device\":\x7b\"hum\":44,\"fan\":" ++ toString d.fan.level ++ ",\"sleep\":" ++
    flag d.sleep ++ ",\"auto\":" ++ flag d.auto ++ "\x7d\x7d"

/-- The line to a device. -/
def deviceLine : Line Device where
  base := "http://v"
  answer r d :=
    let pressed := [Button.fanUp, .fanDown, .toggleSleep, .toggleAuto].find? fun b =>
      r.body = some b.body
    match pressed with
    | some b => (.response 200 [] true, d.press b)
    | none => (.response 200 (deviceDocument d).toUTF8.toList true, d)

theorem leadsTo_deviceLine : deviceLine.LeadsTo id where
  press_ok b d := by cases b <;> rfl
  view_press b d := by cases b <;> rfl
  view_fetchReport d := rfl

theorem isTruthful_deviceLine : deviceLine.IsTruthful id := by
  rintro ⟨fan, sleep, auto⟩
  have h : ((deviceLine.fetchReport ⟨fan, sleep, auto⟩).1.toOption.map fun report =>
      (report.device.fan, report.device.sleep, report.device.auto)) =
        some (some (fan.level : Int), some sleep, some auto) := by
    cases fan <;> cases sleep <;> cases auto <;> decide +kernel
  cases hreport : (deviceLine.fetchReport ⟨fan, sleep, auto⟩).1 with
  | error e => simp [hreport, Except.toOption] at h
  | ok report =>
    simp only [hreport, Except.toOption, Option.map_some, Option.some.injEq, Prod.mk.injEq] at h
    exact ⟨report, rfl, h.1, h.2.1, h.2.2⟩

/-- A table with two scenes. -/
def twoScenes : SceneTable :=
  { slots := [⟨17, { fan := some .high, auto := some true }⟩,
      ⟨5, { fan := some .medium, sleep := some false }⟩] }

/-- After calls of both scenes and of one that there is not, from a sleeping device. -/
theorem two_scenes_reached :
    deviceLine.LeadsTo id ∧ deviceLine.IsTruthful id ∧
      let reached := deviceLine.noting.invokeAll [(17, 0), (6, 1), (5, 2)]
        (.new { id := "V", name := "V", address := "v", scenes := twoScenes } {})
        (⟨.low, true, false⟩, [])
      deviceLine.CallWorks id (some { fan := some .medium, sleep := some false }) 5 3 4 reached.1
        reached.2.1 reached.2.2 :=
  ⟨leadsTo_deviceLine, isTruthful_deviceLine,
    calls_reach_scenes leadsTo_deviceLine isTruthful_deviceLine
      (.new { id := "V", name := "V", address := "v", scenes := twoScenes } {})
      ⟨.low, true, false⟩ [(17, 0), (6, 1), (5, 2)] 5 3 4⟩

end Line

end HumidifierBridge
