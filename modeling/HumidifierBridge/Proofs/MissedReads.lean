import HumidifierBridge.Proofs.SceneCalls
import Mathlib.Algebra.Group.Nat.Even

/-!
# Scene calls that cannot read the appliance

A scene call that cannot read the appliance plans from what was last read. Presses are not taken
into that, so that what is known of a mode is the mode as it was at the last reading, and each press
of its button since then has flipped it.

`Line.recalling` is a line that remembers the presses since the last reading. Between what is known
of a mode and the mode as it is there are just these presses (`Line.Recalls`); readings, presses and
so any calls keep it so. `Line.mode_as_wanted_iff` says what follows for a call: the modes that the
scene sets are then as wanted if their buttons were pressed an even number of times since the last
reading, and the wrong way round if not.
-/

namespace HumidifierBridge

/-! ### Modes -/

/-- A setting that is switched by flipping it. -/
inductive Mode where
  | sleep
  | auto

namespace Mode

/-- The button that flips the mode. -/
def button : Mode → Button
  | .sleep => .toggleSleep
  | .auto => .toggleAuto

/-- What a scene sets the mode to. -/
def wanted (spec : SceneSpec) : Mode → Option Bool
  | .sleep => spec.sleep
  | .auto => spec.auto

/-- What is known of the mode. -/
def known (state : OperatingState) : Mode → Option Bool
  | .sleep => state.sleep
  | .auto => state.auto

/-- The mode of a device. -/
def shown (d : Device) : Mode → Bool
  | .sleep => d.sleep
  | .auto => d.auto

/-- Do these presses flip the mode? -/
def flippedBy (presses : List Button) (m : Mode) : Bool := decide (presses.count m.button % 2 = 1)

variable (m : Mode)

@[simp] theorem flippedBy_nil : m.flippedBy [] = false := by
  simp [flippedBy]

@[simp] theorem flippedBy_append (as bs : List Button) :
    m.flippedBy (as ++ bs) = (m.flippedBy as ^^ m.flippedBy bs) := by
  rw [flippedBy, List.count_append, Nat.add_mod, flippedBy, flippedBy]
  rcases Nat.mod_two_eq_zero_or_one (as.count m.button) with has | has
  · rcases Nat.mod_two_eq_zero_or_one (bs.count m.button) with hbs | hbs <;> rw [has, hbs] <;> rfl
  · rcases Nat.mod_two_eq_zero_or_one (bs.count m.button) with hbs | hbs <;> rw [has, hbs] <;> rfl

theorem flippedBy_singleton (b : Button) : m.flippedBy [b] = decide (b = m.button) := by
  by_cases hb : b = m.button <;> simp [flippedBy, hb]

theorem flippedBy_of_notMem {presses : List Button} (h : m.button ∉ presses) :
    m.flippedBy presses = false := by
  simp [flippedBy, List.count_eq_zero.2 h]

theorem flippedBy_eq_false_iff {presses : List Button} :
    m.flippedBy presses = false ↔ Even (presses.count m.button) := by
  rw [flippedBy, decide_eq_false_iff_not, Nat.even_iff]
  omega

/-- A press flips the mode whose button it is. -/
theorem shown_press (d : Device) (b : Button) :
    m.shown (d.press b) = (m.shown d ^^ m.flippedBy [b]) := by
  rw [flippedBy_singleton]
  cases m <;> cases b <;> simp [shown, Device.press, button]

theorem shown_pressAll (d : Device) (presses : List Button) :
    m.shown (d.pressAll presses) = (m.shown d ^^ m.flippedBy presses) := by
  induction presses generalizing d with
  | nil => simp [Device.pressAll]
  | cons b rest ih =>
    have hcons : m.flippedBy (b :: rest) = (m.flippedBy [b] ^^ m.flippedBy rest) :=
      m.flippedBy_append [b] rest
    rw [hcons, ← Bool.xor_assoc, ← m.shown_press]
    exact ih (d.press b)

/-- A plan flips a mode that is known if it is not as wanted. -/
theorem flippedBy_plan {spec : SceneSpec} {state : OperatingState} {w k : Bool}
    (hwanted : m.wanted spec = some w) (hknown : m.known state = some k) :
    m.flippedBy (spec.plan state) = (w ^^ k) := by
  have hfan : m.flippedBy (fanPresses spec.fan state.fan) = false := by
    apply flippedBy_of_notMem
    intro hmem
    cases m <;> cases Device.mem_fanPresses hmem <;> contradiction
  have hother : ∀ {b : Button} {wanted known : Option Bool}, b ≠ m.button →
      m.flippedBy (toggle b wanted known) = false := by
    intro b wanted known hb
    apply flippedBy_of_notMem
    simp only [toggle]
    split
    · split
      · simp
      · simpa using hb.symm
    · simp
  have hown : m.flippedBy (toggle m.button (some w) (some k)) = (w ^^ k) := by
    cases w <;> cases k <;> simp [toggle, flippedBy_singleton]
  rw [SceneSpec.plan, flippedBy_append, flippedBy_append, hfan, Bool.xor_false]
  cases m with
  | sleep =>
    simp only [wanted, known] at hwanted hknown
    rw [hwanted, hknown, hother (b := .toggleAuto) (by decide), Bool.xor_false]
    exact hown
  | auto =>
    simp only [wanted, known] at hwanted hknown
    rw [hwanted, hknown, hother (b := .toggleSleep) (by decide), Bool.false_xor]
    exact hown

end Mode

/-! ### What a line remembers -/

namespace Line

variable {σ : Type}

/-- The button that a request presses. -/
def pressedBy (r : Request) : List Button :=
  [Button.fanUp, .fanDown, .toggleSleep, .toggleAuto].filter fun b => r.body = some b.body

/-- The line that also remembers the presses made since the appliance was last read, none before it
was ever read. -/
def recalling (line : Line σ) : Line (σ × Option (List Button)) where
  base := line.base
  answer r s :=
    let (answer, appliance) := line.answer r s.1
    let since :=
      if r = line.dataRequest then if answer.report.isOk then some [] else s.2
      else s.2.map (· ++ pressedBy r)
    (answer, appliance, since)

variable {line : Line σ} {view : σ → Device}

@[simp] theorem fetchReport_recalling (line : Line σ) (a : σ) (since : Option (List Button)) :
    line.recalling.fetchReport (a, since) = ((line.fetchReport a).1, (line.fetchReport a).2,
      if (line.fetchReport a).1.isOk then some [] else since) := by
  have hdata : (⟨ApplianceAddress.url line.base dataPath, none⟩ : Request) = line.dataRequest := rfl
  simp only [fetchReport, recalling, hdata, if_true]

@[simp] theorem press_recalling (line : Line σ) (b : Button) (a : σ)
    (since : Option (List Button)) :
    line.recalling.press b (a, since) =
      ((line.press b a).1, (line.press b a).2, since.map (· ++ [b])) := by
  have hpress : pressedBy (line.pressRequest b) = [b] := by
    cases b <;> rfl
  have hbutton : (⟨ApplianceAddress.url line.base buttonPath, some b.body⟩ : Request) =
      line.pressRequest b := rfl
  have hother : line.pressRequest b ≠ line.dataRequest := (line.dataRequest_ne_pressRequest b).symm
  simp only [press, recalling, hbutton, if_neg hother, hpress]

theorem LeadsTo.recalling (h : line.LeadsTo view) : line.recalling.LeadsTo (view ·.1) where
  press_ok b a := by
    rw [press_recalling]
    exact h.press_ok b a.1
  view_press b a := by
    rw [press_recalling]
    exact h.view_press b a.1
  view_fetchReport a := by
    rw [fetchReport_recalling]
    exact h.view_fetchReport a.1

/-- Where all presses are delivered, all are made. -/
theorem LeadsTo.pressAll (h : line.LeadsTo view) (presses : List Button) (a : σ) :
    line.pressAll presses a = (.ok (), presses.foldl (fun a b => (line.press b a).2) a) := by
  induction presses generalizing a with
  | nil => rfl
  | cons b rest ih =>
    have hb : line.press b a = (.ok (), (line.press b a).2) := Prod.ext (h.press_ok b a) rfl
    rw [Line.pressAll, hb]
    exact ih (line.press b a).2

/-- A reading that succeeds shows the device as it is. -/
def IsHonest (line : Line σ) (view : σ → Device) : Prop :=
  ∀ a report, (line.fetchReport a).1 = .ok report → Device.KnownAs report.device (view a)

/-- A known mode is the mode as it is, but for the presses since the appliance was last read. -/
def Recalls (view : σ → Device) (s : BridgeState) (a : σ × Option (List Button)) : Prop :=
  ∀ since, a.2 = some since → ∀ m : Mode,
    m.known s.appliance = some (m.shown (view a.1) ^^ m.flippedBy since)

namespace Recalls

variable {s : BridgeState} {a : σ × Option (List Button)}

/-- A press flips the mode, and is remembered. -/
theorem press (h : Recalls view s a) (hline : line.LeadsTo view) (b : Button) :
    Recalls view s (line.recalling.press b a).2 := by
  obtain ⟨appliance, since⟩ := a
  rw [press_recalling]
  intro later hlater m
  obtain ⟨earlier, hearlier, rfl⟩ := Option.map_eq_some_iff.1 hlater
  have hknown := h earlier hearlier m
  have hview := hline.view_press b appliance
  simp only at hknown hview ⊢
  rw [hknown, hview, m.shown_press, m.flippedBy_append, Bool.xor_comm (m.flippedBy earlier),
    Bool.xor_assoc, ← Bool.xor_assoc (m.flippedBy [b]), Bool.xor_self, Bool.false_xor]

theorem pressAll (h : Recalls view s a) (hline : line.LeadsTo view) (presses : List Button) :
    Recalls view s (presses.foldl (fun a b => (line.recalling.press b a).2) a) := by
  induction presses generalizing a with
  | nil => exact h
  | cons b rest ih => exact ih (h.press hline b)

/-- A reading that succeeds makes the device known, and one that fails changes nothing. -/
theorem refresh (h : Recalls view s a) (hline : line.LeadsTo view) (hhonest : line.IsHonest view)
    (now : Time) : Recalls view (s.takeRefresh (line.recalling.fetchReport a).1 now)
      (line.recalling.fetchReport a).2 := by
  obtain ⟨appliance, since⟩ := a
  rw [fetchReport_recalling]
  have hview := hline.view_fetchReport appliance
  cases hreport : (line.fetchReport appliance).1 with
  | error e =>
    intro earlier hearlier m
    simp only [hview]
    exact h earlier hearlier m
  | ok report =>
    rintro _ ⟨⟩ m
    have hknown := (hhonest appliance report hreport).merge s.appliance
    simp only [hview, m.flippedBy_nil, Bool.xor_false]
    cases m with
    | sleep => exact hknown.sleep
    | auto => exact hknown.auto

end Recalls

/-- A call of a scene in the table reads the appliance, and makes the presses that are planned. -/
theorem LeadsTo.invoke_eq (hline : line.LeadsTo view) {s : BridgeState} {scene : Int32}
    {spec : SceneSpec} (hspec : s.profile.scenes.get? scene = some spec) (now : Time) (a : σ) :
    let read := s.takeRefresh (line.fetchReport a).1 now
    let presses := spec.plan read.appliance
    line.invoke s scene now a = (.ok (.applied presses), read,
      presses.foldl (fun a b => (line.press b a).2) (line.fetchReport a).2) := by
  intro read presses
  simp only [invoke, hspec, hline.pressAll]
  rfl

theorem Recalls.invoke {s : BridgeState} {a : σ × Option (List Button)} (h : Recalls view s a)
    (hline : line.LeadsTo view) (hhonest : line.IsHonest view) (scene : Int32) (now : Time) :
    let called := (line.recalling.invoke s scene now a).2
    Recalls view called.1 called.2 := by
  cases hspec : s.profile.scenes.get? scene with
  | none =>
    simp only [Line.invoke, hspec]
    exact h
  | some spec =>
    rw [hline.recalling.invoke_eq hspec now a]
    exact (h.refresh hline hhonest now).pressAll hline _

theorem Recalls.invokeAll {s : BridgeState} {a : σ × Option (List Button)} (h : Recalls view s a)
    (hline : line.LeadsTo view) (hhonest : line.IsHonest view) (calls : List (Int32 × Time)) :
    Recalls view (line.recalling.invokeAll calls s a).1 (line.recalling.invokeAll calls s a).2 := by
  induction calls generalizing s a with
  | nil => exact h
  | cons call rest ih => exact ih (h.invoke hline hhonest call.1 call.2)

/-- **A mode is as wanted after a call if its button was pressed an even number of times since the
appliance was last read.** Whatever was known at the start and whatever calls came before, and
whether the appliance could be read for any of them: a call of a scene in the table, made when the
appliance was read at least once, is applied, and leaves each mode that the scene sets as wanted if
and only if the presses of its button between the last reading and the call were even in number. -/
theorem mode_as_wanted_iff {line : Line σ} {view : σ → Device} (hline : line.LeadsTo view)
    (hhonest : line.IsHonest view) (s₀ : BridgeState) (a₀ : σ) (calls : List (Int32 × Time))
    (scene : Int32) (now : Time) {spec : SceneSpec}
    (hspec : s₀.profile.scenes.get? scene = some spec) {since : List Button} :
    let reached := line.recalling.invokeAll calls s₀ (a₀, none)
    let called := line.recalling.invoke reached.1 scene now reached.2
    (line.recalling.fetchReport reached.2).2.2 = some since →
      ∃ presses, called.1 = .ok (.applied presses) ∧
        ∀ (m : Mode) (wanted : Bool), m.wanted spec = some wanted →
          (m.shown (view called.2.2.1) = wanted ↔ Even (since.count m.button)) := by
  intro reached called hsince
  have hscenes : reached.1.profile.scenes.get? scene = some spec := by
    rw [← hspec]
    exact congrArg (·.get? scene) (line.recalling.scenes_invokeAll calls s₀ (a₀, none))
  have hstart : Recalls view s₀ (a₀, none) := by
    rintro _ ⟨⟩
  have hread := (hstart.invokeAll hline hhonest calls).refresh hline hhonest now
  set read := reached.1.takeRefresh (line.recalling.fetchReport reached.2).1 now
  have hcalled : called = _ := hline.recalling.invoke_eq hscenes now reached.2
  rw [hcalled]
  refine ⟨_, rfl, ?_⟩
  intro m wanted hwanted
  have hknown := hread since hsince m
  rw [hline.recalling.view_foldl, m.shown_pressAll, m.flippedBy_plan hwanted hknown,
    ← m.flippedBy_eq_false_iff]
  generalize m.shown (view (line.recalling.fetchReport reached.2).2.1) = shown
  cases shown <;> cases wanted <;> cases m.flippedBy since <;> decide

/-! ### A device that sometimes does not answer -/

/-- The line to a device that answers some readings, as the list says, and all after that. -/
def intermittentLine : Line (Device × List Bool) where
  base := deviceLine.base
  answer r s :=
    let (answer, d) := deviceLine.answer r s.1
    if r = deviceLine.dataRequest then
      (if s.2.headD true then answer else .none, d, s.2.tail)
    else (answer, d, s.2)

theorem leadsTo_intermittentLine : intermittentLine.LeadsTo Prod.fst where
  press_ok b s := by cases b <;> rfl
  view_press b s := by cases b <;> rfl
  view_fetchReport s := rfl

theorem isHonest_intermittentLine : intermittentLine.IsHonest Prod.fst := by
  rintro ⟨d, answered⟩ report hreport
  have hanswer : (intermittentLine.fetchReport (d, answered)).1 =
      if answered.headD true then (deviceLine.fetchReport d).1 else Answer.none.report := by
    rcases answered with _ | ⟨_ | _, rest⟩ <;> rfl
  rw [hanswer] at hreport
  split at hreport
  · obtain ⟨found, hfound, hknown⟩ := isTruthful_deviceLine d
    rw [hfound] at hreport
    cases hreport
    exact hknown
  · cases hreport

/-- A device is put to sleep by a scene, and woken up by the same scene when that is called again
and the device does not answer the reading. -/
theorem woken_by_repeated_call :
    let s₀ : BridgeState :=
      .new { Profile.sample with scenes := { slots := [⟨5, { sleep := some true }⟩] } } {}
    let reached := intermittentLine.recalling.invokeAll [(5, 0)] s₀
      ((⟨.low, false, false⟩, [true, false]), none)
    let called := intermittentLine.recalling.invoke reached.1 5 1 reached.2
    intermittentLine.LeadsTo Prod.fst ∧ intermittentLine.IsHonest Prod.fst ∧
      s₀.profile.scenes.get? 5 = some { sleep := some true } ∧
        (intermittentLine.recalling.fetchReport reached.2).2.2 = some [.toggleSleep] ∧
          reached.2.1.1.sleep = true ∧ called.2.2.1.1.sleep = false := by
  intro s₀ reached called
  have hspec : s₀.profile.scenes.get? 5 = some { sleep := some true } := by decide
  have hsince : (intermittentLine.recalling.fetchReport reached.2).2.2 = some [.toggleSleep] := by
    decide +kernel
  obtain ⟨presses, -, hmodes⟩ := mode_as_wanted_iff leadsTo_intermittentLine
    isHonest_intermittentLine s₀ (⟨.low, false, false⟩, [true, false]) [(5, 0)] 5 1 hspec hsince
  refine ⟨leadsTo_intermittentLine, isHonest_intermittentLine, hspec, hsince, by decide +kernel, ?_⟩
  have hnot : called.2.2.1.1.sleep ≠ true := by
    intro hasleep
    have heven := (hmodes .sleep true rfl).1 hasleep
    revert heven
    decide
  simpa using hnot

end Line

end HumidifierBridge
