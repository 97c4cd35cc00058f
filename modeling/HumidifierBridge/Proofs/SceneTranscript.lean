import HumidifierBridge.Appliance.Script
import HumidifierBridge.Proofs.Answers
import HumidifierBridge.Proofs.Reads

/-!
# The requests of a scene call

A call of a scene asks the appliance for its data and then presses the planned buttons, one request
each, up to the first press that is not delivered. `Line.Pressed` says which presses are made and
what that comes to, and goes by the answers of the appliance alone: these may be any, and may depend
on all requests before.

`Line.called_invoke` says all that becomes of a call. The plan is made from what is known once the
answer to the request for data was taken in, which is what was known before if that is no report.
The answers to the presses decide about the requests and the result, and not about the state.
-/

namespace HumidifierBridge

namespace Line

variable {σ : Type} (line : Line σ)

/-- The appliance after presses, whatever it answered to them. -/
def afterPresses (presses : List Button) (a : σ) : σ :=
  presses.foldl (fun a b => (line.press b a).2) a

/-- What the appliance answers to a press after others. -/
def pressAnswer (done : List Button) (b : Button) (a : σ) : Answer :=
  (line.answer (line.pressRequest b) (line.afterPresses done a)).1

/-- A press after others is not delivered. -/
def PressFails (done : List Button) (b : Button) (a : σ) : Prop :=
  (line.pressAnswer done b a).Broken ∨ (line.pressAnswer done b a).Ignored

/-- The presses of a plan are delivered. -/
def AllDelivered (plan : List Button) (a : σ) : Prop :=
  ∀ done b rest, plan = done ++ b :: rest → ¬ line.PressFails done b a

/-- Presses were made according to a plan. -/
inductive Pressed (plan : List Button) (a : σ) : List Button → Except BridgeError Unit → Prop where
  | all (h : line.AllDelivered plan a) : Pressed plan a plan (.ok ())
  /-- The last press is the first that is not delivered. -/
  | upTo {done : List Button} {b : Button} {rest : List Button} {e : ProtocolError}
      (hplan : plan = done ++ b :: rest) (hdone : line.AllDelivered done a)
      (hfails : line.PressFails done b a) (he : (line.pressAnswer done b a).result = .error e) :
      Pressed plan a (done ++ [b]) (.error (.commandFailed b e))

variable {line} {plan made : List Button} {b : Button} {a : σ} {result : Except BridgeError Unit}

theorem press_fst (line : Line σ) (b : Button) (a : σ) :
    (line.press b a).1 = (line.pressAnswer [] b a).delivered b := rfl

theorem AllDelivered.cons (hb : ¬ line.PressFails [] b a)
    (h : line.AllDelivered plan (line.press b a).2) : line.AllDelivered (b :: plan) a := by
  intro done c rest hplan
  cases done with
  | nil =>
    obtain ⟨rfl, -⟩ := List.cons.inj hplan
    exact hb
  | cons d done =>
    obtain ⟨rfl, hrest⟩ := List.cons.inj hplan
    exact h done c rest hrest

theorem Pressed.cons (hb : ¬ line.PressFails [] b a)
    (h : line.Pressed plan (line.press b a).2 made result) :
    line.Pressed (b :: plan) a (b :: made) result := by
  cases h with
  | all h => exact .all (h.cons hb)
  | upTo hplan hdone hfails he =>
    exact .upTo (congrArg (b :: ·) hplan) (hdone.cons hb) hfails he

/-- The presses that are made are noted. -/
theorem pressed_pressAll (line : Line σ) (plan : List Button) (a : σ) (noted : List Request) :
    ∃ made result, line.Pressed plan a made result ∧
      line.noting.pressAll plan (a, noted) =
        (result, (line.afterPresses made a, noted ++ made.map line.pressRequest)) := by
  induction plan generalizing a noted with
  | nil =>
    exact ⟨[], .ok (), .all fun done b rest h => by simp at h, by simp [pressAll, afterPresses]⟩
  | cons b plan ih =>
    by_cases hfails : line.PressFails [] b a
    · obtain ⟨e, he, hdelivered⟩ := Answer.delivered_of_broken_or_ignored hfails b
      rw [← line.press_fst b a] at hdelivered
      have hpressed : line.Pressed (b :: plan) a ([] ++ [b]) (.error (.commandFailed b e)) :=
        .upTo rfl (fun done c rest h => by simp at h) hfails he
      refine ⟨[b], _, hpressed, ?_⟩
      simp [pressAll, hdelivered, afterPresses]
    · have hdelivered := (Answer.delivered_eq_ok_iff _ b).2 hfails
      rw [← line.press_fst b a] at hdelivered
      obtain ⟨made, result, hpressed, hrest⟩ :=
        ih (line.press b a).2 (noted ++ [line.pressRequest b])
      refine ⟨b :: made, result, hpressed.cons hfails, ?_⟩
      simp [pressAll, hdelivered, hrest, afterPresses]

end Line

/-- What is known after an answer to a request for data; without a report it is what was known. -/
def OperatingState.after (known : OperatingState) (answer : Answer) : OperatingState :=
  match answer.report with
  | .ok report => known.merge report.device
  | .error _ => known

namespace BridgeState

/-- The answer to a request for data holds a report that changes a sensor. -/
def changedBy (s : BridgeState) (answer : Answer) (now : Time) : Bool :=
  match answer.report with
  | .ok report => (s.applyReport report now).2
  | .error _ => false

theorem appliance_takeRefresh (s : BridgeState) (answer : Answer) (now : Time) :
    (s.takeRefresh answer.report now).appliance = s.appliance.after answer := by
  rw [OperatingState.after]
  cases answer.report <;> rfl

theorem dirty_takeRefresh (s : BridgeState) (answer : Answer) (now : Time) :
    (s.takeRefresh answer.report now).dirty = (s.dirty || s.changedBy answer now) := by
  rw [changedBy]
  cases answer.report with
  | ok report => rfl
  | error e => exact (Bool.or_false _).symm

/-- Reading the appliance changes the readings, the operating state and the flag. -/
theorem rest_takeRefresh (s : BridgeState) (result : Except BridgeError DataReport) (now : Time) :
    let after := s.takeRefresh result now
    after = s.withReadings after.profile.sensors after.appliance after.dirty := by
  cases result with
  | error e => rfl
  | ok report =>
    have hprofile := s.profile_applyReport report now
    simp only [takeRefresh, withReadings, ← hprofile]
    rfl

end BridgeState

namespace Line

variable {σ : Type}

/-- A scene was called; the result is that of `Line.invoke`, with the requests noted behind those
before. -/
structure Called (line : Line σ) (s : BridgeState) (scene : Int32) (now : Time) (a : σ)
    (noted : List Request)
    (r : Except BridgeError InvokeOutcome × BridgeState × (σ × List Request)) : Prop where
  /-- A number without a scene has no effect, and makes no request. -/
  of_none : s.profile.scenes.get? scene = none → r = (.ok .notConfigured, s, (a, noted))
  /-- For a scene the appliance is asked for its data, and then buttons are pressed according to
  the plan from what is known then. -/
  of_some : ∀ spec, s.profile.scenes.get? scene = some spec →
    let plan := spec.plan (s.appliance.after (line.dataAnswer a))
    ∃ made pressed, line.Pressed plan (line.fetchReport a).2 made pressed ∧
      r.1 = pressed.map (fun () => .applied plan) ∧
      r.2.2.2 = noted ++ line.dataRequest :: made.map line.pressRequest
  appliance : ∀ spec, s.profile.scenes.get? scene = some spec →
    r.2.1.appliance = s.appliance.after (line.dataAnswer a)
  dirty : ∀ spec, s.profile.scenes.get? scene = some spec →
    r.2.1.dirty = (s.dirty || s.changedBy (line.dataAnswer a) now)
  /-- Whatever is answered to the presses, the state comes out the same. -/
  state : ∀ (line' : Line σ) (a' : σ), line'.dataAnswer a' = line.dataAnswer a →
    (line'.invoke s scene now a').2.1 = r.2.1
  /-- Scenes, zones, settings, presence, and all else but the readings, are as before. -/
  rest : r.2.1 = s.withReadings r.2.1.profile.sensors r.2.1.appliance r.2.1.dirty

/-- The state after a call comes from the answer to the request for data. -/
theorem state_invoke (line : Line σ) (s : BridgeState) (scene : Int32) (now : Time) (a : σ) :
    (line.invoke s scene now a).2.1 =
      match s.profile.scenes.get? scene with
      | none => s
      | some _ => s.takeRefresh (line.dataAnswer a).report now := by
  cases hscene : s.profile.scenes.get? scene with
  | none => simp only [invoke, hscene]
  | some spec => simp only [invoke, hscene, fetchReport_fst]

/-- **What a scene call comes to**, for any answers of the appliance. -/
theorem called_invoke (line : Line σ) (s : BridgeState) (scene : Int32) (now : Time) (a : σ)
    (noted : List Request) :
    line.Called s scene now a noted (line.noting.invoke s scene now (a, noted)) where
  of_none hnone := by simp only [invoke, hnone]
  of_some spec hspec := by
    obtain ⟨made, pressed, hpressed, hpressAll⟩ := line.pressed_pressAll
      (spec.plan (s.appliance.after (line.dataAnswer a))) (line.fetchReport a).2
      (noted ++ [line.dataRequest])
    refine ⟨made, pressed, hpressed, ?_⟩
    simp only [invoke, hspec, fetchReport_noting, fetchReport_fst,
      BridgeState.appliance_takeRefresh, hpressAll]
    simp
  appliance spec hspec := by
    rw [state_invoke, hspec]
    exact s.appliance_takeRefresh (line.dataAnswer a) now
  dirty spec hspec := by
    rw [state_invoke, hspec]
    exact s.dirty_takeRefresh (line.dataAnswer a) now
  state line' a' h := by
    rw [state_invoke, state_invoke, h]
    rfl
  rest := by
    rw [state_invoke]
    split
    · rfl
    · exact s.rest_takeRefresh _ now

/-- An unexpected status of the first press, and one of which nothing is made of the second: the
third is not made. -/
example :
    let scenes : SceneTable := { slots := [⟨5, { fan := some .low, sleep := some true }⟩] }
    let s : BridgeState := .new { Profile.sample with scenes } {}
    let script : Script := {
      dataAnswers := [.response 200 "\x7b\"device\":\x7b\"sleep\":0\x7d\x7d".toUTF8.toList true]
      buttonAnswers := [.response 500 [] true, .response 404 [] true] }
    let r := (Script.line "http://v").invoke s 5 0 script
    r.1 = .error (.commandFailed .fanDown (.ignoredStatus 404)) ∧
      r.2.2.requests.map (·.body) =
        [none, some (Button.body .toggleSleep), some (Button.body .fanDown)] := by
  decide +kernel

end Line

end HumidifierBridge
