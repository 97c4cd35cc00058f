import HumidifierBridge.Proofs.Push
import HumidifierBridge.Proofs.Reads

/-!
# Fields of the operating state

The operating state has six fields, which reports fill one by one: a report may carry any of them
and leave out others. `Answer.carried?` says what an answer carries for a field, without a word of
the other fields, and `Course.appliance_run` that a field is what was carried for it last.

That no turn without a read changes a field is `Course.known_act`; the rest is about single fields:
`OperatingState.get_merge` for a report that is merged, and `Answer.get_report` for one that is
decoded.
-/

namespace HumidifierBridge

/-- The members of an object. -/
def Json.object? : Json → Option (List (String × Json))
  | .object members => some members
  | _ => none

namespace OperatingState

/-- A field of the operating state. -/
inductive Field where
  | humidity
  | temperature
  | targetHumidity
  | fan
  | sleep
  | auto
  deriving DecidableEq

namespace Field

/-- The two modes are on or off, the other fields are numbers. -/
abbrev Value : Field → Type
  | sleep => Bool
  | auto => Bool
  | _ => Int

/-- The name of the member of `device` that carries the field. -/
def name : Field → String
  | humidity => "hum"
  | temperature => "temp"
  | targetHumidity => "humt"
  | fan => "fan"
  | sleep => "sleep"
  | auto => "auto"

/-- The value of a member for the field; none if the member is neither a number nor a boolean. -/
def value? (json : Json) : (f : Field) → Option f.Value
  | humidity | temperature | targetHumidity | fan => DataReport.integer? json
  | sleep | auto => (DataReport.integer? json).map (0 < ·)

end Field

/-- The value of a field. -/
def get (s : OperatingState) : (f : Field) → Option f.Value
  | .humidity => s.humidity
  | .temperature => s.temperature
  | .targetHumidity => s.targetHumidity
  | .fan => s.fan
  | .sleep => s.sleep
  | .auto => s.auto

variable {s t : OperatingState}

@[simp] theorem get_empty (f : Field) : empty.get f = none := by
  cases f <;> rfl

/-- The fields are all there is to a state. -/
theorem ext_get (h : ∀ f, s.get f = t.get f) : s = t := by
  cases s
  cases t
  simp only [mk.injEq]
  exact ⟨h .humidity, h .temperature, h .targetHumidity, h .fan, h .sleep, h .auto⟩

/-- A report replaces the fields that it carries and no others. -/
theorem get_merge (known report : OperatingState) (f : Field) :
    (known.merge report).get f = (report.get f).or (known.get f) := by
  cases f <;> exact Option.orElse_eq_or ..

/-- A merge counts as a change if it changes a field. -/
theorem changedBy_iff (known report : OperatingState) :
    known.changedBy report = true ↔ ∃ f, (known.merge report).get f ≠ known.get f := by
  rw [changedBy, decide_eq_true_iff]
  constructor
  · intro hchanged
    by_contra hsame
    push Not at hsame
    exact hchanged (ext_get hsame)
  · rintro ⟨f, hf⟩ hsame
    exact hf (by rw [hsame])

end OperatingState

open OperatingState (Field)

/-! ### What an answer carries -/

namespace Answer

/-- The `device` object of the document in an answer. -/
def device? (a : Answer) : Option (List (String × Json)) := do
  let body ← a.result.toOption
  let document ← Json.parse? body
  let members ← document.object?
  let device ← KeyMap.lookup? members DataReport.deviceName
  device.object?

/-- The value that the `device` object in an answer has for a field, if it has a usable one. -/
def carried? (a : Answer) (f : Field) : Option f.Value := do
  let device ← a.device?
  let member ← KeyMap.lookup? device f.name
  f.value? member

end Answer

/-- Each field is taken from the member of its name. -/
theorem DataReport.get_operatingState (members : List (String × Json)) (f : Field) :
    (operatingState members).get f = (KeyMap.lookup? members f.name).bind (Field.value? · f) := by
  cases f with
  | sleep => exact Option.map_bind
  | auto => exact Option.map_bind
  | _ => rfl

/-- The report in an answer has the fields that the answer carries. -/
theorem Answer.get_report (a : Answer) (f : Field) :
    (a.report.toOption.bind fun report => report.device.get f) = a.carried? f := by
  rw [carried?, device?, report]
  cases a.result with
  | error e => rfl
  | ok body =>
    cases hdocument : Json.parse? body with
    | none => simp [DataReport.parse, hdocument, Except.toOption]
    | some document =>
      cases document with
      | object members =>
        cases hdevice : KeyMap.lookup? members DataReport.deviceName with
        | none =>
          simp [DataReport.parse, hdocument, Except.toOption, Json.object?, DataReport.ofMembers,
            hdevice]
        | some device =>
          cases device <;>
            simp [DataReport.parse, hdocument, Except.toOption, Json.object?, DataReport.ofMembers,
              hdevice, DataReport.get_operatingState]
      | _ => simp [DataReport.parse, hdocument, Except.toOption, Json.object?]

/-- What a read carries replaces what was known, field by field. -/
theorem Read.get_after (r : Read) (f : Field) :
    r.after.appliance.get f = (r.answer.carried? f).or (r.before.appliance.get f) := by
  rw [after, ← Answer.get_report]
  cases r.answer.report with
  | error e => rfl
  | ok report => exact r.before.appliance.get_merge report.device f

/-- The value that was carried last for a field. -/
def lastCarried? (reads : List Read) (f : Field) : Option f.Value :=
  (reads.filterMap (·.answer.carried? f)).getLast?

theorem lastCarried?_concat (reads : List Read) (r : Read) (f : Field) :
    lastCarried? (reads ++ [r]) f = (r.answer.carried? f).or (lastCarried? reads f) := by
  cases h : r.answer.carried? f <;> simp [lastCarried?, h]

namespace Course

variable {σ : Type} (b : Bridge) (line : Line σ)

/-- A turn sets the fields that its read carries, if there is one, and no others. -/
theorem get_act (c : Course σ) (a : Action) (f : Field) :
    (c.act b line a).1.state.appliance.get f =
      ((c.read? b line a).bind (·.answer.carried? f)).or (c.state.appliance.get f) := by
  have happliance : (c.act b line a).1.state.appliance =
      (((c.read? b line a).map Read.after).getD c.state).appliance :=
    congrArg Prod.snd (c.known_act b line a)
  rw [happliance]
  cases hr : c.read? b line a with
  | none => rfl
  | some r =>
    rw [← before_of_read? hr]
    exact r.get_after f

theorem get_run (c : Course σ) (actions : List Action) (f : Field) :
    (c.run b line actions).state.appliance.get f =
      (lastCarried? (c.reads b line actions) f).or (c.state.appliance.get f) := by
  apply run_reads b line (P := fun reads state =>
    state.appliance.get f = (lastCarried? reads f).or (c.state.appliance.get f))
  · rfl
  · intro reads r h
    rw [r.get_after, h, lastCarried?_concat, Option.or_assoc]
  · intro reads before after hknown h
    have happliance : after.appliance = before.appliance := congrArg Prod.snd hknown
    rw [happliance, h]

/-- **The operating state is what was reported last, field by field.** Whatever turns are taken from
the start of a bridge, each field has the value that an answer carried for it last, and none if no
answer did; the next turn changes a field only if it reads an answer that carries it; and a merge is
a change if and only if a field changes. -/
theorem appliance_run (profile : Profile) (settings : Settings) (files : FileTree) (appliance : σ)
    (actions : List Action) :
    let begin : Course σ := start profile settings files appliance
    let reached := begin.run b line actions
    (∀ f, reached.state.appliance.get f = lastCarried? (begin.reads b line actions) f) ∧
      (∀ a f, (reached.step b line a).state.appliance.get f =
        ((reached.read? b line a).bind (·.answer.carried? f)).or
          (reached.state.appliance.get f)) ∧
      ∀ known report : OperatingState,
        known.changedBy report = true ↔ ∃ f, (known.merge report).get f ≠ known.get f := by
  intro begin reached
  refine ⟨?_, reached.get_act b line, OperatingState.changedBy_iff⟩
  intro f
  have hbegin : begin.state.appliance.get f = none := OperatingState.get_empty f
  rw [begin.get_run, hbegin, Option.or_none]

/-- The second document has no usable fan level, and no answer between the two is of any use. -/
example :
    let report (device : String) : Answer :=
      .response 200 ("\x7b\"device\":\x7b" ++ device ++ "\x7d\x7d").toUTF8.toList true
    let answers := [report "\"hum\":40,\"fan\":2", .none, report "\"fan\":\"off\",\"sleep\":1"]
    let polls := List.replicate 3 (Action.poll (.loopback true) 0 0)
    ((start .sample {} .empty answers).run .sample recital polls).state.appliance =
      { humidity := some 40, fan := some 2, sleep := some true } := by
  decide +kernel

end Course

end HumidifierBridge
