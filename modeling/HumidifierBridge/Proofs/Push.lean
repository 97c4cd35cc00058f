import HumidifierBridge.Proofs.Course
import HumidifierBridge.Proofs.Slots

/-!
# The bus learns of every change

A sensor that changed is pushed to the bus, unless a poll takes the wish for a push back. A poll
that is no news, or fails, does so: between two pushes such a poll can fall on readings that still
wait. `Course.pushed_of_clean` is about the states in which nothing waits and no poll has taken a
wish back since the last push; then the last push carried the value that each sensor has.

The invariant is `Course.Informed`. A turn keeps it if it is no news to the sensors and leaves alone
what waits; `Course.Informed.of_noNews` says so once, and the turns that are neither a push nor news
are instances of it.
-/

namespace HumidifierBridge

/-- The value that a push carries for a slot. -/
def pushedValue? (properties : Properties) (slot : Nat) : Option Binary64 := do
  let states ← (Property.get? properties "sensorStates").bind Property.object?
  let state ← (Property.get? states (toString slot)).bind Property.object?
  match Property.get? state "value" with
  | some (.double x) => some x
  | _ => none

/-- A push carries the value of every active sensor. -/
theorem pushedValue?_pushProperties {s : BridgeState} {now : Time} {slot : Nat} {sensor : Sensor}
    (h : (slot, sensor) ∈ s.profile.activeSensors) :
    pushedValue? (s.pushProperties now) slot = some sensor.reading.value := by
  have hstates : Property.get? (s.pushProperties now) "sensorStates" =
      some (.object (Handler.sensorStates s now none)) := rfl
  have hvalue : Property.get? (Handler.sensorState s now sensor) "value" =
      some (.double sensor.reading.value) := rfl
  simp [pushedValue?, hstates, Property.object?, Handler.get?_sensorStates h, hvalue]

namespace Sent

/-- The properties of a push that was taken. -/
def pushed? (s : Sent) : Option Properties :=
  match s.call with
  | .pushProperty _ properties => if s.taken then some properties else none
  | _ => none

end Sent

namespace Moment

/-- The properties of the push that was taken in a turn. -/
def pushed? (m : Moment) : Option Properties := m.sent.findSome? Sent.pushed?

/-- Did a poll take back the wish for a push, with no scene call about to renew it? -/
def withdraws (m : Moment) : Bool :=
  match m.action with
  | .poll .. => m.before.dirty && m.unflagged == 0 && !m.after.dirty
  | _ => false

end Moment

/-- The properties of the last push that was taken. -/
def lastPush? : List Moment → Option Properties
  | [] => none
  | m :: past => m.pushed? <|> lastPush? past

/-- Has a poll taken back the wish for a push since the last push was taken? -/
def withdrawn : List Moment → Bool
  | [] => false
  | m :: past => m.pushed?.isNone && (m.withdraws || withdrawn past)

namespace Profile

/-- The push carried, for every active sensor that has been read, the value that it has. -/
def Shown (p : Profile) (push : Option Properties) : Prop :=
  ∀ a ∈ p.activeSensors, a.2.reading.lastQueried.isSome →
    ∃ value ∈ push.bind (pushedValue? · a.1), value.Agrees a.2.reading.value

instance (p : Profile) (push : Option Properties) : Decidable (p.Shown push) :=
  inferInstanceAs (Decidable (∀ a ∈ _, _))

theorem IsUnread.shown {p : Profile} (h : p.IsUnread) : p.Shown none := by
  rintro ⟨slot, sensor⟩ hs hread
  have hmem := List.mem_of_getElem? (mem_activeSensors.1 hs).1
  simp [h sensor hmem] at hread

theorem Shown.of_noNews {p q : Profile} {push : Option Properties} (h : p.Shown push)
    (hnews : p.NoNews q) : q.Shown push := by
  rintro ⟨slot, t⟩ ht hread
  obtain ⟨hslot, hactive⟩ := mem_activeSensors.1 ht
  obtain ⟨s, hs, hst⟩ := hnews hslot
  obtain ⟨value, hvalue, hagrees⟩ :=
    h (slot, s) (mem_activeSensors.2 ⟨hs, hst.active ▸ hactive⟩) (hst.read hread)
  exact ⟨value, hvalue, hagrees.trans (hst.value hread)⟩

/-- A push shows the sensors as they are, also after they were noted as reported. -/
theorem shown_pushProperties (s : BridgeState) (now : Time) :
    (s.markReported now).profile.Shown (some (s.pushProperties now)) := by
  rintro ⟨slot, t⟩ ht -
  obtain ⟨hslot, hactive⟩ := mem_activeSensors.1 ht
  simp only [BridgeState.markReported, Profile.markReported, List.getElem?_map,
    Option.map_eq_some_iff] at hslot
  obtain ⟨sensor, hsensor, rfl⟩ := hslot
  have hactive : sensor.active = true := by
    by_cases h : sensor.active = true
    · exact h
    · simp [h] at hactive
  refine ⟨_, pushedValue?_pushProperties (mem_activeSensors.2 ⟨hsensor, hactive⟩), ?_⟩
  simp [hactive, Reading.markReported, Binary64.Agrees.refl]

end Profile

namespace Bridge

variable {σ : Type}

/-- Events make no pushes. -/
theorem pushed?_of_mem_handle {b : Bridge} {line : Line σ} {t : Transport} {event : BusEvent}
    {now : Time} {w : World σ} {s : Sent} (h : s ∈ (b.handle line t event now w).sent) :
    s.pushed? = none := by
  cases event <;> simp only [handle] at h
  case newSession => simp_all [Transport.send, Sent.pushed?]
  case ping =>
    split at h
    · simp_all [Transport.send, Sent.pushed?]
    · simp at h
  all_goals first | simp at h | (split at h <;> simp at h)

end Bridge

namespace BridgeState

/-- Where nothing waits to be pushed after a change of state, nothing waited before it and it was no
news to the sensors. -/
def Quiet (s s' : BridgeState) : Prop :=
  s'.dirty = false → s.dirty = false ∧ s.profile.NoNews s'.profile

theorem Quiet.of_eq {s s' : BridgeState} (hdirty : s'.dirty = s.dirty)
    (hprofile : s'.profile.sensors = s.profile.sensors) : s.Quiet s' :=
  fun h => ⟨hdirty ▸ h, fun _ t ht => ⟨t, hprofile ▸ ht, .refl t⟩⟩

theorem quiet_takeRefresh (s : BridgeState) (result : Except BridgeError DataReport) (now : Time) :
    s.Quiet (s.takeRefresh result now) := by
  cases result with
  | error e => exact .of_eq rfl rfl
  | ok report =>
    intro h
    simp only [takeRefresh, dirty_applyReport, Bool.or_eq_false_iff] at h
    exact ⟨h.1, noNews_applyReport h.2⟩

theorem Served.quiet {s s' : BridgeState} (h : s.Served s') : s.Quiet s' := by
  cases h with
  | unchanged => exact .of_eq rfl rfl
  | unannounced => exact .of_eq rfl rfl
  | zoned zone bridgeZone => exact .of_eq rfl rfl
  | saved scene => exact .of_eq rfl rfl
  | refreshed result now => exact quiet_takeRefresh s result now

end BridgeState

namespace Bridge

/-- A pass of work either pushes the sensors as they are, or makes no push and is quiet. -/
theorem work_cases (b : Bridge) (t : Transport) (s : BridgeState) (now : Time) :
    ((∀ x ∈ (b.work t s now).sent, x.pushed? = none) ∧ s.Quiet (b.work t s now).state) ∨
      b.work t s now = ⟨.pushed, { s.markReported now with dirty := false },
        [⟨.pushProperty b.identity.device (s.pushProperties now), true⟩]⟩ := by
  apply work_induction (P := fun worked =>
    ((∀ x ∈ worked.sent, x.pushed? = none) ∧ s.Quiet worked.state) ∨
      worked = ⟨.pushed, { s.markReported now with dirty := false },
        [⟨.pushProperty b.identity.device (s.pushProperties now), true⟩]⟩)
  · exact .inl ⟨by simp, .of_eq rfl rfl⟩
  · exact .inl ⟨by simp, .of_eq rfl rfl⟩
  · intro call hdue
    refine .inl ⟨?_, ?_⟩
    · intro x hx
      rw [List.mem_singleton.1 hx]
      cases call <;> rfl
    · cases call with
      | pushProperty device properties =>
        intro hclean
        exact absurd ((push_of_dueCall? hdue).1.symm.trans hclean) (by simp)
      | _ => exact .of_eq rfl rfl
  · intro call hdue
    cases call with
    | pushProperty device properties =>
      obtain ⟨-, rfl, rfl⟩ := push_of_dueCall? hdue
      exact .inr rfl
    | _ => exact .inl ⟨by simp [Sent.pushed?], .of_eq rfl rfl⟩

end Bridge

namespace Course

variable {σ : Type} {b : Bridge} {line : Line σ}

/-- Where nothing waits to be pushed and nothing was withdrawn, the bus knows every value. -/
def Informed (c : Course σ) : Prop :=
  c.state.dirty = false → c.unflagged = 0 → withdrawn c.past = false →
    c.state.profile.Shown (lastPush? c.past)

/-- A turn without a push keeps the bus informed if, where nothing waits after it, nothing waited
before it and it was no news. -/
theorem Informed.of_noNews {c : Course σ} {a : Action} (h : c.Informed)
    (hpush : ∀ s ∈ (c.act b line a).2, s.pushed? = none)
    (hquiet : (c.act b line a).1.unflagged = 0 → (c.moment b line a).withdraws = false →
      c.unflagged = 0 ∧ c.state.Quiet (c.act b line a).1.state) :
    (c.step b line a).Informed := by
  have hnone : (c.moment b line a).pushed? = none := List.findSome?_eq_none_iff.2 hpush
  intro hdirty hunflagged hwithdrawn
  simp only [past_step, withdrawn, hnone, Option.isNone_none, Bool.true_and,
    Bool.or_eq_false_iff] at hwithdrawn
  obtain ⟨hunflagged, hquiet⟩ := hquiet hunflagged hwithdrawn.1
  obtain ⟨hbefore, hnews⟩ := hquiet hdirty
  simpa [lastPush?, hnone] using (h hbefore hunflagged hwithdrawn.2).of_noNews hnews

theorem Informed.poll {c : Course σ} (h : c.Informed) (t : Transport) (now clock : Time) :
    (c.step b line (.poll t now clock)).Informed := by
  refine h.of_noNews ?_ fun hunflagged hwithdraws => ⟨hunflagged, fun hafter => ⟨?_, ?_⟩⟩
  · simp only [act, Bridge.poll, Bridge.takePoll]
    split <;> simp [Transport.send, Sent.pushed?]
  · -- A poll that leaves nothing waiting withdraws what waited, so nothing did.
    simpa [Moment.withdraws, moment, hafter, show c.unflagged = 0 from hunflagged]
      using hwithdraws
  · simp only [act, Bridge.poll, Bridge.takePoll] at hafter ⊢
    split at hafter
    · exact BridgeState.noNews_applyReport hafter
    · exact .refl _

theorem Informed.refresh {c : Course σ} (h : c.Informed) (now : Time) :
    (c.step b line (.refresh now)).Informed := by
  refine h.of_noNews (by simp [act]) fun hunflagged _ => ?_
  simp only [act, Line.fetchState, state] at hunflagged ⊢
  cases hreport : line.fetchReport c.world.appliance with
  | mk result appliance =>
    cases result with
    | error e => exact ⟨by simpa [hreport] using hunflagged, .of_eq rfl rfl⟩
    | ok report =>
      -- News would have left a scene call that is yet to ask for a push.
      cases hnews : (c.state.applyReport report now).2 with
      | true => simp [hreport, hnews] at hunflagged
      | false =>
        refine ⟨by simpa [hreport, hnews] using hunflagged, fun hafter => ?_⟩
        exact ⟨hafter, BridgeState.noNews_applyReport hnews⟩

theorem Informed.flag {c : Course σ} (h : c.Informed) : (c.step b line .flag).Informed := by
  cases hunflagged : c.unflagged with
  | zero =>
    exact h.of_noNews (by simp [act, hunflagged]) fun _ _ =>
      ⟨hunflagged, by simpa only [act, hunflagged] using .of_eq rfl rfl⟩
  | succ n =>
    intro hafter
    simp [act, hunflagged, withState] at hafter

theorem Informed.event {c : Course σ} (h : c.Informed) (t : Transport) (event : BusEvent)
    (now : Time) : (c.step b line (.event t event now)).Informed :=
  h.of_noNews (fun _ hs => Bridge.pushed?_of_mem_handle hs) fun hunflagged _ =>
    ⟨hunflagged, (b.served_handle line t event now c.world).quiet⟩

theorem Informed.work {c : Course σ} (h : c.Informed) (t : Transport) (now : Time)
    (inUse : Bool) : (c.step b line (.work t now inUse)).Informed := by
  cases inUse with
  | true => exact h.of_noNews (by simp [act, Bridge.tryWork]) fun hu _ => ⟨hu, .of_eq rfl rfl⟩
  | false =>
    rcases b.work_cases t c.state now with ⟨hpush, hquiet⟩ | hpushed
    · exact h.of_noNews hpush fun hunflagged _ => ⟨hunflagged, hquiet⟩
    · intro _ _ _
      simp only [state_step, past_step, act, Bridge.tryWork, hpushed]
      simpa [lastPush?, moment, act, Bridge.tryWork, hpushed, Moment.pushed?, Sent.pushed?]
        using Profile.shown_pushProperties c.state now

theorem Informed.step {c : Course σ} (h : c.Informed) (a : Action) :
    (c.step b line a).Informed := by
  cases a with
  | poll t now clock => exact h.poll t now clock
  | refresh now => exact h.refresh now
  | flag => exact h.flag
  | press button =>
    exact h.of_noNews (by simp [act]) fun hunflagged _ => ⟨hunflagged, .of_eq rfl rfl⟩
  | event t event now => exact h.event t event now
  | work t now inUse => exact h.work t now inUse
  | presence present =>
    exact h.of_noNews (by simp [act]) fun hunflagged _ => ⟨hunflagged, .of_eq rfl rfl⟩

/-- **The bus learns of every change.** Whatever happens around a bridge that starts with sensors
not read yet: where nothing waits to be pushed, no scene call has yet to ask for a push, and no poll
has taken the wish for a push back since the last push, that push carried the value of every active
sensor that has been read. -/
theorem pushed_of_clean {profile : Profile} {settings : Settings} {files : FileTree}
    {appliance : σ} {actions : List Action} {c : Course σ} (hunread : profile.IsUnread)
    (hrun : (start profile settings files appliance).run b line actions = c)
    (hdirty : c.state.dirty = false) (hunflagged : c.unflagged = 0)
    (hwithdrawn : withdrawn c.past = false) :
    c.state.profile.Shown (lastPush? c.past) := by
  have hstart : (start profile settings files appliance).Informed := fun _ _ _ => hunread.shown
  have hinformed := run_induction b line hstart (fun _ a h => h.step a) actions
  exact hrun ▸ hinformed (hrun ▸ hdirty) (hrun ▸ hunflagged) (hrun ▸ hwithdrawn)

/-! ### A course with one sensor

The appliance recites its answers and is out of reach when they are used up; the transport takes
every call. -/

/-- The line to an appliance that recites answers. -/
def recital : Line (List Answer) := ⟨"", fun _ answers => (answers.headD .none, answers.tail)⟩

/-- An answer that reports 44 percent. -/
def humidityAnswer : Answer := .response 200 "\x7b\"hum\":44\x7d".toUTF8.toList true

/-- A bridge to an appliance with a sensor of humidity. -/
def humidityCourse (answers : List Answer) (actions : List Action) : Course (List Answer) :=
  (start
    { id := "V", name := "V", address := "v"
      sensors := [{ name := "hum", kind := .humidity, usage := 1 }] }
    {} .empty answers).run
    { identity := {
        vdc := .repeated ⟨10, by decide⟩
        library := .repeated ⟨11, by decide⟩
        device := .repeated ⟨12, by decide⟩
        hostname := "host" } } recital actions

/-- A pass of work in a session. -/
def pass : Action := .work (.loopback true) 0 false

/-- The second poll reports what the first did; the push between them stands. -/
theorem shown_after_poll_push_poll :
    let c := humidityCourse [humidityAnswer, humidityAnswer]
      [pass, pass, .poll (.loopback true) 0 0, pass, .poll (.loopback true) 0 0]
    c.state.dirty = false ∧ c.unflagged = 0 ∧ withdrawn c.past = false ∧
      c.state.profile.Shown (lastPush? c.past) :=
  have hdirty := by decide +kernel
  have hunflagged := by decide +kernel
  have hwithdrawn := by decide +kernel
  ⟨hdirty, hunflagged, hwithdrawn,
    pushed_of_clean (by simp [Profile.IsUnread]) rfl hdirty hunflagged hwithdrawn⟩

/-- A scene call finds news and asks for a push, and a poll that fails takes that back: nothing
waits, and yet the bus was not told. -/
theorem not_shown_after_failed_poll :
    let c := humidityCourse [humidityAnswer]
      [pass, pass, .refresh 0, .flag, .poll (.loopback true) 0 0, pass]
    c.state.dirty = false ∧ c.unflagged = 0 ∧ ¬ c.state.profile.Shown (lastPush? c.past) := by
  decide +kernel

end Course

end HumidifierBridge
