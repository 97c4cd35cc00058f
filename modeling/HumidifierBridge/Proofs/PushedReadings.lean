import HumidifierBridge.Proofs.Push
import HumidifierBridge.Proofs.Reads

/-!
# What pushes carry, and how many there are

A push needs news. `Course.owed` counts what is owed to the bus: the push that waits, and one for
each scene call that took news in and has yet to ask for a push. A read that is news adds at most
one to it and a push that is taken pays one, so that pushes and debts together never outnumber the
news (`Course.pushes_run`). Polls may cancel a debt, which is why they can fall behind.

A push carries the sensors as they are when it is put together, and these are as they were read
last (`Course.reading_run`). It is put together once more when it was refused, from the same
readings or from later ones.
-/

namespace HumidifierBridge

/-! ### One push for each change -/

/-- The number of pushes among calls that were taken. -/
def countPushes (sent : List Sent) : Nat := sent.countP (·.pushed?.isSome)

/-- A call about anything else is no push. -/
theorem Sent.pushed?_of_not_concernsDevice {x : Sent} (h : x.call.concernsDevice = false) :
    x.pushed? = none := by
  rcases x with ⟨call, taken⟩
  cases call with
  | pushProperty device properties => cases h
  | _ => rfl

/-- What a scene call does with a read leaves a push waiting if one was, or if the read was news. -/
theorem Read.dirty_after (r : Read) : r.after.dirty = (r.before.dirty || r.isNews) := by
  rw [after, isNews, report?]
  cases r.answer.report with
  | error e => exact (Bool.or_false _).symm
  | ok report => rfl

/-- What a poll does with a read leaves a push waiting if the read was news. -/
theorem Read.dirty_takePoll (b : Bridge) (t : Transport) (r : Read) :
    (b.takePoll t r.before r.answer.report r.time).state.dirty = r.isNews := by
  rw [isNews, report?]
  cases r.answer.report <;> rfl

namespace Bridge

/-- A pass of work makes a push only if one waits, and none waits when it was taken. -/
theorem pushes_work (b : Bridge) (t : Transport) (s : BridgeState) (now : Time) :
    countPushes (b.work t s now).sent + (b.work t s now).state.dirty.toNat ≤ s.dirty.toNat := by
  apply work_induction (P := fun worked =>
    countPushes worked.sent + worked.state.dirty.toNat ≤ s.dirty.toNat)
  · exact Nat.le_of_eq (Nat.zero_add _)
  · exact Nat.le_of_eq (Nat.zero_add _)
  · intro call _
    cases call <;> exact Nat.le_of_eq (Nat.zero_add _)
  · intro call hdue
    cases call with
    | pushProperty device properties =>
      rw [(push_of_dueCall? hdue).1]
      exact Nat.le_refl _
    | _ => exact Nat.le_of_eq (Nat.zero_add _)

end Bridge

namespace Course

variable {σ : Type} (b : Bridge) (line : Line σ)

/-- What is owed to the bus: the push that waits, and those that scene calls have yet to ask for. -/
def owed (c : Course σ) : Nat := c.state.dirty.toNat + c.unflagged

/-- The number of pushes that were taken so far. -/
def pushes (c : Course σ) : Nat := countPushes (c.past.flatMap (·.sent))

/-- Does the turn read news? -/
def takesNews (c : Course σ) (a : Action) : Bool := (c.read? b line a).any Read.isNews

/-- Only a pass of work makes calls about the device. -/
theorem work_of_mem_act {c : Course σ} {a : Action} {x : Sent} (hx : x ∈ (c.act b line a).2)
    (hdevice : x.call.concernsDevice = true) : ∃ t now, a = .work t now false := by
  cases a with
  | poll t now clock =>
    simp only [act, Bridge.poll, Bridge.takePoll] at hx
    split at hx
    · cases hx
    · rw [List.mem_singleton.1 hx] at hdevice
      cases hdevice
  | refresh now => cases hx
  | flag =>
    simp only [act] at hx
    split at hx <;> cases hx
  | press button => cases hx
  | event t event now =>
    rw [Bridge.not_concernsDevice_of_mem_handle hx] at hdevice
    cases hdevice
  | work t now inUse =>
    cases inUse with
    | true => cases hx
    | false => exact ⟨t, now, rfl⟩
  | presence present => cases hx

/-- Any other turn makes no push. -/
theorem countPushes_act_eq_zero {a : Action} (ha : ∀ t now, a ≠ .work t now false)
    (c : Course σ) : countPushes (c.act b line a).2 = 0 := by
  rw [countPushes, List.countP_eq_zero]
  intro x hx
  have hother : x.call.concernsDevice = false := by
    by_contra hdevice
    obtain ⟨t, now, rfl⟩ := work_of_mem_act b line hx (Bool.of_not_eq_false hdevice)
    exact ha t now rfl
  rw [Sent.pushed?_of_not_concernsDevice hother]
  exact Bool.false_ne_true

/-- A scene call that reads the appliance has a push to ask for if the read was news. -/
theorem unflagged_act_refresh (c : Course σ) (now : Time) :
    (c.act b line (.refresh now)).1.unflagged =
      c.unflagged + (c.takesNews b line (.refresh now)).toNat := by
  simp only [act, Line.fetchState, takesNews, read?, Option.any_some, Read.isNews, Read.report?,
    ← Line.fetchReport_fst]
  rcases line.fetchReport c.world.appliance with ⟨result, appliance⟩
  cases result with
  | error e => rfl
  | ok report =>
    simp only [Except.toOption, Option.any_some]
    cases (c.state.applyReport report now).2 <;> rfl

/-- An event leaves a push waiting if one was, or if the event read news. -/
theorem dirty_act_event (c : Course σ) (t : Transport) (event : BusEvent) (now : Time) :
    (c.act b line (.event t event now)).1.state.dirty =
      (c.state.dirty || c.takesNews b line (.event t event now)) := by
  by_cases hcalls : b.callsScene event c.state = true
  · have hstate := Bridge.state_handle_of_callsScene hcalls line t now
    have hdirty := Read.dirty_after ⟨line.dataAnswer c.world.appliance, now, c.state⟩
    simp only [takesNews, read?, hcalls, if_true, Option.any_some]
    exact (congrArg BridgeState.dirty hstate).trans hdirty
  · rw [Bool.not_eq_true] at hcalls
    obtain ⟨_, _, _, _, hstate⟩ := Bridge.state_handle_of_not_callsScene hcalls line t now
    simp only [takesNews, read?, hcalls, if_false, Bool.false_eq_true, Option.any_none,
      Bool.or_false]
    exact (congrArg BridgeState.dirty hstate).trans rfl

/-- A push that is taken pays what is owed, and only news adds to it. -/
theorem owed_act (c : Course σ) (a : Action) :
    countPushes (c.act b line a).2 + (c.act b line a).1.owed ≤
      c.owed + (c.takesNews b line a).toNat := by
  cases a with
  | poll t now clock =>
    have hdirty : (c.act b line (.poll t now clock)).1.state.dirty =
        c.takesNews b line (.poll t now clock) :=
      Read.dirty_takePoll b t ⟨line.dataAnswer c.world.appliance, now, c.state⟩
    have hunflagged : (c.act b line (.poll t now clock)).1.unflagged = c.unflagged := rfl
    rw [countPushes_act_eq_zero b line (by simp), owed, owed, hdirty, hunflagged]
    omega
  | refresh now =>
    have hdirty : (c.act b line (.refresh now)).1.state.dirty = c.state.dirty := by
      simp only [act, Line.fetchState]
      split <;> rfl
    rw [countPushes_act_eq_zero b line (by simp), owed, owed, hdirty, unflagged_act_refresh]
    omega
  | flag =>
    rw [countPushes_act_eq_zero b line (by simp), Nat.zero_add]
    cases hunflagged : c.unflagged with
    | zero =>
      have howed : (c.act b line .flag).1.owed = c.owed := by simp only [act, hunflagged]
      exact Nat.le_of_eq howed
    | succ n =>
      have howed : (c.act b line .flag).1.owed = 1 + n := by
        simp only [act, hunflagged]
        rfl
      rw [howed, owed, hunflagged]
      omega
  | press button => exact Nat.le_of_eq (Nat.zero_add _)
  | event t event now =>
    have hunflagged : (c.act b line (.event t event now)).1.unflagged = c.unflagged := rfl
    rw [countPushes_act_eq_zero b line (by simp), owed, owed, dirty_act_event, hunflagged]
    have hor : ∀ x y : Bool, (x || y).toNat ≤ x.toNat + y.toNat := by decide
    have hdirty := hor c.state.dirty (c.takesNews b line (.event t event now))
    omega
  | work t now inUse =>
    cases inUse with
    | true => exact Nat.le_of_eq (Nat.zero_add _)
    | false =>
      have hwork := b.pushes_work t c.state now
      have hunflagged : (c.act b line (.work t now false)).1.unflagged = c.unflagged := rfl
      have hstate : (c.act b line (.work t now false)).1.state = (b.work t c.state now).state := rfl
      have hsent : (c.act b line (.work t now false)).2 = (b.work t c.state now).sent := rfl
      rw [owed, owed, hunflagged, hstate, hsent]
      omega
  | presence present => exact Nat.le_of_eq (Nat.zero_add _)

/-- Pushes and debts together never outnumber the news. -/
theorem pushes_run (c : Course σ) (actions : List Action) :
    (c.run b line actions).pushes + (c.run b line actions).owed ≤
      c.pushes + c.owed + (c.reads b line actions).countP Read.isNews := by
  induction actions generalizing c with
  | nil => exact Nat.le_refl _
  | cons a rest ih =>
    have hrest := ih (c.step b line a)
    have hact := c.owed_act b line a
    have howed : (c.step b line a).owed = (c.act b line a).1.owed := rfl
    have hpushes : (c.step b line a).pushes = countPushes (c.act b line a).2 + c.pushes := by
      simp only [pushes, past_step, moment, List.flatMap_cons, countPushes, List.countP_append]
    have hreads : (c.reads b line (a :: rest)).countP Read.isNews =
        (c.takesNews b line a).toNat +
          ((c.step b line a).reads b line rest).countP Read.isNews := by
      rw [reads, List.countP_append, takesNews]
      cases c.read? b line a with
      | none => simp
      | some r => cases hr : r.isNews <;> simp [hr]
    have hrun : c.run b line (a :: rest) = (c.step b line a).run b line rest := rfl
    rw [hrun, hreads]
    omega

/-! ### What a push carries -/

/-- A push is tried in a pass of work, with the readings as they are. When it is taken, no push
waits and the readings count as reported, and that is all. -/
theorem push_of_mem_act {c : Course σ} {a : Action} {x : Sent} (hx : x ∈ (c.act b line a).2)
    {device : DsUid} {properties : Properties} (hcall : x.call = .pushProperty device properties) :
    ∃ t now, a = .work t now false ∧ device = b.identity.device ∧
      properties = c.state.pushProperties now ∧
      (x.taken = true →
        (c.act b line a).1.state = { c.state.markReported now with dirty := false }) := by
  obtain ⟨t, now, rfl⟩ := work_of_mem_act b line hx (by rw [hcall]; rfl)
  refine ⟨t, now, rfl, ?_⟩
  revert hx
  apply Bridge.work_induction (P := fun worked => x ∈ worked.sent →
    device = b.identity.device ∧ properties = c.state.pushProperties now ∧
      (x.taken = true → worked.state = { c.state.markReported now with dirty := false }))
  · intro hx
    cases hx
  · intro hx
    cases hx
  · intro call hdue hx
    rw [List.mem_singleton.1 hx] at hcall ⊢
    obtain rfl : call = .pushProperty device properties := hcall
    obtain ⟨-, hdevice, hproperties⟩ := Bridge.push_of_dueCall? hdue
    exact ⟨hdevice, hproperties, fun htaken => absurd htaken Bool.false_ne_true⟩
  · intro call hdue hx
    rw [List.mem_singleton.1 hx] at hcall ⊢
    obtain rfl : call = .pushProperty device properties := hcall
    obtain ⟨-, hdevice, hproperties⟩ := Bridge.push_of_dueCall? hdue
    exact ⟨hdevice, hproperties, fun _ => rfl⟩

end Course

/-- The properties of a push show the sensors of a profile after some reads: the states of the
active ones, in ascending order of their slots, each with the value that was read last. -/
structure Profile.ShownAs (p : Profile) (reads : List Read) (properties : Properties) : Prop where
  listed : ∃ (states : Properties) (slots : List Nat),
    Property.get? properties "sensorStates" = some (.object states) ∧
      states.map (·.1) = slots.map toString ∧ slots.Pairwise (· < ·) ∧
        ∀ slot, slot ∈ slots ↔ ∃ s, p.sensors[slot]? = some s ∧ s.active = true
  value : ∀ slot s, p.sensors[slot]? = some s → s.active = true →
    pushedValue? properties slot = some ((lastValue? reads slot).getD s.reading.value)

namespace Course

variable {σ : Type} (b : Bridge) (line : Line σ)

theorem shownAs_run (c : Course σ) (actions : List Action) (now : Time) :
    c.state.profile.ShownAs (c.reads b line actions)
      ((c.run b line actions).state.pushProperties now) := by
  have hbare := c.map_bare_run b line actions
  refine ⟨⟨Handler.sensorStates (c.run b line actions).state now none,
    (c.run b line actions).state.profile.activeSensors.map (·.1), rfl, ?_,
    Profile.pairwise_activeSensors _, ?_⟩, ?_⟩
  · rw [Handler.sensorStates_none, List.map_map, List.map_map]
    rfl
  · intro slot
    simp only [List.mem_map, ← Profile.mem_activeSensors]
    constructor
    · rintro ⟨⟨_, s⟩, hs, rfl⟩
      obtain ⟨t, ht, -⟩ := Profile.exists_activeSensor_of_bare hbare.symm hs
      exact ⟨t, ht⟩
    · rintro ⟨s, hs⟩
      obtain ⟨t, ht, -⟩ := Profile.exists_activeSensor_of_bare hbare hs
      exact ⟨(slot, t), ht, rfl⟩
  · intro slot start hstart hactive
    obtain ⟨s, hs, hread⟩ := c.reading_run b line actions hstart
    have hactive : s.active = true := (congrArg Sensor.active hread.bare).trans hactive
    rw [pushedValue?_pushProperties (Profile.mem_activeSensors.2 ⟨hs, hactive⟩), hread.value]

/-- **Every push comes from news and carries what was read last.** Whatever turns are taken from the
start of a bridge, no more pushes were taken than reads were news; and a push that is tried next
shows each active sensor as it was read last. When it is taken, no push waits, the active sensors
are noted as reported at that time, and nothing else in the state has changed. -/
theorem pushes_from_news (profile : Profile) (settings : Settings) (files : FileTree)
    (appliance : σ) (actions : List Action) :
    let begin : Course σ := start profile settings files appliance
    let reached := begin.run b line actions
    let reads := begin.reads b line actions
    reached.pushes ≤ reads.countP Read.isNews ∧
      ∀ a, ∀ x ∈ (reached.act b line a).2, ∀ device properties,
        x.call = .pushProperty device properties →
          profile.ShownAs reads properties ∧
            ∃ t now, a = .work t now false ∧ (x.taken = true →
              (reached.step b line a).state = { reached.state with
                dirty := false
                profile := { reached.state.profile with
                  sensors := reached.state.profile.sensors.map fun s =>
                    if s.active then
                      { s with reading := { s.reading with lastReported := some now } }
                    else s } }) := by
  intro begin reached reads
  constructor
  · have hrun := begin.pushes_run b line actions
    have hpushes : begin.pushes = 0 := rfl
    have howed : begin.owed = 0 := rfl
    rw [hpushes, howed, Nat.zero_add] at hrun
    exact Nat.le_of_add_right_le hrun
  · intro a x hx device properties hcall
    obtain ⟨t, now, ha, -, rfl, htaken⟩ := push_of_mem_act b line hx hcall
    exact ⟨begin.shownAs_run b line actions now, t, now, ha, htaken⟩

/-- The second poll reports what the first did, and is no news. -/
example : (humidityCourse [humidityAnswer, humidityAnswer] [pass, pass,
    .poll (.loopback true) 0 0, pass, .poll (.loopback true) 0 0, pass]).pushes = 1 := by
  decide +kernel

end Course

end HumidifierBridge
