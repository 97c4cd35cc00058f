import HumidifierBridge.Proofs.Background

/-!
# Calls that the bus refuses

When the call that is due is refused, the pass was idle, and the call stays due: what makes it due
is neither taken back nor changed, so that every later pass makes it again until it is taken.

The state is as before the pass, with one exception. The readings of a push are noted as reported
when the push is put together, and that stands when the push is refused.
`Bridge.refused_call_traces` says when this makes a difference.
-/

namespace HumidifierBridge

/-- The call as it is made at some time: a push carries the readings as they then are. -/
def Call.renewed (s : BridgeState) (now : Time) : Call → Call
  | .pushProperty device _ => .pushProperty device (s.pushProperties now)
  | call => call

namespace Profile

/-- Noting the sensors as reported changes none if all active ones are so noted at that time. -/
theorem markReported_eq_self_iff {p : Profile} {now : Time} :
    p.markReported now = p ↔
      ∀ s ∈ p.sensors, s.active = true → s.reading.lastReported = some now := by
  constructor
  · intro heq s hs hactive
    have hsensors : (p.markReported now).sensors = List.map (fun s => s) p.sensors := by
      rw [heq, List.map_id']
    have hsame := List.map_inj_left.1 hsensors s hs
    rw [if_pos hactive] at hsame
    rw [← hsame]
    rfl
  · intro h
    have hsensors : (p.markReported now).sensors = List.map (fun s => s) p.sensors := by
      apply List.map_congr_left
      intro s hs
      by_cases hactive : s.active = true
      · rw [if_pos hactive, Reading.markReported, ← h s hs hactive]
      · rw [if_neg hactive]
    rw [List.map_id'] at hsensors
    exact congrArg (fun sensors => { p with sensors }) hsensors

theorem markReported_markReported (p : Profile) (now later : Time) :
    (p.markReported now).markReported later = p.markReported later := by
  simp only [markReported, List.map_map]
  congr 1
  apply List.map_congr_left
  intro s _
  by_cases hactive : s.active = true
  · simp only [Function.comp_apply, hactive, if_true, Reading.markReported]
  · simp only [Function.comp_apply, hactive, if_false, Bool.false_eq_true]

end Profile

namespace BridgeState

theorem markReported_markReported (s : BridgeState) (now later : Time) :
    (s.markReported now).markReported later = s.markReported later := by
  simp only [markReported, Profile.markReported_markReported]

theorem tried_eq (s : BridgeState) (now : Time) (call : Call) :
    s.tried now call = if call.pushes then s.markReported now else s := by
  cases call <;> rfl

theorem tried_eq_self_iff {s : BridgeState} {now : Time} {call : Call} :
    s.tried now call = s ↔ (call.pushes = true →
      ∀ sensor ∈ s.profile.sensors, sensor.active = true →
        sensor.reading.lastReported = some now) := by
  cases hpushes : call.pushes with
  | false => simp only [tried_eq, hpushes, Bool.false_eq_true, if_false, false_implies]
  | true =>
    simp only [tried_eq, hpushes, if_true, forall_const, ← Profile.markReported_eq_self_iff]
    constructor
    · intro heq
      exact congrArg BridgeState.profile heq
    · intro heq
      rw [markReported, heq]

/-- What a push carries does not depend on what was noted as reported. -/
theorem pushProperties_markReported (s : BridgeState) (now later : Time) :
    (s.markReported now).pushProperties later = s.pushProperties later := by
  have hstates : Handler.sensorStates (s.markReported now) later none =
      Handler.sensorStates s later none := by
    rw [← Handler.sensorStates_foreground, foreground_markReported,
      Handler.sensorStates_foreground]
  simp only [pushProperties, hstates]

end BridgeState

namespace Bridge

variable {b : Bridge} {t : Transport} {s : BridgeState} {now : Time} {call : Call}

/-- The calls of a pass of work in a session. -/
theorem sent_work (b : Bridge) (s : BridgeState) (now : Time) (hsession : t.session = true) :
    (b.work t s now).sent = ((b.dueCall? s now).map t.send).toList := by
  rw [b.work_of_session s now hsession]
  cases b.dueCall? s now with
  | none => rfl
  | some call =>
    simp only [attempt]
    split <;> rfl

/-- All that a pass does whose call is refused. -/
theorem work_of_refused (h : (b.work t s now).sent = [⟨call, false⟩]) :
    b.dueCall? s now = some call ∧
      b.work t s now = ⟨.idle, s.tried now call, [⟨call, false⟩]⟩ := by
  revert h
  apply work_induction (P := fun worked => worked.sent = [⟨call, false⟩] →
    b.dueCall? s now = some call ∧ worked = ⟨.idle, s.tried now call, [⟨call, false⟩]⟩)
  · intro h
    cases h
  · intro h
    cases h
  · intro due hdue h
    cases h
    exact ⟨hdue, rfl⟩
  · intro due hdue h
    cases h

/-- A call that was made in vain makes no other call due. -/
theorem dueCall?_tried (b : Bridge) (s : BridgeState) (now later : Time) (call : Call) :
    b.dueCall? (s.tried now call) later = b.dueCall? s later := by
  cases call with
  | pushProperty device properties =>
    have hpresence : (s.markReported now).presence = s.presence := rfl
    have hdirty : (s.markReported now).dirty = s.dirty := rfl
    simp only [BridgeState.tried, dueCall?, hpresence, hdirty, s.pushProperties_markReported]
  | _ => rfl

/-- The same call is due at any time. -/
theorem dueCall?_later (b : Bridge) (s : BridgeState) (now later : Time) :
    b.dueCall? s later = (b.dueCall? s now).map (Call.renewed s later) := by
  simp only [dueCall?]
  split
  · rfl
  split
  · rfl
  split
  · rfl
  split <;> rfl

/-! ### What a refusal leaves -/

/-- **A refused call leaves no trace but the time of a push.** The pass was idle, and every later
pass in a session makes the call again. The state is as before, unless the call was a push and there
is an active sensor that was not noted as reported at the same time already. -/
theorem refused_call_traces (b : Bridge) (t : Transport) (s : BridgeState) (now : Time)
    (call : Call) (h : (b.work t s now).sent = [⟨call, false⟩]) :
    let worked := b.work t s now
    worked.step = .idle ∧
      worked.state = (if call.pushes then s.markReported now else s) ∧
      (worked.state = s ↔ (call.pushes = true → ∀ sensor ∈ s.profile.sensors,
        sensor.active = true → sensor.reading.lastReported = some now)) ∧
      ∀ t' later, t'.session = true →
        (b.work t' worked.state later).sent = [t'.send (call.renewed s later)] := by
  obtain ⟨hdue, hwork⟩ := work_of_refused h
  intro worked
  rw [show worked = _ from hwork]
  refine ⟨rfl, s.tried_eq now call, BridgeState.tried_eq_self_iff, ?_⟩
  intro t' later hsession
  rw [sent_work b _ later hsession, b.dueCall?_tried, b.dueCall?_later s now later, hdue]
  rfl

/-- A bus that takes every call but a push. -/
def deafToPushes : Transport where
  session := true
  answer
    | .pushProperty _ _ => .error .noSession
    | _ => .ok ()

/-- A state with a reading that waits to be pushed. -/
def waiting : BridgeState :=
  { BridgeState.new .sample {} with
    dirty := true
    presence := { announced := true, presentSignaled := true } }

/-- A push that is refused leaves the time at which it was tried with the sensor, and is tried
again. -/
theorem reported_by_refused_push :
    let push (now : Time) : Call :=
      .pushProperty sample.identity.device (waiting.pushProperties now)
    (sample.work deafToPushes waiting 7).sent = [⟨push 7, false⟩] ∧
      (sample.work deafToPushes waiting 7).state ≠ waiting ∧
      (sample.work deafToPushes (sample.work deafToPushes waiting 7).state 9).sent =
        [⟨push 9, false⟩] := by
  intro push
  have hsent : (sample.work deafToPushes waiting 7).sent = [⟨push 7, false⟩] := rfl
  obtain ⟨-, -, hsame, hagain⟩ := refused_call_traces sample deafToPushes waiting 7 (push 7) hsent
  refine ⟨hsent, ?_, hagain deafToPushes 9 rfl⟩
  rw [Ne, hsame]
  decide

/-- Passes of work one after the other. -/
def workAll (b : Bridge) (s : BridgeState) (passes : List (Transport × Time)) : BridgeState :=
  passes.foldl (fun s pass => (b.work pass.1 s pass.2).state) s

/-- Does every one of the passes make a call that is refused? -/
def AllRefused (b : Bridge) : BridgeState → List (Transport × Time) → Prop
  | _, [] => True
  | s, pass :: rest => (∃ call, (b.work pass.1 s pass.2).sent = [⟨call, false⟩]) ∧
      b.AllRefused (b.work pass.1 s pass.2).state rest

/-- **A call is made until it is taken.** However often calls were refused in a row, the next pass
in a session makes the call that was due at first, and nothing has changed but the time at which the
sensors are noted as reported. -/
theorem sent_work_workAll {passes : List (Transport × Time)} (h : b.AllRefused s passes)
    (hsession : t.session = true) (later : Time) :
    (b.work t (b.workAll s passes) later).sent = ((b.dueCall? s later).map t.send).toList ∧
      (b.workAll s passes = s ∨ ∃ now, b.workAll s passes = s.markReported now) := by
  induction passes generalizing s with
  | nil => exact ⟨sent_work b s later hsession, .inl rfl⟩
  | cons pass rest ih =>
    obtain ⟨⟨call, hcall⟩, hrest⟩ := h
    obtain ⟨-, hwork⟩ := work_of_refused hcall
    have hstate : (b.work pass.1 s pass.2).state = s.tried pass.2 call := by rw [hwork]
    obtain ⟨hsent, hleft⟩ := ih hrest
    rw [hstate, b.dueCall?_tried] at hsent
    rw [hstate] at hleft
    rw [workAll, List.foldl_cons, hstate]
    refine ⟨hsent, ?_⟩
    cases hpushes : call.pushes with
    | false =>
      have hsame : s.tried pass.2 call = s := by simp [s.tried_eq, hpushes]
      rw [hsame] at hleft ⊢
      exact hleft
    | true =>
      have hmarked : s.tried pass.2 call = s.markReported pass.2 := by simp [s.tried_eq, hpushes]
      rw [hmarked] at hleft ⊢
      right
      obtain heq | ⟨now, heq⟩ := hleft
      · exact ⟨pass.2, heq⟩
      · exact ⟨now, heq.trans (s.markReported_markReported pass.2 now)⟩

end Bridge

end HumidifierBridge
