import HumidifierBridge.Bridge.Work

/-!
# What a pass of work does

A pass of work in a session makes the call that is due (`Bridge.dueCall?`). `BridgeState.tried` is
the state after the call was made, and `BridgeState.told` what changes when it is taken; with them
`Bridge.work_of_session` says all that a pass can do. What is so of every pass follows by
`Bridge.work_induction` from what is so of a call that is refused and of one that is taken.
-/

namespace HumidifierBridge

/-- The step that a pass of work has taken with a call. -/
def Call.workStep : Call → WorkStep
  | .announceDevice _ _ => .announced
  | .identifyDevice _ => .presenceSignaled
  | .deviceVanished _ => .vanished
  | .pushProperty _ _ => .pushed
  | _ => .idle

namespace BridgeState

/-- The state after a call was made, whether it is taken or not. -/
def tried (s : BridgeState) (now : Time) : Call → BridgeState
  | .pushProperty _ _ => s.markReported now
  | _ => s

/-- The state after a call was taken. -/
def told (s : BridgeState) : Call → BridgeState
  | .announceDevice _ _ =>
    { s with presence := { s.presence with announced := true, presentSignaled := false } }
  | .identifyDevice _ => { s with presence := { s.presence with presentSignaled := true } }
  | .deviceVanished _ => { s with presence := { s.presence with presentSignaled := false } }
  | .pushProperty _ _ => { s with dirty := false }
  | _ => s

end BridgeState

namespace Bridge

variable {b : Bridge} {t : Transport} {s : BridgeState} {now : Time}

/-- The call that a pass of work in a session makes. -/
def dueCall? (b : Bridge) (s : BridgeState) (now : Time) : Option Call :=
  if !s.presence.announced then some (.announceDevice b.identity.vdc b.identity.device)
  else if s.presence.present && !s.presence.presentSignaled then
    some (.identifyDevice b.identity.device)
  else if !s.presence.present && s.presence.presentSignaled then
    some (.deviceVanished b.identity.device)
  else if s.dirty then some (.pushProperty b.identity.device (s.pushProperties now))
  else none

/-- A push is due where readings wait to be pushed, and carries all that is to be told. -/
theorem push_of_dueCall? {device : DsUid} {properties : Properties}
    (h : b.dueCall? s now = some (.pushProperty device properties)) :
    s.dirty = true ∧ device = b.identity.device ∧ properties = s.pushProperties now := by
  simp only [dueCall?] at h
  split at h
  · cases h
  split at h
  · cases h
  split at h
  · cases h
  split at h
  · rename_i hdirty
    cases h
    exact ⟨hdirty, rfl, rfl⟩
  · cases h

/-- A pass of work in a session attempts the call that is due, and does nothing if none is. -/
theorem work_of_session (b : Bridge) (s : BridgeState) (now : Time) (hsession : t.session = true) :
    b.work t s now =
      match b.dueCall? s now with
      | none => ⟨.idle, s, []⟩
      | some call =>
        attempt t call (s.tried now call) call.workStep ((s.tried now call).told call) := by
  simp only [work, hsession, Bool.not_true, Bool.false_eq_true, if_false, dueCall?]
  split
  · rfl
  split
  · rfl
  split
  · rfl
  split <;> rfl

/-- A property of what a pass of work does holds if it holds without a session and without a call
that is due, and of the due call both when it is refused and when it is taken. -/
theorem work_induction {P : Worked → Prop}
    (no_session : P
      ⟨.noSession, { s with presence := { s.presence with announced := false } }, []⟩)
    (nothing_due : P ⟨.idle, s, []⟩)
    (refused : ∀ call, b.dueCall? s now = some call → P ⟨.idle, s.tried now call, [⟨call, false⟩]⟩)
    (taken : ∀ call, b.dueCall? s now = some call →
      P ⟨call.workStep, (s.tried now call).told call, [⟨call, true⟩]⟩) :
    P (b.work t s now) := by
  cases hsession : t.session with
  | false => simpa [work, hsession] using no_session
  | true =>
    rw [b.work_of_session s now hsession]
    cases hdue : b.dueCall? s now with
    | none => exact nothing_due
    | some call =>
      cases htakes : t.takes call with
      | false => simpa [attempt, Transport.send, htakes] using refused call hdue
      | true => simpa [attempt, Transport.send, htakes] using taken call hdue

end Bridge

end HumidifierBridge
