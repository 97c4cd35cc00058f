import HumidifierBridge.Appliance.Line
import HumidifierBridge.Bridge.Plan
import HumidifierBridge.Bridge.Requests
import HumidifierBridge.Bridge.Schedule
import HumidifierBridge.Bus.Transport

/-!
# Reading and steering the appliance

The appliance is read by polls and before a scene is applied. Both take a report in in the same way
and change nothing when there is none; they differ in what becomes of the flag that asks for a push.
-/

namespace HumidifierBridge

/-- The effect of a poll. -/
structure Polled where
  outcome : PollOutcome
  state : BridgeState
  sent : List Sent

/-- What a scene call came to. -/
inductive InvokeOutcome where
  /-- There is no such scene; nothing was done. -/
  | notConfigured
  /-- The presses that were made. -/
  | applied (presses : List Button)
  deriving DecidableEq, Repr

namespace Bridge

/-- Takes the result of a poll. A change asks for a push, anything else takes that back. After a
failure the bus is told that the device is alive. -/
def takePoll (b : Bridge) (t : Transport) (s : BridgeState)
    (result : Except BridgeError DataReport) (now : Time) : Polled :=
  match result with
  | .ok report =>
    let (s, changed) := s.applyReport report now
    ⟨if changed then .changed else .unchanged, { s with dirty := changed }, []⟩
  | .error _ => ⟨.failed, { s with dirty := false }, [t.send (.sendPong b.identity.device)]⟩

end Bridge

namespace BridgeState

/-- Takes the result of reading the appliance before a scene. A change asks for a push, and nothing
takes that back. -/
def takeRefresh (s : BridgeState) (result : Except BridgeError DataReport) (now : Time) :
    BridgeState :=
  match result with
  | .ok report =>
    let (s, changed) := s.applyReport report now
    { s with dirty := s.dirty || changed }
  | .error _ => s

end BridgeState

variable {σ : Type}

/-- Reads the appliance and takes its report into the state. The answer says whether a sensor
changed; after a failure the state is as before. -/
def Line.fetchState (line : Line σ) (s : BridgeState) (now : Time) (appliance : σ) :
    Except BridgeError Bool × BridgeState × σ :=
  match line.fetchReport appliance with
  | (.ok report, appliance) =>
    let (s, changed) := s.applyReport report now
    (.ok changed, s, appliance)
  | (.error e, appliance) => (.error e, s, appliance)

/-- Polls the appliance and schedules the next poll. `now` is the calendar time, `clock` that of the
schedule. -/
def Bridge.poll (b : Bridge) (line : Line σ) (t : Transport) (s : BridgeState)
    (schedule : Schedule) (now clock : Time) (appliance : σ) : Polled × Schedule × σ :=
  let (result, appliance) := line.fetchReport appliance
  let polled := b.takePoll t s result now
  let settings := s.settings
  (polled, schedule.record polled.outcome clock settings.reloadSeconds settings.reloadMillis,
    appliance)

/-- Calls a scene: reads the appliance, plans from what is then known, and presses buttons up to the
first press that fails. -/
def Line.invoke (line : Line σ) (s : BridgeState) (scene : Int32) (now : Time) (appliance : σ) :
    Except BridgeError InvokeOutcome × BridgeState × σ :=
  match s.profile.scenes.get? scene with
  | none => (.ok .notConfigured, s, appliance)
  | some spec =>
    let (result, appliance) := line.fetchReport appliance
    let s := s.takeRefresh result now
    let presses := spec.plan s.appliance
    let (pressed, appliance) := line.pressAll presses appliance
    (pressed.map fun () => .applied presses, s, appliance)

end HumidifierBridge
