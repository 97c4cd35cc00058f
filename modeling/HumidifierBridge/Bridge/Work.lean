import HumidifierBridge.Bridge.Requests
import HumidifierBridge.Bus.Transport

/-!
# Keeping the bus informed

A pass of work takes at most one step towards a bus that knows everything: first the device is
announced, then the bus is told whether the appliance is there, then fresh readings are pushed. A
call that the transport refuses is made again in the next pass.
-/

namespace HumidifierBridge

/-- What a pass of work did. -/
inductive WorkStep where
  /-- The state was in use elsewhere. -/
  | busy
  /-- Without a session the device does not count as announced. -/
  | noSession
  | announced
  | presenceSignaled
  | vanished
  | pushed
  /-- There was nothing to do, or the call was refused. -/
  | idle
  deriving DecidableEq, Repr

/-- The effect of a pass of work. -/
structure Worked where
  step : WorkStep
  state : BridgeState
  sent : List Sent

namespace BridgeState

/-- The properties that a push carries. -/
def pushProperties (s : BridgeState) (now : Time) : Properties := [
  ("sensorStates", .object (Handler.sensorStates s now none)),
  ("deviceStates", .object [
    ("0", .object [("name", .string "connected"), ("value", .string "1")])])]

/-- The state after the properties of a push were put together, which counts the readings as
reported. -/
def markReported (s : BridgeState) (now : Time) : BridgeState :=
  { s with profile := s.profile.markReported now }

end BridgeState

namespace Bridge

/-- Makes a call, and takes a step to another state if it is taken. -/
def attempt (t : Transport) (call : Call) (s : BridgeState) (step : WorkStep)
    (next : BridgeState) : Worked :=
  if t.takes call then ⟨step, next, [t.send call]⟩ else ⟨.idle, s, [t.send call]⟩

/-- A pass of work while the state is not in use elsewhere. -/
def work (b : Bridge) (t : Transport) (s : BridgeState) (now : Time) : Worked :=
  let device := b.identity.device
  if !t.session then
    ⟨.noSession, { s with presence := { s.presence with announced := false } }, []⟩
  else if !s.presence.announced then
    attempt t (.announceDevice b.identity.vdc device) s .announced
      { s with presence := { s.presence with announced := true, presentSignaled := false } }
  else if s.presence.present && !s.presence.presentSignaled then
    attempt t (.identifyDevice device) s .presenceSignaled
      { s with presence := { s.presence with presentSignaled := true } }
  else if !s.presence.present && s.presence.presentSignaled then
    attempt t (.deviceVanished device) s .vanished
      { s with presence := { s.presence with presentSignaled := false } }
  else if s.dirty then
    let marked := s.markReported now
    attempt t (.pushProperty device (s.pushProperties now)) marked .pushed
      { marked with dirty := false }
  else ⟨.idle, s, []⟩

/-- A pass of work, which is put off while the state is in use elsewhere. -/
def tryWork (b : Bridge) (t : Transport) (s : BridgeState) (now : Time) (inUse : Bool) : Worked :=
  if inUse then ⟨.busy, s, []⟩ else b.work t s now

end Bridge

end HumidifierBridge
