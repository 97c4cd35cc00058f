import HumidifierBridge.Bridge.Handlers
import HumidifierBridge.Config.Store

/-!
# Requests of the bus

Reading properties is best effort: what cannot be answered is left out. Writing goes entry by entry
and stops at the first that cannot be written. A `Bridge` is what does not change while it runs; it
may have a store, to which changes of the configuration are written.
-/

namespace HumidifierBridge

/-- The fixed part of a bridge. -/
structure Bridge where
  identity : Identity
  store : Option ConfigStore := none
  deriving DecidableEq

/-- A property of a target and its value, none where the name is unknown or has no value. -/
def answerItem (target : Target) (state : BridgeState) (identity : Identity) (now : Time)
    (item : QueryItem) : Option (String × Property) := do
  let name ← item.name
  let handler ← Handler.find? target name
  let value ← handler.read ⟨state, identity, item, now⟩
  return (name, value)

namespace Bridge

/-- Answers a request for properties; none if it is for someone else. -/
def getProperties (b : Bridge) (state : BridgeState) (dsuid : String) (query : List QueryItem)
    (now : Time) : Option Properties :=
  (b.identity.target dsuid).map fun target =>
    query.filterMap (answerItem target state b.identity now)

/-- The configuration file for a state. -/
def configFile (b : Bridge) (state : BridgeState) : ConfigFile :=
  .ofParts state.profile state.settings b.identity.vdc b.identity.library

/-- Writes the configuration to the store, if there is one. -/
def persist (b : Bridge) (state : BridgeState) (files : FileTree) :
    Except ConfigError Unit × FileTree :=
  match b.store with
  | none => (.ok (), files)
  | some store => store.save (b.configFile state) files

end Bridge

namespace BridgeState

/-- Writes one entry to a target. -/
def setEntry (target : Target) (state : BridgeState) (entry : PropertyEntry) :
    Except ResultCode BridgeState :=
  match entry.name with
  | none => .error .notImplemented
  | some name =>
    match (Handler.find? target name).bind (·.write) with
    | none => .error .notFound
    | some write =>
      match write state entry.value with
      | none => .error .invalidValueType
      | some state => .ok state

/-- Writes entries to a target, up to the first that cannot be written. -/
def setEntries (target : Target) : BridgeState → List PropertyEntry → BridgeState × ResultCode
  | state, [] => (state, .ok)
  | state, entry :: rest =>
    match setEntry target state entry with
    | .ok state => setEntries target state rest
    | .error code => (state, code)

end BridgeState

namespace Bridge

/-- Writes properties; the result is none if they are for someone else. The configuration is to be
stored if and only if all of them were written, which the result `ok` says. -/
def setProperties (b : Bridge) (state : BridgeState) (dsuid : String)
    (entries : List PropertyEntry) : BridgeState × Option ResultCode :=
  match b.identity.target dsuid with
  | none => (state, none)
  | some target =>
    if entries.isEmpty then (state, some .missingData)
    else
      let (state, code) := state.setEntries target entries
      (state, some code)

/-- Makes sure that a scene is in the table. The configuration is to be stored unless the table is
full. -/
def saveScene (state : BridgeState) (scene : Int32) : BridgeState × SaveOutcome :=
  let (scenes, outcome) := state.profile.scenes.save scene
  ({ state with profile := { state.profile with scenes } }, outcome)

end Bridge

/-- The result of a generic request: of its parameters only `id` counts, and of the actions only
turning on is acknowledged. -/
def genericRequest : List PropertyEntry → ResultCode
  | [] => .missingData
  | param :: rest =>
    match param.name with
    | none => .notImplemented
    | some name =>
      if name = "id" then
        match param.value.string? with
        | none => .invalidValueType
        | some action => if action = "ActTurnOn" then .ok else .notImplemented
      else genericRequest rest

end HumidifierBridge
