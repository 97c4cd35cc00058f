import HumidifierBridge.Bridge.Poll
import HumidifierBridge.Bridge.Work

/-!
# Events of the bus

`Bridge.handle` does what one event of the bus controller asks for. A `World` is everything an event
can change: the state of the bridge, the files, and the appliance.
-/

namespace HumidifierBridge

/-- Everything around a bridge that changes. -/
structure World (σ : Type) where
  state : BridgeState
  files : FileTree
  appliance : σ

/-- The effect of an event. -/
structure Handled (σ : Type) where
  reply : Reply
  world : World σ
  sent : List Sent

namespace Bridge

variable {σ : Type}

/-- Is one of the texts the device's dSUID? -/
def addressesDevice (b : Bridge) (dsuids : List String) : Bool :=
  dsuids.any fun d => b.identity.target d = some .device

/-- The world after the configuration was written, which may fail without further effect. -/
def persisted (b : Bridge) (w : World σ) : World σ :=
  { w with files := (b.persist w.state w.files).2 }

/-- The world in which the device is not announced. -/
def unannounced (w : World σ) : World σ :=
  { w with state := { w.state with presence := { w.state.presence with announced := false } } }

/-- Answers a write of properties and stores the configuration. -/
def setAndPersist (b : Bridge) (dsuid : String) (entries : List PropertyEntry) (w : World σ) :
    Option ResultCode × World σ :=
  let (state, code) := b.setProperties w.state dsuid entries
  let w := { w with state }
  (code, if code = some .ok then b.persisted w else w)

/-- Saves a scene and stores the configuration. -/
def saveAndPersist (b : Bridge) (scene : Int32) (w : World σ) : SaveOutcome × World σ :=
  let (state, outcome) := saveScene w.state scene
  let w := { w with state }
  (outcome, if outcome = .full then w else b.persisted w)

/-- Handles an event. -/
def handle (b : Bridge) (line : Line σ) (t : Transport) (event : BusEvent) (now : Time)
    (w : World σ) : Handled σ :=
  match event with
  | .newSession => ⟨.none, unannounced w, [t.send (.announceContainer b.identity.vdc)]⟩
  | .endSession => ⟨.none, unannounced w, []⟩
  | .ping dsuid =>
    match b.identity.resolve dsuid with
    | some own => ⟨.none, w, [t.send (.sendPong own)]⟩
    | none => ⟨.none, w, []⟩
  | .getProperty dsuid query =>
    match b.getProperties w.state dsuid query now with
    | some entries => ⟨.properties entries, w, []⟩
    | none => ⟨.none, w, []⟩
  | .setProperty dsuid entries =>
    match b.setAndPersist dsuid entries w with
    | (some code, w) => ⟨.code code, w, []⟩
    | (none, w) => ⟨.none, w, []⟩
  | .callScene dsuids scene _ =>
    if b.addressesDevice dsuids then
      let (_, state, appliance) := line.invoke w.state scene now w.appliance
      ⟨.none, { w with state, appliance }, []⟩
    else ⟨.none, w, []⟩
  | .saveScene dsuids scene =>
    if b.addressesDevice dsuids then ⟨.none, (b.saveAndPersist scene w).2, []⟩
    else ⟨.none, w, []⟩
  | .identify _ => ⟨.none, w, []⟩
  | .remove _ => ⟨.accepted true, w, []⟩
  | .genericRequest dsuid _ params =>
    if b.identity.target dsuid = some .device then ⟨.code (genericRequest params), w, []⟩
    else ⟨.code .notFound, w, []⟩

end Bridge

end HumidifierBridge
