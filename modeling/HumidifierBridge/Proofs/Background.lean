import HumidifierBridge.Bridge.Loop
import HumidifierBridge.Proofs.Announcement
import HumidifierBridge.Proofs.Transcript

/-!
# Work in the background

The host handles the events of the bus, and works in between. How often it works, when, and how far
it gets each time depends on the clock and on the transport, and no request is to notice.

`BridgeState.foreground` is what requests look at, and the proof is in two halves. Passes of work
change nothing of it (`foreground_tryWork`). The effect of an event on it depends on nothing else
(`view_handle_foreground`), which comes down to the readers of properties, the scene calls and the
written configuration. `Host.same_service` puts the halves together for two runs.

A `Host` takes turns in any order. The loop that serves the bus takes such turns, as
`run_of_deliver` and `run_of_ticks` say.
-/

namespace HumidifierBridge

namespace Call

/-- Is the call made because of an event? -/
def answersEvent : Call → Bool
  | .announceContainer _ => true
  | .sendPong _ => true
  | _ => false

/-- These are the calls that are not about the device. -/
theorem answersEvent_eq (c : Call) : c.answersEvent = !c.concernsDevice := by
  cases c <;> rfl

end Call

/-! ### What requests look at -/

@[simp] theorem Sensor.unreported_unreported (s : Sensor) :
    s.unreported.unreported = s.unreported := rfl

namespace Profile

@[simp] theorem unreported_unreported (p : Profile) : p.unreported.unreported = p.unreported := by
  simp only [unreported, List.map_map]
  rfl

/-- The same sensors are active, in the same slots. -/
theorem activeSensors_unreported (p : Profile) :
    p.unreported.activeSensors = p.activeSensors.map fun a => (a.1, a.2.unreported) := by
  simp only [activeSensors, unreported, List.mapIdx_eq_zipIdx_map, List.zipIdx_map, List.map_map,
    List.filter_map]
  rfl

end Profile

namespace BridgeState

@[simp] theorem foreground_foreground (s : BridgeState) :
    s.foreground.foreground = s.foreground := by
  simp only [foreground, Profile.unreported_unreported]

/-- To count as reported shows in the background only. -/
@[simp] theorem foreground_markReported (s : BridgeState) (now : Time) :
    (s.markReported now).foreground = s.foreground := by
  simp only [foreground, markReported, Profile.unreported_markReported]

theorem foreground_tried (s : BridgeState) (now : Time) (call : Call) :
    (s.tried now call).foreground = s.foreground := by
  cases call with
  | pushProperty device properties => exact s.foreground_markReported now
  | _ => rfl

theorem foreground_told (s : BridgeState) (call : Call) :
    (s.told call).foreground = s.foreground := by
  cases call <;> rfl

@[simp] theorem profile_foreground (s : BridgeState) :
    s.foreground.profile = s.profile.unreported := rfl

@[simp] theorem settings_foreground (s : BridgeState) : s.foreground.settings = s.settings := rfl

/-- Reading the appliance does not look at the background. -/
theorem takeRefresh_foreground (s : BridgeState) (result : Except BridgeError DataReport)
    (now : Time) :
    (s.foreground.takeRefresh result now).foreground = (s.takeRefresh result now).foreground := by
  cases result with
  | error e => exact s.foreground_foreground
  | ok report =>
    have hflag : ∀ (s : BridgeState) (dirty : Bool), { s with dirty }.foreground = s.foreground :=
      fun _ _ => rfl
    simp only [takeRefresh, applyReport_foreground, hflag, foreground_foreground]

end BridgeState

/-! ### The readers of properties -/

namespace Handler

/-- The reader does not look at the background. -/
def ReadsForeground (h : Handler) : Prop :=
  ∀ c : ReadContext, h.read { c with state := c.state.foreground } = h.read c

@[simp] theorem readsForeground_silent : silent.ReadsForeground := fun _ => rfl

@[simp] theorem readsForeground_constant (value : Property) : (constant value).ReadsForeground :=
  fun _ => rfl

@[simp] theorem readsForeground_bridgeZone : bridgeZone.ReadsForeground := fun _ => rfl

@[simp] theorem readsForeground_deviceZone : deviceZone.ReadsForeground := fun _ => rfl

@[simp] theorem readsForeground_readOnly {read : ReadContext → Property} :
    (readOnly read).ReadsForeground ↔
      ∀ c : ReadContext, read { c with state := c.state.foreground } = read c :=
  forall_congr' fun _ => Option.some_inj

/-- What is shown of each active sensor is shown alike if it is so for each sensor. -/
theorem perSensor_unreported (p : Profile) {entries entries' : Nat → Sensor → Properties}
    (h : ∀ i s, entries i s.unreported = entries' i s) :
    perSensor p.unreported entries = perSensor p entries' := by
  simp only [perSensor, p.activeSensors_unreported, List.map_map]
  refine List.map_congr_left fun a _ => ?_
  simp only [Function.comp_apply, h]

@[simp] theorem sensorDescriptions_foreground (s : BridgeState) :
    sensorDescriptions s.foreground = sensorDescriptions s :=
  perSensor_unreported s.profile fun _ _ => rfl

@[simp] theorem sensorSettings_foreground (s : BridgeState) :
    sensorSettings s.foreground = sensorSettings s :=
  perSensor_unreported s.profile fun _ _ => rfl

/-- The age of a value counts from when it was read, not from when it was pushed. -/
@[simp] theorem sensorStates_foreground (s : BridgeState) (now : Time) (only : Option Nat) :
    sensorStates s.foreground now only = sensorStates s now only := by
  simp only [sensorStates, BridgeState.profile_foreground, s.profile.activeSensors_unreported,
    List.filter_map, List.map_map]
  rfl

/-- No property shows anything of the background. -/
theorem readsForeground_of_mem {target : Target} {e : String × Handler} (h : e ∈ table target) :
    e.2.ReadsForeground := by
  revert e
  cases target with
  | container => simp [table, containerTable, Profile.unreported]
  | device => simp [table, deviceTable, Profile.unreported]

end Handler

/-- A request for properties does not look at the background. -/
theorem Bridge.getProperties_foreground (b : Bridge) (s : BridgeState) (dsuid : String)
    (query : List QueryItem) (now : Time) :
    b.getProperties s.foreground dsuid query now = b.getProperties s dsuid query now := by
  have hanswer : ∀ target item, answerItem target s.foreground b.identity now item =
      answerItem target s b.identity now item := by
    intro target item
    cases hname : item.name with
    | none => simp [answerItem, hname]
    | some name =>
      cases hfind : Handler.find? target name with
      | none => simp [answerItem, hname, hfind]
      | some handler =>
        have hread : handler.ReadsForeground :=
          Handler.readsForeground_of_mem (Handler.mem_table_of_find? hfind)
        simp [answerItem, hname, hfind, hread ⟨s, b.identity, item, now⟩]
  simp only [getProperties, funext (hanswer _)]

/-! ### Events and passes of work -/

/-- The world without what only passes of work look at. -/
def World.foreground {σ : Type} (w : World σ) : World σ := { w with state := w.state.foreground }

@[simp] theorem World.foreground_foreground {σ : Type} (w : World σ) :
    w.foreground.foreground = w.foreground := by
  simp only [foreground, BridgeState.foreground_foreground]

/-- What of the effect of an event does not depend on passes of work: the reply, the world without
what they look at, and the calls. -/
def Handled.view {σ : Type} (h : Handled σ) : Reply × World σ × List Call :=
  (h.reply, h.world.foreground, h.sent.map (·.call))

namespace Bridge

variable {σ : Type}

/-- The configuration file shows nothing of the background. -/
@[simp] theorem configFile_foreground (b : Bridge) (s : BridgeState) :
    b.configFile s.foreground = b.configFile s := by
  have hsection : ∀ s : Sensor, ConfigFile.sensorSection s.unreported =
      ConfigFile.sensorSection s := fun _ => rfl
  simp only [configFile, ConfigFile.ofParts, BridgeState.profile_foreground, Profile.unreported,
    List.map_map, Function.comp_def, hsection, BridgeState.settings_foreground]

@[simp] theorem persist_foreground (b : Bridge) (s : BridgeState) (files : FileTree) :
    b.persist s.foreground files = b.persist s files := by
  simp only [persist, configFile_foreground]

theorem persisted_foreground (b : Bridge) (w : World σ) :
    b.persisted w.foreground = (b.persisted w).foreground := by
  simp only [persisted, World.foreground, persist_foreground]

theorem setAndPersist_foreground (b : Bridge) (dsuid : String) (entries : List PropertyEntry)
    (w : World σ) :
    b.setAndPersist dsuid entries w.foreground =
      ((b.setAndPersist dsuid entries w).1, (b.setAndPersist dsuid entries w).2.foreground) := by
  have hset := BridgeState.zoneNeutral_foreground.setProperties_comm b w.state dsuid entries
  have hpersisted := b.persisted_foreground
    { w with state := (b.setProperties w.state dsuid entries).1 }
  simp only [World.foreground] at hpersisted
  simp only [setAndPersist, World.foreground, hset]
  split
  · rw [hpersisted]
  · rfl

theorem saveAndPersist_foreground (b : Bridge) (scene : Int32) (w : World σ) :
    b.saveAndPersist scene w.foreground =
      ((b.saveAndPersist scene w).1, (b.saveAndPersist scene w).2.foreground) := by
  have hpersisted := b.persisted_foreground { w with state := (saveScene w.state scene).1 }
  have hsave : saveScene w.state.foreground scene =
      ((saveScene w.state scene).1.foreground, (saveScene w.state scene).2) := rfl
  simp only [World.foreground] at hpersisted
  simp only [saveAndPersist, World.foreground, hsave]
  split
  · rfl
  · rw [hpersisted]

/-- A scene is planned from what is known of the appliance, which is not in the background. -/
theorem invoke_foreground (line : Line σ) (s : BridgeState) (scene : Int32) (now : Time)
    (appliance : σ) :
    let called := line.invoke s scene now appliance
    let called' := line.invoke s.foreground scene now appliance
    called'.2.1.foreground = called.2.1.foreground ∧ called'.2.2 = called.2.2 := by
  have hrefresh : ∀ result, (s.foreground.takeRefresh result now).appliance =
      (s.takeRefresh result now).appliance := by
    intro result
    have h := congrArg BridgeState.appliance (s.takeRefresh_foreground result now)
    exact h
  have hscenes : s.foreground.profile.scenes = s.profile.scenes := rfl
  simp only [Line.invoke, hscenes]
  cases s.profile.scenes.get? scene with
  | none => exact ⟨s.foreground_foreground, rfl⟩
  | some spec => simp only [hrefresh, s.takeRefresh_foreground, and_self]

/-- **What comes of an event does not depend on the background**, nor does it depend on what the
transport takes. -/
theorem view_handle_foreground (b : Bridge) (line : Line σ) (t t' : Transport) (event : BusEvent)
    (now : Time) (w : World σ) :
    (b.handle line t event now w.foreground).view = (b.handle line t' event now w).view := by
  cases event with
  | newSession =>
    have hunannounced : (unannounced w.foreground).foreground = (unannounced w).foreground :=
      w.foreground_foreground
    simp only [handle, Handled.view, hunannounced, List.map_cons, List.map_nil, Transport.send]
  | endSession => exact congrArg (fun w => (Reply.none, w, [])) w.foreground_foreground
  | ping dsuid =>
    simp only [handle]
    cases b.identity.resolve dsuid with
    | none => simp only [Handled.view, w.foreground_foreground, List.map_nil]
    | some own =>
      simp only [Handled.view, w.foreground_foreground, List.map_cons, List.map_nil,
        Transport.send]
  | getProperty dsuid query =>
    have hget := b.getProperties_foreground w.state dsuid query now
    have hstate : w.foreground.state = w.state.foreground := rfl
    simp only [handle, hstate, hget]
    cases b.getProperties w.state dsuid query now with
    | none => simp only [Handled.view, w.foreground_foreground]
    | some entries => simp only [Handled.view, w.foreground_foreground]
  | setProperty dsuid entries =>
    simp only [handle, b.setAndPersist_foreground dsuid entries w]
    rcases b.setAndPersist dsuid entries w with ⟨code, written⟩
    cases code with
    | none => simp only [Handled.view, written.foreground_foreground]
    | some code => simp only [Handled.view, written.foreground_foreground]
  | callScene dsuids scene force =>
    obtain ⟨hstate, happliance⟩ := invoke_foreground line w.state scene now w.appliance
    simp only [handle]
    split
    · simp only [Handled.view, World.foreground, hstate, happliance]
    · simp only [Handled.view, w.foreground_foreground]
  | saveScene dsuids scene =>
    simp only [handle, b.saveAndPersist_foreground scene w]
    split
    · simp only [Handled.view, World.foreground_foreground]
    · simp only [Handled.view, w.foreground_foreground]
  | identify dsuid => simp only [handle, Handled.view, w.foreground_foreground]
  | remove dsuid => simp only [handle, Handled.view, w.foreground_foreground]
  | genericRequest dsuid method params =>
    simp only [handle]
    split <;> simp only [Handled.view, w.foreground_foreground]

/-- Passes of work change nothing but the background. -/
theorem foreground_tryWork (b : Bridge) (t : Transport) (s : BridgeState) (now : Time)
    (inUse : Bool) : (b.tryWork t s now inUse).state.foreground = s.foreground := by
  cases inUse with
  | true => rfl
  | false =>
    apply work_induction (P := fun worked => worked.state.foreground = s.foreground)
    · rfl
    · rfl
    · intro call _
      exact s.foreground_tried now call
    · intro call _
      rw [BridgeState.foreground_told, s.foreground_tried]

/-- The calls of a pass of work are not those that events ask for. -/
theorem answersEvent_of_mem_tryWork {b : Bridge} {t : Transport} {s : BridgeState} {now : Time}
    {inUse : Bool} {x : Sent} (h : x ∈ (b.tryWork t s now inUse).sent) :
    x.call.answersEvent = false := by
  cases inUse with
  | true => cases h
  | false =>
    have hdevice : x.call.concernsDevice = true := concernsDevice_of_mem_work h
    rw [Call.answersEvent_eq, hdevice, Bool.not_true]

end Bridge

/-! ### The host -/

/-- A turn of the host. -/
inductive HostTurn where
  /-- An event of the bus is handled. -/
  | handle (t : Transport) (event : BusEvent) (now : Time)
  /-- A pass of work, which is put off while the state is in use elsewhere. -/
  | work (t : Transport) (now : Time) (inUse : Bool)

/-- The event of a turn, if it is one, and its time. -/
def HostTurn.event? : HostTurn → Option (BusEvent × Time)
  | .handle _ event now => some (event, now)
  | .work _ _ _ => none

/-- A host, and what it did so far. -/
structure Host (σ : Type) where
  world : World σ
  /-- The replies to the events. -/
  replies : List Reply := []
  /-- The files as each event left them. -/
  files : List FileTree := []
  /-- The calls, of events and of passes of work. -/
  calls : List Call := []

namespace Host

variable {σ : Type} (b : Bridge) (line : Line σ)

/-- Takes a turn. -/
def turn (h : Host σ) : HostTurn → Host σ
  | .handle t event now =>
    let handled := b.handle line t event now h.world
    { world := handled.world
      replies := h.replies ++ [handled.reply]
      files := h.files ++ [handled.world.files]
      calls := h.calls ++ handled.sent.map (·.call) }
  | .work t now inUse =>
    let worked := b.tryWork t h.world.state now inUse
    { h with
      world := { h.world with state := worked.state }
      calls := h.calls ++ worked.sent.map (·.call) }

/-- Takes turns one after the other. -/
def run (h : Host σ) (turns : List HostTurn) : Host σ := turns.foldl (turn b line) h

/-- A pass of work of the loop that serves the bus is a turn. -/
theorem turn_work_of_loop (l : BusLoop σ) {h : Host σ} (hworld : h.world = l.world)
    (t : Transport) (epoch clock : Time) :
    let worked := l.work b t epoch clock
    h.turn b line (.work t (epoch + clock) false) =
      { h with world := worked.1.world, calls := h.calls ++ worked.2.map (·.2.call) } := by
  simp only [turn, Bridge.tryWork, Bool.false_eq_true, if_false, BusLoop.work, hworld,
    List.map_map]
  rfl

/-- An event that the loop is handed is handled, and a pass of work follows. -/
theorem run_of_deliver (l : BusLoop σ) (hrunning : l.running = true) {h : Host σ}
    (hworld : h.world = l.world) (t : Transport) (epoch clock : Time) (event : BusEvent) :
    let delivered := l.deliver b line t epoch clock event
    h.run b line [.handle t event (epoch + clock), .work t (epoch + clock) false] =
      { world := delivered.1.world
        replies := h.replies ++ [delivered.2.1]
        files := h.files ++ [delivered.1.world.files]
        calls := h.calls ++ delivered.2.2.map (·.2.call) } := by
  have hhandled : (h.turn b line (.handle t event (epoch + clock))).world =
      (b.handle line t event (epoch + clock) l.world).world := by
    rw [← hworld]
    rfl
  have hwork := turn_work_of_loop b line
    { l with world := (b.handle line t event (epoch + clock) l.world).world } hhandled t epoch clock
  simp only [run, List.foldl_cons, List.foldl_nil]
  rw [hwork]
  simp only [turn, BusLoop.deliver, hrunning, if_true, hworld, List.map_append, List.map_map,
    List.append_assoc]
  rfl

/-- The turns on a number of ticks, the first of which is due at a time of the clock. -/
def tickTurns (t : Transport) (epoch : Time) : Nat → Time → List HostTurn
  | 0, _ => []
  | n + 1, due => .work t (epoch + due) false :: tickTurns t epoch n (due + workInterval)

/-- On ticks the loop works and does nothing else. -/
theorem run_of_ticks (t : Transport) (epoch : Time) (n : Nat) (l : BusLoop σ) {h : Host σ}
    (hworld : h.world = l.world) :
    let ticked := BusLoop.ticks b t epoch n l
    h.run b line (tickTurns t epoch n l.nextTick) =
      { h with world := ticked.1.world, calls := h.calls ++ ticked.2.map (·.2.call) } := by
  induction n generalizing l h with
  | zero => simp [tickTurns, run, BusLoop.ticks, ← hworld]
  | succ n ih =>
    have hwork := turn_work_of_loop b line { l with nextTick := l.nextTick + workInterval }
      hworld t epoch l.nextTick
    have hrest := ih ({ l with nextTick := l.nextTick + workInterval }.work b t epoch l.nextTick).1
      (h := h.turn b line (.work t (epoch + l.nextTick) false)) (by rw [hwork])
    refine hrest.trans ?_
    rw [hwork]
    simp only [BusLoop.ticks, List.map_append, List.append_assoc]

/-- The host without the background: what its passes of work look at, and the calls they make. -/
def foreground (h : Host σ) : Host σ :=
  { h with world := h.world.foreground, calls := h.calls.filter Call.answersEvent }

/-- A pass of work is in the background. -/
theorem foreground_turn_work (h : Host σ) (t : Transport) (now : Time) (inUse : Bool) :
    (h.turn b line (.work t now inUse)).foreground = h.foreground := by
  have hcalls : ((b.tryWork t h.world.state now inUse).sent.map (·.call)).filter
      Call.answersEvent = [] := by
    rw [List.filter_eq_nil_iff]
    intro call hcall
    obtain ⟨x, hx, rfl⟩ := List.mem_map.1 hcall
    simp only [Bridge.answersEvent_of_mem_tryWork hx, Bool.false_eq_true, not_false_iff]
  simp only [turn, foreground, World.foreground, b.foreground_tryWork, List.filter_append, hcalls,
    List.append_nil]

/-- An event does not look at the background. -/
theorem foreground_turn_handle (h : Host σ) (t t' : Transport) (event : BusEvent) (now : Time) :
    (h.foreground.turn b line (.handle t event now)).foreground =
      (h.turn b line (.handle t' event now)).foreground := by
  have hview := b.view_handle_foreground line t t' event now h.world
  simp only [Handled.view, World.foreground, Prod.mk.injEq, World.mk.injEq] at hview
  obtain ⟨hreply, ⟨hstate, hfiles, happliance⟩, hcalls⟩ := hview
  have hfilter : (h.calls.filter Call.answersEvent).filter Call.answersEvent =
      h.calls.filter Call.answersEvent := by simp
  simp only [turn, foreground, World.foreground, List.filter_append, hfilter, hreply, hstate,
    hfiles, happliance, hcalls]

/-- A run is, but for the background, its events alone. -/
theorem foreground_run (h : Host σ) (turns : List HostTurn) (t : Transport) :
    (h.run b line turns).foreground = (turns.filterMap HostTurn.event?).foldl
      (fun h e => (h.turn b line (.handle t e.1 e.2)).foreground) h.foreground := by
  induction turns generalizing h with
  | nil => rfl
  | cons turn rest ih =>
    cases turn with
    | handle t' event now =>
      have hevent := h.foreground_turn_handle b line t t' event now
      simp only [run, List.foldl_cons, List.filterMap_cons, HostTurn.event?, hevent]
      exact ih (h.turn b line (.handle t' event now))
    | work t' now inUse =>
      -- The events start from a foreground that the pass has not changed.
      simp only [run, List.foldl_cons, List.filterMap_cons, HostTurn.event?]
      rw [← h.foreground_turn_work b line t' now inUse]
      exact ih (h.turn b line (.work t' now inUse))

/-- The requests made to the appliance. -/
abbrev requests (h : Host (σ × List Request)) : List Request := h.world.appliance.2

/-- The two did the same for the bus and with the appliance, and are left with the same, but for the
times of pushes and what else only passes of work look at. -/
structure SameService (one other : Host (σ × List Request)) : Prop where
  replies : one.replies = other.replies
  requests : one.requests = other.requests
  calls : one.calls.filter Call.answersEvent = other.calls.filter Call.answersEvent
  /-- After each event the files were the same. -/
  files : one.files = other.files
  left : one.world.files = other.world.files
  settings : one.world.state.settings = other.world.state.settings
  operating : one.world.state.appliance = other.world.state.appliance
  profile : one.world.state.profile.unreported = other.world.state.profile.unreported

/-- **Passes of work are not noticed.** Two runs from the same start with the same events at the
same times, and with any passes of work in between, come to the same. -/
theorem same_service {turns turns' : List HostTurn}
    (h : turns.filterMap HostTurn.event? = turns'.filterMap HostTurn.event?) (s : BridgeState)
    (files : FileTree) (appliance : σ) :
    let start : Host (σ × List Request) := { world := ⟨s, files, (appliance, [])⟩ }
    SameService (start.run b line.noting turns) (start.run b line.noting turns') := by
  intro start
  have hone := start.foreground_run b line.noting turns (.loopback true)
  have hother := start.foreground_run b line.noting turns' (.loopback true)
  rw [h, ← hother] at hone
  simp only [foreground, World.foreground, BridgeState.foreground, Host.mk.injEq, World.mk.injEq,
    BridgeState.mk.injEq] at hone
  obtain ⟨⟨⟨hprofile, happliance, -, hsettings, -⟩, hleft, hline⟩, hreplies, hfiles, hcalls⟩ :=
    hone
  exact ⟨hreplies, congrArg Prod.snd hline, hcalls, hfiles, hleft, hsettings, happliance, hprofile⟩

/-- A scene call that reads a new value, a write of the zone and a request for the sensors, once
without work and once with passes that announce the device, are refused, put off, and push. -/
theorem same_service_with_pushes :
    let b : Bridge := .sample (some ⟨"venta.toml"⟩)
    -- The data document says that the humidity is 44.
    let body : List UInt8 := [0x7b, 0x22, 0x68, 0x75, 0x6d, 0x22, 0x3a, 0x34, 0x34, 0x7d]
    let line : Line Unit := ⟨"v", fun _ _ => (.response 200 body true, ())⟩
    let scenes : SceneTable := { slots := [⟨5, { fan := some .low }⟩] }
    let profile : Profile := { Profile.sample with scenes }
    let device := b.identity.device.text
    let takes : Transport := .loopback true
    let started : HostTurn := .handle takes .newSession 1
    let called : HostTurn := .handle takes (.callScene [device] 5 false) 2
    let written : HostTurn := .handle takes (.setProperty device [⟨some "zoneID", .uint 7⟩]) 3
    let asked : HostTurn := .handle takes (.getProperty device [⟨some "sensorStates", []⟩]) 4
    let work (t : Transport) : HostTurn := .work t 3 false
    let refuses : Transport := ⟨true, fun _ => .error (.rejected "")⟩
    let without := [started, called, written, asked]
    let withWork := [started, work takes, called, work refuses, work takes, .work takes 3 true,
      written, work takes, work ⟨false, fun _ => .ok ()⟩, asked]
    let start : Host (Unit × List Request) := { world := ⟨.new profile {}, .empty, ((), [])⟩ }
    let one := start.run b line.noting without
    let other := start.run b line.noting withWork
    without.filterMap HostTurn.event? = withWork.filterMap HostTurn.event? ∧
      SameService one other ∧ one.calls.length = 1 ∧ other.calls.length = 5 ∧
        one.requests.length = 3 ∧ one.world.state.profile ≠ other.world.state.profile := by
  intro b body line scenes profile device takes started called written asked work refuses without
    withWork start one other
  have hevents : without.filterMap HostTurn.event? = withWork.filterMap HostTurn.event? := rfl
  refine ⟨hevents, same_service b line hevents (.new profile {}) .empty (), ?_, ?_, ?_, ?_⟩
  · decide +kernel
  · decide +kernel
  · decide +kernel
  · decide +kernel

end Host

end HumidifierBridge
