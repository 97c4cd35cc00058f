import HumidifierBridge.Proofs.StateParts

/-!
# Polls between writes of the bus

The poller and the bus both write the state. A request of the bus that writes takes three steps: it
changes the state, the configuration file is made from the state, and the file is stored. Polls can
fall between the steps of a request as well as between requests. `Desk.run_eq_of_interleaves` says
that it does not matter where they fall.

A step and a poll commute because each goes along with what the other writes: a poll with zones and
scenes (`takePoll_configured`), a change with readings (`WriteRequest.IsConfiguring`), and the file
shows no readings.
-/

namespace HumidifierBridge

/-- A request of the bus that writes. -/
inductive WriteRequest where
  | setProperty (dsuid : String) (entries : List PropertyEntry)
  | saveScene (dsuids : List String) (scene : Int32)

/-- The event that brings a request. -/
def WriteRequest.event : WriteRequest → BusEvent
  | .setProperty dsuid entries => .setProperty dsuid entries
  | .saveScene dsuids scene => .saveScene dsuids scene

/-- One step of a request. -/
inductive WriteStep where
  /-- The request changes the state. -/
  | change (request : WriteRequest)
  /-- If the change is to be stored, the configuration file is made from the state. -/
  | render
  /-- If a configuration file was made, it is stored. -/
  | store

/-- The steps of a request, in order. -/
def WriteRequest.steps (r : WriteRequest) : List WriteStep := [.change r, .render, .store]

/-- A poll whose answer is there. -/
structure PollTurn where
  transport : Transport
  result : Except BridgeError DataReport
  now : Time
  clock : Time

/-- How far the latest request is. -/
inductive Progress where
  | done
  /-- The state was changed, which is to be stored. -/
  | changed
  /-- The configuration file was made, and is to be stored. -/
  | rendered (file : ConfigFile)

/-- What polls and requests work on, and what came of them so far. -/
structure Desk where
  state : BridgeState
  files : FileTree
  schedule : Schedule := {}
  progress : Progress := .done
  /-- The replies to the requests. -/
  replies : List Reply := []
  /-- What became of the scenes to be saved. -/
  saves : List SaveOutcome := []
  /-- What became of the files to be stored. -/
  stored : List (Except ConfigError Unit) := []
  /-- What became of the polls, and the calls that they made. -/
  polls : List (PollOutcome × List Sent) := []

namespace Desk

variable (b : Bridge)

/-- Takes the result of a poll and schedules the next one. -/
def poll (d : Desk) (p : PollTurn) : Desk :=
  let polled := b.takePoll p.transport d.state p.result p.now
  { d with
    state := polled.state
    schedule := d.schedule.record polled.outcome p.clock d.state.settings.reloadSeconds
      d.state.settings.reloadMillis
    polls := d.polls ++ [(polled.outcome, polled.sent)] }

/-- Changes the state as a request says. -/
def change (d : Desk) : WriteRequest → Desk
  | .setProperty dsuid entries =>
    let (state, code) := b.setProperties d.state dsuid entries
    { d with
      state
      progress := if code = some .ok then .changed else .done
      replies := d.replies ++ [code.elim .none .code] }
  | .saveScene dsuids scene =>
    if b.addressesDevice dsuids then
      let (state, outcome) := Bridge.saveScene d.state scene
      { d with
        state
        progress := if outcome = .full then .done else .changed
        replies := d.replies ++ [.none]
        saves := d.saves ++ [outcome] }
    else { d with progress := .done, replies := d.replies ++ [.none] }

/-- Makes the configuration file. -/
def render (d : Desk) : Desk :=
  match d.progress with
  | .changed => { d with progress := .rendered (b.configFile d.state) }
  | _ => d

/-- Stores the configuration file, if there is a store. -/
def store (d : Desk) : Desk :=
  match d.progress with
  | .rendered file =>
    let (result, files) := match b.store with
      | some store => store.save file d.files
      | none => (.ok (), d.files)
    { d with files, progress := .done, stored := d.stored ++ [result] }
  | _ => d

/-- Takes a step of a request. -/
def write (d : Desk) : WriteStep → Desk
  | .change request => d.change b request
  | .render => d.render b
  | .store => d.store b

/-- Takes a turn. -/
def turn (d : Desk) : PollTurn ⊕ WriteStep → Desk
  | .inl p => d.poll b p
  | .inr w => d.write b w

/-- Takes turns one after the other. -/
def run (d : Desk) (turns : List (PollTurn ⊕ WriteStep)) : Desk := turns.foldl (turn b) d

/-- A change that is to be stored is stored by the next two steps. -/
theorem store_render_of_changed {d : Desk} (h : d.progress = .changed) :
    ((d.render b).store b).state = d.state ∧ ((d.render b).store b).replies = d.replies ∧
      ((d.render b).store b).files = (b.persist d.state d.files).2 := by
  simp only [render, h, store, Bridge.persist]
  cases b.store <;> simp

/-- Where there is nothing to be stored, they do nothing. -/
theorem store_render_of_done {d : Desk} (h : d.progress = .done) : (d.render b).store b = d := by
  simp only [render, h, store]

/-- Without interruption, the steps of a request do what handling its event does. -/
theorem handle_eq_steps {σ : Type} (line : Line σ) (t : Transport) (r : WriteRequest) (now : Time)
    (d : Desk) (appliance : σ) :
    let handled := b.handle line t r.event now ⟨d.state, d.files, appliance⟩
    let written := d.run b (r.steps.map .inr)
    handled.world = ⟨written.state, written.files, appliance⟩ ∧
      written.replies = d.replies ++ [handled.reply] ∧ handled.sent = [] := by
  simp only [WriteRequest.steps, run, List.map_cons, List.map_nil, List.foldl_cons, List.foldl_nil,
    turn, write]
  cases r with
  | setProperty dsuid entries =>
    simp only [WriteRequest.event, Bridge.handle, Bridge.setAndPersist]
    rcases hset : b.setProperties d.state dsuid entries with ⟨state, code⟩
    by_cases hcode : code = some .ok
    · obtain ⟨hstate, hreplies, hfiles⟩ := store_render_of_changed b
        (d := d.change b (.setProperty dsuid entries)) (by simp [change, hset, hcode])
      rw [hstate, hreplies, hfiles]
      simp [change, hset, hcode, Bridge.persisted]
    · rw [store_render_of_done b (by simp [change, hset, hcode])]
      cases code <;> simp_all [change]
  | saveScene dsuids scene =>
    simp only [WriteRequest.event, Bridge.handle, Bridge.saveAndPersist]
    by_cases hdevice : b.addressesDevice dsuids = true
    · by_cases hfull : (Bridge.saveScene d.state scene).2 = .full
      · rw [store_render_of_done b (by simp [change, hdevice, hfull])]
        simp [change, hdevice, hfull]
      · obtain ⟨hstate, hreplies, hfiles⟩ := store_render_of_changed b
          (d := d.change b (.saveScene dsuids scene)) (by simp [change, hdevice, hfull])
        rw [hstate, hreplies, hfiles]
        simp [change, hdevice, hfull, Bridge.persisted]
    · rw [store_render_of_done b (by simp [change, hdevice])]
      simp [change, hdevice]

end Desk

/-! ### What polls and requests write -/

namespace BridgeState

/-- A request writes zones and scenes only, and does not look at readings. -/
structure IsConfiguring {α : Type} (f : BridgeState → BridgeState × α) : Prop where
  configured : ∀ s, ∃ zone scenes bridgeZone, (f s).1 = s.configured zone scenes bridgeZone
  withReadings : ∀ s sensors appliance dirty, f (s.withReadings sensors appliance dirty) =
    ((f s).1.withReadings sensors appliance dirty, (f s).2)

theorem isConfiguring_setProperties (b : Bridge) (dsuid : String) (entries : List PropertyEntry) :
    IsConfiguring (b.setProperties · dsuid entries) where
  configured s := by
    obtain ⟨zone, bridgeZone, h⟩ := b.configured_setProperties s dsuid entries
    exact ⟨zone, s.profile.scenes, bridgeZone, h⟩
  withReadings s sensors appliance dirty :=
    (zoneNeutral_withReadings sensors appliance dirty).setProperties_comm b s dsuid entries

theorem isConfiguring_saveScene (scene : Int32) : IsConfiguring (Bridge.saveScene · scene) where
  configured s := ⟨s.profile.zone, (s.profile.scenes.save scene).1, s.settings.defaultZone, rfl⟩
  withReadings _ _ _ _ := rfl

/-- A poll does not look at zones and scenes. -/
theorem takePoll_configured (b : Bridge) (t : Transport) (s : BridgeState) (zone : UInt16)
    (scenes : SceneTable) (bridgeZone : UInt16) (result : Except BridgeError DataReport)
    (now : Time) :
    b.takePoll t (s.configured zone scenes bridgeZone) result now =
      { b.takePoll t s result now with
        state := (b.takePoll t s result now).state.configured zone scenes bridgeZone } := by
  cases result with
  | error e => rfl
  | ok report =>
    simp only [Bridge.takePoll, applyReport_configured]
    rfl

/-- A poll writes readings only, and of the sensors nothing else. -/
theorem takePoll_state (b : Bridge) (t : Transport) (s : BridgeState)
    (result : Except BridgeError DataReport) (now : Time) :
    ∃ sensors appliance dirty,
      (b.takePoll t s result now).state = s.withReadings sensors appliance dirty ∧
        sensors.map Sensor.bare = s.profile.sensors.map Sensor.bare := by
  cases result with
  | error e => exact ⟨s.profile.sensors, s.appliance, false, rfl, rfl⟩
  | ok report =>
    refine ⟨_, (s.applyReport report now).1.appliance, (s.applyReport report now).2, ?_,
      s.map_bare_applyReport report now⟩
    have hprofile := s.profile_applyReport report now
    simp only [Bridge.takePoll, withReadings]
    rw [← hprofile]
    rfl

/-- A poll and a request can be made in either order. -/
theorem IsConfiguring.takePoll_comm {α : Type} {f : BridgeState → BridgeState × α}
    (hf : IsConfiguring f) (b : Bridge) (t : Transport) (s : BridgeState)
    (result : Except BridgeError DataReport) (now : Time) :
    let polled := b.takePoll t s result now
    f polled.state = ((b.takePoll t (f s).1 result now).state, (f s).2) ∧
      (b.takePoll t (f s).1 result now).outcome = polled.outcome ∧
        (b.takePoll t (f s).1 result now).sent = polled.sent ∧
          (f s).1.settings.reloadSeconds = s.settings.reloadSeconds ∧
            (f s).1.settings.reloadMillis = s.settings.reloadMillis := by
  obtain ⟨zone, scenes, bridgeZone, hconfigured⟩ := hf.configured s
  obtain ⟨sensors, appliance, dirty, hstate, -⟩ := takePoll_state b t s result now
  rw [hconfigured, takePoll_configured]
  refine ⟨?_, rfl, rfl, rfl, rfl⟩
  simp only [hstate, hf.withReadings, hconfigured]
  rfl

/-- The configuration file does not show what a poll writes. -/
theorem configFile_takePoll (b : Bridge) (t : Transport) (s : BridgeState)
    (result : Except BridgeError DataReport) (now : Time) :
    b.configFile (b.takePoll t s result now).state = b.configFile s := by
  obtain ⟨sensors, appliance, dirty, hstate, hbare⟩ := takePoll_state b t s result now
  have hsection : ∀ sensors : List Sensor, sensors.map ConfigFile.sensorSection =
      (sensors.map Sensor.bare).map ConfigFile.sensorSection := by
    intro sensors
    rw [List.map_map]
    rfl
  rw [hstate]
  simp only [Bridge.configFile, ConfigFile.ofParts, withReadings]
  rw [hsection sensors, hbare, ← hsection]

end BridgeState

namespace Desk

variable (b : Bridge)

open BridgeState (isConfiguring_setProperties isConfiguring_saveScene)

/-- **A poll and a step of a request can be taken in either order.** -/
theorem poll_write (d : Desk) (p : PollTurn) (w : WriteStep) :
    (d.poll b p).write b w = (d.write b w).poll b p := by
  cases w with
  | change request =>
    cases request with
    | setProperty dsuid entries =>
      obtain ⟨hstate, houtcome, hsent, hseconds, hmillis⟩ :=
        (isConfiguring_setProperties b dsuid entries).takePoll_comm b p.transport d.state p.result
          p.now
      simp only [write, change, poll, hstate, houtcome, hsent, hseconds, hmillis]
    | saveScene dsuids scene =>
      obtain ⟨hstate, houtcome, hsent, hseconds, hmillis⟩ :=
        (isConfiguring_saveScene scene).takePoll_comm b p.transport d.state p.result p.now
      by_cases hdevice : b.addressesDevice dsuids = true
      · simp only [write, change, poll, hdevice, if_true, hstate, houtcome, hsent, hseconds,
          hmillis]
      · simp only [write, change, poll, hdevice, if_false, Bool.false_eq_true]
  | render =>
    obtain ⟨state, files, schedule, progress, replies, saves, stored, polls⟩ := d
    cases progress with
    | done => rfl
    | rendered file => rfl
    | changed => simp only [write, render, poll, BridgeState.configFile_takePoll]
  | store =>
    obtain ⟨state, files, schedule, progress, replies, saves, stored, polls⟩ := d
    cases progress <;> rfl

/-- All polls may be made first. -/
theorem run_eq_polls_then_writes (d : Desk) (turns : List (PollTurn ⊕ WriteStep)) :
    d.run b turns = (turns.filterMap Sum.getRight?).foldl (write b)
      ((turns.filterMap Sum.getLeft?).foldl (poll b) d) := by
  induction turns generalizing d with
  | nil => rfl
  | cons turn rest ih =>
    cases turn with
    | inl p => exact ih (d.poll b p)
    | inr w =>
      -- The step goes past the polls one by one.
      have hpast : (rest.filterMap Sum.getLeft?).foldl (poll b) (d.write b w) =
          ((rest.filterMap Sum.getLeft?).foldl (poll b) d).write b w :=
        List.foldl_hom (write b · w) fun (d : Desk) p => (d.poll_write b p w).symm
      have hrest := ih (d.write b w)
      rw [hpast] at hrest
      exact hrest

/-- The turns are these polls and these requests, each in their order. -/
structure Interleaves (turns : List (PollTurn ⊕ WriteStep)) (polls : List PollTurn)
    (requests : List WriteRequest) : Prop where
  polls : turns.filterMap Sum.getLeft? = polls
  requests : turns.filterMap Sum.getRight? = requests.flatMap WriteRequest.steps

/-- **Polls and requests may fall in any order.** Two interleavings of the same polls and the same
requests lead to the same state and the same files, the same schedule, and the same replies and
outcomes of requests, saved scenes, stores and polls. -/
theorem run_eq_of_interleaves {polls : List PollTurn} {requests : List WriteRequest}
    {turns turns' : List (PollTurn ⊕ WriteStep)} (h : Interleaves turns polls requests)
    (h' : Interleaves turns' polls requests) (d : Desk) : d.run b turns = d.run b turns' := by
  rw [run_eq_polls_then_writes, run_eq_polls_then_writes, h.polls, h.requests, h'.polls,
    h'.requests]

/-- Polls made before a request, or between its change of the state and the making of the file, and
before the file is stored. -/
theorem run_with_polls_in_between :
    let b : Bridge := .sample (some ⟨"venta.toml"⟩)
    let d : Desk := { state := .new .sample {}, files := .empty }
    let read : PollTurn :=
      ⟨.loopback true, .ok ⟨{ humidity := some 44 }, [("hum", .ofInt 44)]⟩, 1, 1⟩
    let failed : PollTurn :=
      ⟨.loopback true, .error (.protocol (.http .noAnswer)), 2, 2⟩
    let zone : WriteRequest := .setProperty b.identity.device.text [⟨some "zoneID", .uint 7⟩]
    let early := [.inl read, .inl failed, .inr (.change zone), .inr .render, .inr .store]
    let between := [.inr (.change zone), .inl read, .inr .render, .inl failed, .inr .store]
    Interleaves early [read, failed] [zone] ∧ Interleaves between [read, failed] [zone] ∧
      d.run b early = d.run b between ∧
        (d.run b between).state.profile.zone = 7 ∧ (d.run b between).stored.length = 1 := by
  intro b d read failed zone early between
  have hearly : Interleaves early [read, failed] [zone] := ⟨rfl, rfl⟩
  have hbetween : Interleaves between [read, failed] [zone] := ⟨rfl, rfl⟩
  refine ⟨hearly, hbetween, run_eq_of_interleaves b hearly hbetween d, ?_, ?_⟩
  · decide +kernel
  · decide +kernel

end Desk

end HumidifierBridge
