import HumidifierBridge.Bridge.Events
import HumidifierBridge.Proofs.Passes
import HumidifierBridge.Proofs.Readings

/-!
# Courses of a running bridge

The poller, the host and the bus take turns in any order. An `Action` is one turn, and a `Course`
is what any number of turns lead to: the world, the schedule, and the past, latest turn first. The
past only records; no turn looks at it.

A scene call reads the appliance, takes the report in, asks for a push if that was news, and then
presses buttons, and others may have their turn in between. It is therefore here twice: as an event
that is handled without interruption, and in the parts `refresh`, `flag` and `press`.

`BridgeState.Served` says all that an event can do to the state of the bridge, and
`BridgeState.Kept` what every turn leaves as it is.
-/

namespace HumidifierBridge

/-- A turn of someone who works on the bridge. -/
inductive Action where
  | poll (t : Transport) (now clock : Time)
  /-- A scene call reads the appliance and takes the report in. -/
  | refresh (now : Time)
  /-- A scene call that took news in asks for a push. -/
  | flag
  /-- A scene call presses a button. -/
  | press (button : Button)
  | event (t : Transport) (event : BusEvent) (now : Time)
  | work (t : Transport) (now : Time) (inUse : Bool)
  /-- The appliance counts as there from now on, or as gone. -/
  | presence (present : Bool)

/-- A turn that was taken, with the state of the bridge on either side and the calls it made. -/
structure Moment where
  action : Action
  before : BridgeState
  /-- How many scene calls had taken news in and not yet asked for a push. -/
  unflagged : Nat
  after : BridgeState
  sent : List Sent

/-- A running bridge with its past. -/
structure Course (σ : Type) where
  world : World σ
  schedule : Schedule := {}
  /-- How many scene calls have taken news in and not yet asked for a push. -/
  unflagged : Nat := 0
  /-- The turns that were taken, the latest one first. -/
  past : List Moment := []

namespace Course

variable {σ : Type}

/-- The state of the bridge. -/
abbrev state (c : Course σ) : BridgeState := c.world.state

/-- The course with another state of the bridge. -/
def withState (c : Course σ) (state : BridgeState) : Course σ :=
  { c with world := { c.world with state } }

@[simp] theorem state_withState (c : Course σ) (s : BridgeState) : (c.withState s).state = s := rfl

/-- The course at the start of a bridge. -/
def start (profile : Profile) (settings : Settings) (files : FileTree) (appliance : σ) : Course σ :=
  { world := ⟨.new profile settings, files, appliance⟩ }

variable (b : Bridge) (line : Line σ)

/-- Takes a turn; the second part is the calls that it makes. -/
def act (c : Course σ) : Action → Course σ × List Sent
  | .poll t now clock =>
    let (polled, schedule, appliance) :=
      b.poll line t c.state c.schedule now clock c.world.appliance
    ({ c with world := { c.world with state := polled.state, appliance }, schedule }, polled.sent)
  | .refresh now =>
    let (result, state, appliance) := line.fetchState c.state now c.world.appliance
    let news := match result with
      | .ok true => 1
      | _ => 0
    ({ c with world := { c.world with state, appliance }, unflagged := c.unflagged + news }, [])
  | .flag =>
    match c.unflagged with
    | 0 => (c, [])
    | n + 1 => ({ c.withState { c.state with dirty := true } with unflagged := n }, [])
  | .press button =>
    ({ c with world := { c.world with appliance := (line.press button c.world.appliance).2 } }, [])
  | .event t event now =>
    let handled := b.handle line t event now c.world
    ({ c with world := handled.world }, handled.sent)
  | .work t now inUse =>
    let worked := b.tryWork t c.state now inUse
    (c.withState worked.state, worked.sent)
  | .presence present =>
    (c.withState { c.state with presence := { c.state.presence with present } }, [])

/-- What is noted of a turn. -/
def moment (c : Course σ) (a : Action) : Moment :=
  ⟨a, c.state, c.unflagged, (c.act b line a).1.state, (c.act b line a).2⟩

/-- Takes a turn and notes it. -/
def step (c : Course σ) (a : Action) : Course σ :=
  { (c.act b line a).1 with past := c.moment b line a :: c.past }

/-- Takes turns one after the other. -/
def run (c : Course σ) (actions : List Action) : Course σ := actions.foldl (step b line) c

@[simp] theorem state_step (c : Course σ) (a : Action) :
    (c.step b line a).state = (c.act b line a).1.state := rfl

@[simp] theorem past_step (c : Course σ) (a : Action) :
    (c.step b line a).past = c.moment b line a :: c.past := rfl

/-- What the start has and every turn keeps, every course has. -/
theorem run_induction {P : Course σ → Prop} {c : Course σ} (hc : P c)
    (hstep : ∀ c a, P c → P (c.step b line a)) (actions : List Action) :
    P (c.run b line actions) := by
  induction actions generalizing c with
  | nil => exact hc
  | cons a rest ih => exact ih (hstep c a hc)

end Course

namespace BridgeState

/-- All that an event can do to the state of the bridge. -/
inductive Served : BridgeState → BridgeState → Prop where
  | unchanged (s) : Served s s
  | unannounced (s) : Served s { s with presence := { s.presence with announced := false } }
  /-- Writes of properties reach the two zones. -/
  | zoned (s) (zone bridgeZone : UInt16) :
    Served s { s with
      profile := { s.profile with zone }
      settings := { s.settings with defaultZone := bridgeZone } }
  /-- A scene number was saved. -/
  | saved (s) (scene : Int32) : Served s (Bridge.saveScene s scene).1
  /-- A scene call read the appliance. -/
  | refreshed (s) (result : Except BridgeError DataReport) (now : Time) :
    Served s (s.takeRefresh result now)

end BridgeState

namespace Handler

/-- What is found is in the table. -/
theorem mem_table_of_find? {target : Target} {name : String} {handler : Handler}
    (h : find? target name = some handler) : (name, handler) ∈ table target := by
  obtain ⟨e, he, rfl⟩ := Option.map_eq_some_iff.1 h
  obtain rfl : e.1 = name := by simpa using List.find?_some he
  exact List.mem_of_find?_eq_some he

/-- Of all properties only the two zones can be written. -/
theorem write_of_find? {target : Target} {name : String} {handler : Handler}
    (h : find? target name = some handler) :
    handler.write = none ∨ handler = bridgeZone ∨ handler = deviceZone := by
  have hall : ∀ target, ∀ e ∈ table target,
      e.2.write = none ∨ e.2 = bridgeZone ∨ e.2 = deviceZone := by
    intro target
    cases target <;>
      simp [table, containerTable, deviceTable, readOnly, constant, silent, bridgeZone, deviceZone]
  exact hall target _ (mem_table_of_find? h)

end Handler

namespace BridgeState

theorem setEntry_ok {target : Target} {s s' : BridgeState} {entry : PropertyEntry}
    (h : setEntry target s entry = .ok s') :
    ∃ zone bridgeZone : UInt16, s' = { s with
      profile := { s.profile with zone }
      settings := { s.settings with defaultZone := bridgeZone } } := by
  simp only [setEntry] at h
  split at h
  · cases h
  · rename_i name _
    cases hfind : Handler.find? target name with
    | none => simp [hfind] at h
    | some handler =>
      rcases Handler.write_of_find? hfind with hw | rfl | rfl
      · simp [hfind, hw] at h
      · simp only [hfind, Option.bind_some, Handler.bridgeZone] at h
        split at h
        · cases h
        · rename_i hzone
          obtain ⟨zone, -, rfl⟩ := Option.map_eq_some_iff.1 hzone
          exact ⟨s.profile.zone, zone, by cases h; rfl⟩
      · simp only [hfind, Option.bind_some, Handler.deviceZone] at h
        split at h
        · cases h
        · rename_i hzone
          obtain ⟨zone, -, rfl⟩ := Option.map_eq_some_iff.1 hzone
          exact ⟨zone, s.settings.defaultZone, by cases h; rfl⟩

/-- Whatever is written, only the two zones change. -/
theorem setEntries_state (target : Target) (s : BridgeState) (entries : List PropertyEntry) :
    ∃ zone bridgeZone : UInt16, (setEntries target s entries).1 = { s with
      profile := { s.profile with zone }
      settings := { s.settings with defaultZone := bridgeZone } } := by
  induction entries generalizing s with
  | nil => exact ⟨s.profile.zone, s.settings.defaultZone, rfl⟩
  | cons entry rest ih =>
    simp only [setEntries]
    split
    · rename_i s' hs'
      obtain ⟨_, _, rfl⟩ := setEntry_ok hs'
      obtain ⟨zone, bridgeZone, hrest⟩ := ih _
      exact ⟨zone, bridgeZone, hrest⟩
    · exact ⟨s.profile.zone, s.settings.defaultZone, rfl⟩

end BridgeState

namespace Bridge

variable {σ : Type}

theorem served_setProperties (b : Bridge) (s : BridgeState) (dsuid : String)
    (entries : List PropertyEntry) : s.Served (b.setProperties s dsuid entries).1 := by
  simp only [setProperties]
  split
  · exact .unchanged s
  · rename_i target _
    split
    · exact .unchanged s
    · obtain ⟨zone, bridgeZone, h⟩ := BridgeState.setEntries_state target s entries
      exact h ▸ .zoned s zone bridgeZone

/-- Calling a scene leaves the state as reading the appliance does, or as it was. -/
theorem served_invoke (line : Line σ) (s : BridgeState) (scene : Int32) (now : Time)
    (appliance : σ) : s.Served (line.invoke s scene now appliance).2.1 := by
  simp only [Line.invoke]
  split
  · exact .unchanged s
  · exact .refreshed s (line.fetchReport appliance).1 now

theorem state_setAndPersist (b : Bridge) (dsuid : String) (entries : List PropertyEntry)
    (w : World σ) :
    (b.setAndPersist dsuid entries w).2.state = (b.setProperties w.state dsuid entries).1 := by
  simp only [setAndPersist, persisted]
  split <;> rfl

theorem state_saveAndPersist (b : Bridge) (scene : Int32) (w : World σ) :
    (b.saveAndPersist scene w).2.state = (saveScene w.state scene).1 := by
  simp only [saveAndPersist, persisted]
  split <;> rfl

theorem served_handle (b : Bridge) (line : Line σ) (t : Transport) (event : BusEvent) (now : Time)
    (w : World σ) : w.state.Served (b.handle line t event now w).world.state := by
  cases event with
  | newSession => exact .unannounced _
  | endSession => exact .unannounced _
  | ping dsuid =>
    simp only [handle]
    split <;> exact .unchanged _
  | getProperty dsuid query =>
    simp only [handle]
    split <;> exact .unchanged _
  | setProperty dsuid entries =>
    have h := b.served_setProperties w.state dsuid entries
    rw [← b.state_setAndPersist dsuid entries w] at h
    simp only [handle]
    split <;> rename_i hset <;> simpa only [hset] using h
  | callScene dsuids scene force =>
    simp only [handle]
    split
    · exact served_invoke line w.state scene now w.appliance
    · exact .unchanged _
  | saveScene dsuids scene =>
    simp only [handle]
    split
    · exact b.state_saveAndPersist scene w ▸ .saved w.state scene
    · exact .unchanged _
  | identify dsuid => exact .unchanged _
  | remove dsuid => exact .unchanged _
  | genericRequest dsuid method params =>
    simp only [handle]
    split <;> exact .unchanged _

end Bridge

namespace BridgeState

/-- What every turn leaves as it is: the settings and the profile, except for the two zones, the
readings of the sensors, and a scene that is saved. -/
structure Kept (s s' : BridgeState) : Prop where
  profile : s'.profile = { s.profile with
    zone := s'.profile.zone
    sensors := s'.profile.sensors
    scenes := s'.profile.scenes }
  sensors : s'.profile.sensors.map Sensor.bare = s.profile.sensors.map Sensor.bare
  scenes : s'.profile.scenes = s.profile.scenes ∨
    ∃ scene, s'.profile.scenes = (s.profile.scenes.save scene).1
  settings : s'.settings = { s.settings with defaultZone := s'.settings.defaultZone }

/-- A state with the same profile and settings. -/
theorem Kept.of_eq {s s' : BridgeState} (hprofile : s'.profile = s.profile)
    (hsettings : s'.settings = s.settings) : s.Kept s' :=
  ⟨by rw [hprofile], by rw [hprofile], .inl (by rw [hprofile]), by rw [hsettings]⟩

theorem kept_applyReport (s : BridgeState) (report : DataReport) (now : Time) :
    s.Kept (s.applyReport report now).1 where
  profile := by rw [profile_applyReport]
  sensors := s.map_bare_applyReport report now
  scenes := .inl (s.scenes_applyReport report now)
  settings := rfl

theorem kept_markReported (s : BridgeState) (now : Time) : s.Kept (s.markReported now) where
  profile := rfl
  sensors := s.profile.map_bare_markReported now
  scenes := .inl rfl
  settings := rfl

/-- What waits to be pushed and what the bus was told are neither profile nor settings. -/
theorem Kept.with {s s' : BridgeState} (h : s.Kept s') (dirty : Bool) (presence : Presence) :
    s.Kept { s' with dirty, presence } :=
  ⟨h.profile, h.sensors, h.scenes, h.settings⟩

theorem kept_tried (s : BridgeState) (now : Time) (call : Call) : s.Kept (s.tried now call) := by
  cases call with
  | pushProperty device properties => exact s.kept_markReported now
  | _ => exact .of_eq rfl rfl

theorem Kept.told {s s' : BridgeState} (h : s.Kept s') (call : Call) : s.Kept (s'.told call) := by
  cases call <;> exact h.with _ _

theorem kept_takeRefresh (s : BridgeState) (result : Except BridgeError DataReport) (now : Time) :
    s.Kept (s.takeRefresh result now) := by
  cases result with
  | error e => exact .of_eq rfl rfl
  | ok report => exact (s.kept_applyReport report now).with _ _

theorem Served.kept {s s' : BridgeState} (h : s.Served s') : s.Kept s' := by
  cases h with
  | unchanged => exact .of_eq rfl rfl
  | unannounced => exact .of_eq rfl rfl
  | zoned zone bridgeZone => exact ⟨rfl, rfl, .inl rfl, rfl⟩
  | saved scene => exact ⟨rfl, rfl, .inr ⟨scene, rfl⟩, rfl⟩
  | refreshed result now => exact s.kept_takeRefresh result now

end BridgeState

namespace Bridge

theorem kept_work (b : Bridge) (t : Transport) (s : BridgeState) (now : Time) :
    s.Kept (b.work t s now).state := by
  apply work_induction (P := fun worked => s.Kept worked.state)
  · exact .of_eq rfl rfl
  · exact .of_eq rfl rfl
  · intro call _
    exact s.kept_tried now call
  · intro call _
    exact (s.kept_tried now call).told call

end Bridge

namespace Course

variable {σ : Type} (b : Bridge) (line : Line σ)

theorem kept_act (c : Course σ) (a : Action) : c.state.Kept (c.act b line a).1.state := by
  cases a with
  | poll t now clock =>
    simp only [act, Bridge.poll, Bridge.takePoll]
    split
    · rename_i report _
      exact (c.state.kept_applyReport report now).with _ _
    · exact .of_eq rfl rfl
  | refresh now =>
    simp only [act, Line.fetchState]
    split
    · rename_i report _ _
      exact c.state.kept_applyReport report now
    · exact .of_eq rfl rfl
  | flag =>
    simp only [act]
    split <;> exact .of_eq rfl rfl
  | press button => exact .of_eq rfl rfl
  | event t event now => exact (b.served_handle line t event now c.world).kept
  | work t now inUse =>
    cases inUse with
    | true => exact .of_eq rfl rfl
    | false => exact b.kept_work t c.state now
  | presence present => exact .of_eq rfl rfl

end Course

/-- A bridge with dSUIDs that are easily told apart, for examples. -/
def Bridge.sample (store : Option ConfigStore := none) : Bridge where
  identity := {
    vdc := .repeated ⟨13, by decide⟩
    library := .repeated ⟨14, by decide⟩
    device := .repeated ⟨15, by decide⟩
    hostname := "host" }
  store := store

/-- A profile with one sensor and nothing else of interest, for examples. -/
def Profile.sample : Profile where
  id := "V"
  name := "V"
  address := "v"
  sensors := [{ name := "hum", kind := .humidity, usage := 1 }]

end HumidifierBridge
