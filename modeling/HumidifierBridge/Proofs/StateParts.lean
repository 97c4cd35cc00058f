import HumidifierBridge.Proofs.Course

/-!
# Parts of the state

Those who work on a bridge look at different parts of its state. Reports look at the readings and
the operating state, requests of the bus write the zones and the scenes, and only passes of work
look at what waits to be pushed and at what the bus was told, and when.

A change to a part that someone does not look at can be made before or after, which is what the
lemmas here say: `foldl_offer_comm` of the values of a report and `setEntries_comm` of the entries
of a request, for any change that goes along with the single step. `Bridge.state_handle_cases` says
which part an event can change.
-/

namespace HumidifierBridge

/-- The sensor without the time of its last push. -/
def Sensor.unreported (s : Sensor) : Sensor :=
  { s with reading := { s.reading with lastReported := none } }

namespace Profile

/-- The profile without the times of the last pushes. -/
def unreported (p : Profile) : Profile := { p with sensors := p.sensors.map Sensor.unreported }

/-- Changing the first element that satisfies a test goes along with a map that the test and the
change do not notice. -/
theorem modifyFirst_map {α : Type} {test : α → Bool} {f g : α → α}
    (htest : ∀ a, test (g a) = test a) (hcomm : ∀ a, f (g a) = g (f a)) (l : List α) :
    modifyFirst test f (l.map g) = (modifyFirst test f l).map g := by
  induction l with
  | nil => rfl
  | cons a rest ih =>
    simp only [List.map_cons, modifyFirst, htest]
    split
    · rw [hcomm, List.map_cons]
    · rw [ih, List.map_cons]

theorem findSensor?_unreported (p : Profile) (name : String) :
    p.unreported.findSensor? name = (p.findSensor? name).map Sensor.unreported := by
  rw [findSensor?, unreported, List.find?_map]
  rfl

/-- A reading does not depend on the times of the last pushes, nor does it change them. -/
theorem recordReading_unreported (p : Profile) (name : String) (value : Binary64) (now : Time) :
    p.unreported.recordReading name value now =
      ((p.recordReading name value now).1.unreported, (p.recordReading name value now).2) := by
  have htest : ∀ s : Sensor, answersTo name s.unreported = answersTo name s := fun _ => rfl
  have hfind := p.findSensor?_unreported name
  have hsensors := modifyFirst_map (f := fun s => { s with reading := s.reading.record value now })
    htest (fun _ => rfl) p.sensors
  simp only [recordReading, hfind, Option.map_map]
  simp only [unreported, hsensors]
  rfl

theorem unreported_markReported (p : Profile) (now : Time) :
    (p.markReported now).unreported = p.unreported := by
  simp only [unreported, markReported, List.map_map]
  congr 1
  refine List.map_congr_left fun s _ => ?_
  simp only [Function.comp_apply]
  split <;> rfl

end Profile

namespace BridgeState

/-- The state with other zones and scenes, which requests of the bus write. -/
def configured (s : BridgeState) (zone : UInt16) (scenes : SceneTable) (bridgeZone : UInt16) :
    BridgeState :=
  { s with
    profile := { s.profile with zone, scenes }
    settings := { s.settings with defaultZone := bridgeZone } }

/-- The state with other readings, which polls write. -/
def withReadings (s : BridgeState) (sensors : List Sensor) (appliance : OperatingState)
    (dirty : Bool) : BridgeState :=
  { s with profile := { s.profile with sensors }, appliance, dirty }

/-- The state without what only passes of work look at. -/
def foreground (s : BridgeState) : BridgeState :=
  { s with profile := s.profile.unreported, dirty := false, presence := {} }

/-- A change of the profile that goes along with one reading goes along with a report. -/
theorem foldl_offer_comm {g : Profile → Profile}
    (hg : ∀ p name value now, (g p).recordReading name value now =
      (g (p.recordReading name value now).1, (p.recordReading name value now).2))
    (now : Time) (values : List (String × Binary64)) (s : Profile × Bool) :
    values.foldl (offer now) (g s.1, s.2) =
      (g (values.foldl (offer now) s).1, (values.foldl (offer now) s).2) := by
  induction values generalizing s with
  | nil => rfl
  | cons v rest ih =>
    have hoffer : offer now (g s.1, s.2) v = (g (offer now s v).1, (offer now s v).2) := by
      simp only [offer, hg]
    rw [List.foldl_cons, List.foldl_cons, hoffer, ih]

/-- A report does not look at zones and scenes. -/
theorem applyReport_configured (s : BridgeState) (zone : UInt16) (scenes : SceneTable)
    (bridgeZone : UInt16) (report : DataReport) (now : Time) :
    (s.configured zone scenes bridgeZone).applyReport report now =
      ((s.applyReport report now).1.configured zone scenes bridgeZone,
        (s.applyReport report now).2) := by
  have h := foldl_offer_comm (g := fun p => { p with zone, scenes }) (fun _ _ _ _ => rfl) now
    report.values (s.profile, false)
  simp only [applyReport, configured] at h ⊢
  rw [h]

/-- Nor does it look at what only passes of work look at. -/
theorem applyReport_foreground (s : BridgeState) (report : DataReport) (now : Time) :
    s.foreground.applyReport report now =
      ((s.applyReport report now).1.foreground, (s.applyReport report now).2) := by
  have h := foldl_offer_comm Profile.recordReading_unreported now report.values (s.profile, false)
  simp only [applyReport, foreground] at h ⊢
  rw [h]

/-- A change of the state that goes along with setting the zone of the device and that of the
bridge. -/
structure ZoneNeutral (g : BridgeState → BridgeState) : Prop where
  device : ∀ s (zone : UInt16), g { s with profile := { s.profile with zone } } =
    { g s with profile := { (g s).profile with zone } }
  bridge : ∀ s (zone : UInt16), g { s with settings := { s.settings with defaultZone := zone } } =
    { g s with settings := { (g s).settings with defaultZone := zone } }

theorem zoneNeutral_withReadings (sensors : List Sensor) (appliance : OperatingState)
    (dirty : Bool) : ZoneNeutral (withReadings · sensors appliance dirty) :=
  ⟨fun _ _ => rfl, fun _ _ => rfl⟩

theorem zoneNeutral_foreground : ZoneNeutral foreground := ⟨fun _ _ => rfl, fun _ _ => rfl⟩

namespace ZoneNeutral

variable {g : BridgeState → BridgeState} (hg : ZoneNeutral g)
include hg

/-- It goes along with writing an entry. -/
theorem setEntry_comm (target : Target) (s : BridgeState) (entry : PropertyEntry) :
    setEntry target (g s) entry = (setEntry target s entry).map g := by
  simp only [setEntry]
  cases entry.name with
  | none => rfl
  | some name =>
    dsimp only
    cases hfind : Handler.find? target name with
    | none => rfl
    | some handler =>
      rcases Handler.write_of_find? hfind with hw | rfl | rfl
      · rw [Option.bind_some, hw]
        rfl
      · simp only [Option.bind_some, Handler.bridgeZone]
        cases Handler.zone? entry.value with
        | none => rfl
        | some zone => exact congrArg Except.ok (hg.bridge s zone).symm
      · simp only [Option.bind_some, Handler.deviceZone]
        cases Handler.zone? entry.value with
        | none => rfl
        | some zone => exact congrArg Except.ok (hg.device s zone).symm

/-- So it goes along with writing any number of entries. -/
theorem setEntries_comm (target : Target) (s : BridgeState) (entries : List PropertyEntry) :
    setEntries target (g s) entries =
      (g (setEntries target s entries).1, (setEntries target s entries).2) := by
  induction entries generalizing s with
  | nil => rfl
  | cons entry rest ih =>
    simp only [setEntries, hg.setEntry_comm]
    cases setEntry target s entry with
    | error code => rfl
    | ok s' => exact ih s'

/-- And so with a request. -/
theorem setProperties_comm (b : Bridge) (s : BridgeState) (dsuid : String)
    (entries : List PropertyEntry) :
    b.setProperties (g s) dsuid entries =
      (g (b.setProperties s dsuid entries).1, (b.setProperties s dsuid entries).2) := by
  simp only [Bridge.setProperties]
  cases b.identity.target dsuid with
  | none => rfl
  | some target =>
    by_cases hempty : entries.isEmpty = true
    · simp [hempty]
    · simp [hempty, hg.setEntries_comm]

end ZoneNeutral

end BridgeState

/-! ### Events -/

/-- Does a session start or end? -/
def BusEvent.changesSession : BusEvent → Bool
  | .newSession => true
  | .endSession => true
  | _ => false

namespace Bridge

variable {σ : Type}

/-- Does the event call a scene that is in the table? -/
def callsScene (b : Bridge) (event : BusEvent) (s : BridgeState) : Bool :=
  match event with
  | .callScene dsuids scene _ =>
    b.addressesDevice dsuids && (s.profile.scenes.get? scene).isSome
  | _ => false

theorem configured_setProperties (b : Bridge) (s : BridgeState) (dsuid : String)
    (entries : List PropertyEntry) :
    ∃ zone bridgeZone : UInt16,
      (b.setProperties s dsuid entries).1 = s.configured zone s.profile.scenes bridgeZone := by
  simp only [setProperties]
  cases b.identity.target dsuid with
  | none => exact ⟨s.profile.zone, s.settings.defaultZone, rfl⟩
  | some target =>
    by_cases hempty : entries.isEmpty = true
    · exact ⟨s.profile.zone, s.settings.defaultZone, by simp only [hempty, if_true]; rfl⟩
    · obtain ⟨zone, bridgeZone, h⟩ := BridgeState.setEntries_state target s entries
      refine ⟨zone, bridgeZone, ?_⟩
      simp only [hempty, if_false, Bool.false_eq_true, h]
      rfl

/-- All that an event can do to the state, and when. -/
theorem state_handle_cases (b : Bridge) (line : Line σ) (t : Transport) (event : BusEvent)
    (now : Time) (w : World σ) :
    let after := (b.handle line t event now w).world.state
    (event.changesSession = true ∧ after = (unannounced w).state) ∨
      (∃ zone scenes bridgeZone, after = w.state.configured zone scenes bridgeZone) ∨
        (b.callsScene event w.state = true ∧
          after = w.state.takeRefresh (line.fetchReport w.appliance).1 now) := by
  intro after
  have hunchanged : after = w.state →
      ∃ zone scenes bridgeZone, after = w.state.configured zone scenes bridgeZone :=
    fun h => ⟨w.state.profile.zone, w.state.profile.scenes, w.state.settings.defaultZone, h⟩
  cases event with
  | newSession => exact .inl ⟨rfl, rfl⟩
  | endSession => exact .inl ⟨rfl, rfl⟩
  | ping dsuid =>
    refine .inr (.inl (hunchanged ?_))
    simp only [after, handle]
    split <;> rfl
  | getProperty dsuid query =>
    refine .inr (.inl (hunchanged ?_))
    simp only [after, handle]
    split <;> rfl
  | setProperty dsuid entries =>
    obtain ⟨zone, bridgeZone, hset⟩ := b.configured_setProperties w.state dsuid entries
    rw [← b.state_setAndPersist dsuid entries w] at hset
    refine .inr (.inl ⟨zone, w.state.profile.scenes, bridgeZone, ?_⟩)
    simp only [after, handle]
    split <;> rename_i hcase <;> simpa only [hcase] using hset
  | callScene dsuids scene force =>
    by_cases hdevice : b.addressesDevice dsuids = true
    · cases hscene : w.state.profile.scenes.get? scene with
      | none =>
        refine .inr (.inl (hunchanged ?_))
        simp only [after, handle, hdevice, if_true, Line.invoke, hscene]
      | some spec =>
        refine .inr (.inr ⟨?_, ?_⟩)
        · simp only [callsScene, hdevice, hscene, Option.isSome_some, Bool.and_self]
        · simp only [after, handle, hdevice, if_true, Line.invoke, hscene]
    · refine .inr (.inl (hunchanged ?_))
      simp only [after, handle, hdevice, if_false, Bool.false_eq_true]
  | saveScene dsuids scene =>
    by_cases hdevice : b.addressesDevice dsuids = true
    · refine .inr (.inl ⟨w.state.profile.zone, (w.state.profile.scenes.save scene).1,
        w.state.settings.defaultZone, ?_⟩)
      simp only [after, handle, hdevice, if_true, b.state_saveAndPersist scene w]
      rfl
    · refine .inr (.inl (hunchanged ?_))
      simp only [after, handle, hdevice, if_false, Bool.false_eq_true]
  | identify dsuid => exact .inr (.inl (hunchanged rfl))
  | remove dsuid => exact .inr (.inl (hunchanged rfl))
  | genericRequest dsuid method params =>
    refine .inr (.inl (hunchanged ?_))
    simp only [after, handle]
    split <;> rfl

end Bridge

end HumidifierBridge
