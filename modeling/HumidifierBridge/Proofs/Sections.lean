import HumidifierBridge.Config.Load
import HumidifierBridge.Proofs.SceneTables

/-!
# Parts of a configuration

For each part of a configuration file, when it is accepted and what it comes to. The sections of
sensors and scenes are loaded one after the other, and so have a lemma for one section and one for
any number of them.
-/

namespace HumidifierBridge

/-- The parts of a computation that succeeds succeed. -/
theorem bind_eq_ok {ε α β : Type} {x : Except ε α} {f : α → Except ε β} {b : β} :
    x >>= f = .ok b ↔ ∃ a, x = .ok a ∧ f a = .ok b := by
  cases x with
  | error e => simp [bind, Except.bind]
  | ok a => simp [bind, Except.bind]

/-- Sensors in slots, with names that are not blank and not the same up to case. -/
structure SensorsLoadable (sensors : List Sensor) : Prop where
  length_le : sensors.length ≤ Profile.sensorCapacity
  named : ∀ s ∈ sensors, Text.isBlankText s.name = false
  distinct : sensors.Pairwise fun s t => s.isNamed t.name = false

theorem sensorsLoadable_nil : SensorsLoadable [] :=
  ⟨Nat.zero_le _, List.forall_mem_nil _, List.Pairwise.nil⟩

theorem SensorsLoadable.of_append {sensors more : List Sensor}
    (h : SensorsLoadable (sensors ++ more)) : SensorsLoadable sensors where
  length_le := Nat.le_trans (by simp) h.length_le
  named s hs := h.named s (List.mem_append_left more hs)
  distinct := (List.pairwise_append.1 h.distinct).1

/-- The sensor that a section describes. -/
def SensorSection.sensor (s : SensorSection) : Sensor where
  name := s.name
  kind := ⟨s.kind⟩
  usage := s.usage
  active := s.active

namespace SceneSection

/-- The fan may be left out, in two ways, or be at one of its speeds. -/
def FanInRange (s : SceneSection) : Prop :=
  ∀ n ∈ s.fan, n.toInt < 0 ∨ n.toInt = 1 ∨ n.toInt = 2 ∨ n.toInt = 3

/-- The mode that a number sets: none if it is negative, and on if it is positive. -/
def mode (n : Option Int64) : Option Bool :=
  n.bind fun n => if n.toInt < 0 then none else some (0 < n.toInt)

/-- The settings that a section describes. -/
def spec (s : SceneSection) : SceneSpec where
  fan := s.fan.bind fun n => FanSpeed.ofLevel? n.toInt
  sleep := mode s.sleep
  auto := mode s.auto

end SceneSection

namespace Profile

/-- A sensor is added where there is room for it and no other has its name. -/
theorem addSensor_eq_ok {p q : Profile} {s : Sensor} :
    p.addSensor s = .ok q ↔ p.sensors.length < sensorCapacity ∧
      (∀ t ∈ p.sensors, t.isNamed s.name = false) ∧
        q = { p with sensors := p.sensors ++ [s] } := by
  simp only [addSensor]
  split
  · rename_i hfull
    simp [Nat.not_lt.2 hfull]
  · rename_i hroom
    split
    · rename_i hnamed
      obtain ⟨t, ht, hname⟩ := List.any_eq_true.1 hnamed
      simp only [reduceCtorEq, false_iff]
      rintro ⟨-, hnone, -⟩
      simp [hnone t ht] at hname
    · rename_i hnone
      simp only [List.any_eq_true, not_exists, not_and, Bool.not_eq_true] at hnone
      constructor
      · intro h
        cases h
        exact ⟨Nat.not_le.1 hroom, hnone, rfl⟩
      · rintro ⟨-, -, rfl⟩
        rfl

end Profile

namespace ConfigFile

/-! ### Fields -/

theorem loadReload_eq_ok {written : Option UInt64} {seconds : UInt64} :
    loadReload written = .ok seconds ↔
      (∀ n ∈ written, n ≠ 0 ∧ n ≤ Settings.maxReloadSeconds) ∧
        seconds = written.getD Settings.defaultReloadSeconds := by
  cases written with
  | none => simp [loadReload, eq_comm]
  | some n =>
    simp only [loadReload, Option.mem_some_iff, forall_eq', Option.getD_some]
    split
    · rename_i hzero
      simp [hzero]
    · rename_i hzero
      split
      · rename_i hmax
        simp [UInt64.not_le.2 hmax]
      · rename_i hmax
        simp [hzero, UInt64.not_lt.1 hmax, eq_comm]

theorem require_eq_ok {field : String} {text : Option String} {s : String} :
    require field text = .ok s ↔ text = some s ∧ Text.isBlankText s = false := by
  have hblank : nonBlank text = some s ↔ text = some s ∧ Text.isBlankText s = false := by
    simp [nonBlank, Option.filter_eq_some_iff]
  rw [← hblank]
  unfold require
  split
  · rename_i t ht
    simp [ht]
  · rename_i hnone
    simp [hnone]

/-! ### Sections of sensors -/

/-- A section is added as its sensor if the sensors then are as they should be. -/
theorem loadSensor_eq_ok {p q : Profile} (hp : SensorsLoadable p.sensors)
    {s : String × SensorSection} :
    loadSensor p s = .ok q ↔ SensorsLoadable (p.sensors ++ [s.2.sensor]) ∧
      q = { p with sensors := p.sensors ++ [s.2.sensor] } := by
  simp only [loadSensor]
  split
  · rename_i hblank
    simp only [reduceCtorEq, false_iff, not_and]
    intro hall
    have hnamed := hall.named s.2.sensor (by simp)
    simp [SensorSection.sensor, hblank] at hnamed
  · rename_i hnamed
    rw [Bool.not_eq_true] at hnamed
    rw [Profile.addSensor_eq_ok]
    constructor
    · rintro ⟨hroom, hnone, rfl⟩
      refine ⟨⟨by simpa using Nat.succ_le_of_lt hroom, fun t ht => ?_, ?_⟩, rfl⟩
      · rcases List.mem_append.1 ht with ht | ht
        · exact hp.named t ht
        · obtain rfl : t = s.2.sensor := by simpa using ht
          exact hnamed
      · refine List.pairwise_append.2 ⟨hp.distinct, List.pairwise_singleton .., fun t ht u hu => ?_⟩
        obtain rfl : u = s.2.sensor := by simpa using hu
        exact hnone t ht
    · rintro ⟨hall, rfl⟩
      refine ⟨by simpa [Nat.succ_le_iff] using hall.length_le, fun t ht => ?_, rfl⟩
      exact (List.pairwise_append.1 hall.distinct).2.2 t ht s.2.sensor (by simp)

/-- So are sections one after the other. -/
theorem foldlM_loadSensor_eq_ok {sections : List (String × SensorSection)} {p q : Profile}
    (hp : SensorsLoadable p.sensors) :
    sections.foldlM loadSensor p = .ok q ↔
      SensorsLoadable (p.sensors ++ sections.map fun s => s.2.sensor) ∧
        q = { p with sensors := p.sensors ++ sections.map fun s => s.2.sensor } := by
  induction sections generalizing p with
  | nil =>
    simp only [List.foldlM_nil, List.map_nil, List.append_nil, hp, true_and]
    exact ⟨fun h => by cases h; rfl, fun h => by rw [h]; rfl⟩
  | cons s rest ih =>
    have happend : p.sensors ++ (s :: rest).map (fun s => s.2.sensor) =
        (p.sensors ++ [s.2.sensor]) ++ rest.map fun s => s.2.sensor := by simp
    rw [List.foldlM_cons, bind_eq_ok, happend]
    constructor
    · rintro ⟨next, hnext, hrest⟩
      obtain ⟨hall, rfl⟩ := (loadSensor_eq_ok hp).1 hnext
      exact (ih hall).1 hrest
    · rintro ⟨hall, rfl⟩
      have hnext := hall.of_append
      exact ⟨_, (loadSensor_eq_ok hp).2 ⟨hnext, rfl⟩, (ih hnext).2 ⟨hall, rfl⟩⟩

/-! ### Sections of scenes -/

theorem loadFlag_eq_mode (n : Option Int64) : loadFlag n = SceneSection.mode n := by
  cases n with
  | none => rfl
  | some n =>
    by_cases hneg : n.toInt < 0
    · simp [loadFlag, nonNegative, SceneSection.mode, Option.filter, hneg, Int.not_le.2 hneg]
    · simp [loadFlag, nonNegative, SceneSection.mode, Option.filter, hneg, Int.not_lt.1 hneg]

/-- The numbers that speeds go by. -/
theorem isSome_ofLevel?_iff {n : Int} :
    (FanSpeed.ofLevel? n).isSome = true ↔ n = 1 ∨ n = 2 ∨ n = 3 := by
  unfold FanSpeed.ofLevel?
  split
  · simp
  · simp
  · simp
  · rename_i h1 h2 h3
    simpa using ⟨h1, h2, h3⟩

/-- The settings of a section are loaded if its fan is in range. -/
theorem loadSpec_eq_ok {s : String × SceneSection} {spec : SceneSpec} :
    loadSpec s = .ok spec ↔ s.2.FanInRange ∧ spec = s.2.spec := by
  obtain ⟨key, number, fan, auto, sleep⟩ := s
  simp only [loadSpec, loadFlag_eq_mode, SceneSection.FanInRange, SceneSection.spec]
  cases fan with
  | none => simp [nonNegative, eq_comm]
  | some n =>
    have hlevel := isSome_ofLevel?_iff (n := n.toInt)
    by_cases hneg : n.toInt < 0
    · have hnone : FanSpeed.ofLevel? n.toInt = none := by
        rw [← Option.not_isSome_iff_eq_none, hlevel]
        omega
      simp [nonNegative, Option.filter, hneg, Int.not_le.2 hneg, hnone, eq_comm]
    · have hnonneg : nonNegative (some n) = some n.toInt := by
        simp [nonNegative, Option.filter, Int.not_lt.1 hneg]
      simp only [hnonneg, FanSpeed.ofLevel, Option.mem_some_iff, forall_eq', Option.bind_some,
        hneg, false_or, ← hlevel]
      cases FanSpeed.ofLevel? n.toInt with
      | none => simp
      | some speed => simp [eq_comm]

/-- The request to a table that a section makes. -/
def sceneRequest (s : SceneSection) : SceneTable.Request := .insert s.number s.spec

/-- A section is added as a scene if its fan is in range. -/
theorem loadScene_eq_ok {t u : SceneTable} {s : String × SceneSection} :
    loadScene t s = .ok u ↔ s.2.FanInRange ∧ u = (t.take (sceneRequest s.2)).1 := by
  cases hload : loadSpec s with
  | ok spec =>
    obtain ⟨hrange, rfl⟩ := loadSpec_eq_ok.1 hload
    simp only [loadScene, hload, Except.ok.injEq, hrange, true_and]
    exact eq_comm
  | error e =>
    have hrange : ¬ s.2.FanInRange := fun hrange => by
      have hok := loadSpec_eq_ok.2 ⟨hrange, rfl⟩
      simp [hload] at hok
    simp [loadScene, hload, hrange]

/-- So are sections one after the other. -/
theorem foldlM_loadScene_eq_ok {sections : List (String × SceneSection)} {t u : SceneTable} :
    sections.foldlM loadScene t = .ok u ↔
      (∀ s ∈ sections.map Prod.snd, s.FanInRange) ∧
        u = t.takeAll ((sections.map Prod.snd).map sceneRequest) := by
  induction sections generalizing t with
  | nil =>
    simp only [List.foldlM_nil, List.map_nil, List.not_mem_nil, false_implies, implies_true,
      true_and]
    exact ⟨fun h => by cases h; rfl, fun h => by rw [h]; rfl⟩
  | cons s rest ih =>
    rw [List.foldlM_cons, bind_eq_ok]
    constructor
    · rintro ⟨next, hnext, hrest⟩
      obtain ⟨hrange, rfl⟩ := loadScene_eq_ok.1 hnext
      obtain ⟨hall, rfl⟩ := ih.1 hrest
      exact ⟨by simpa [hrange] using hall, rfl⟩
    · rintro ⟨hall, rfl⟩
      obtain ⟨hrange, hrest⟩ := List.forall_mem_cons.1 hall
      exact ⟨_, loadScene_eq_ok.2 ⟨hrange, rfl⟩, ih.2 ⟨hrest, rfl⟩⟩

end ConfigFile

end HumidifierBridge
