import HumidifierBridge.Proofs.DsUids
import HumidifierBridge.Proofs.KeyMaps
import HumidifierBridge.Proofs.Sections
import Mathlib.Data.List.Basic
import Mathlib.Data.List.Induction
import Mathlib.Data.Nat.Find

/-!
# Which configurations are valid

`ConfigFile.Valid` says what a configuration file must be like, without the steps in which it is
loaded, and `LoadedConfig.Reads` what its sections come to. Both speak of runs: the sections in the
slots from zero on, as many of them as there are without a gap and as there is room for.

A part of a file is accepted or not on its own. `loads_valid_files` puts that together, and adds
that sections outside the runs make no difference at all.
-/

namespace HumidifierBridge

/-! ### Runs of slots -/

namespace ConfigFile

variable {α : Type}

/-- Is there a section in each of the first slots? -/
def Filled (sections : KeyMap α) (count : Nat) : Prop :=
  ∀ slot < count, (sections.get? (slotKey slot)).isSome = true

instance (sections : KeyMap α) : DecidablePred (Filled sections) := fun count =>
  inferInstanceAs (Decidable (∀ slot < count, _))

/-- The length of the longest run from slot zero on, up to a limit. -/
def runLength (sections : KeyMap α) (limit : Nat) : Nat := Nat.findGreatest (Filled sections) limit

/-- The sections of that run, in the order of their slots. -/
def run (sections : KeyMap α) (limit : Nat) : List α :=
  (List.range (runLength sections limit)).filterMap fun slot => sections.get? (slotKey slot)

theorem filterMap_range_getElem? (l : List α) : (List.range l.length).filterMap (l[·]?) = l := by
  induction l with
  | nil => rfl
  | cons a rest ih =>
    simpa [List.range_succ_eq_map, List.filterMap_map, Function.comp_def] using ih

/-- The sections that are read from a slot on: each is under its key, and after the last there is a
gap, unless there are as many as were asked for. -/
theorem slotRun_spec (sections : KeyMap α) (first count : Nat) :
    ∃ l : List α, l.length ≤ count ∧
      (∀ i (h : i < l.length), sections.get? (slotKey (first + i)) = some l[i]) ∧
      (l.length < count → sections.get? (slotKey (first + l.length)) = none) ∧
      slotRun sections first count = l.mapIdx fun i a => (slotKey (first + i), a) := by
  induction count generalizing first with
  | zero => exact ⟨[], Nat.le_refl 0, by simp, by simp, rfl⟩
  | succ count ih =>
    cases hfirst : sections.get? (slotKey first) with
    | none => exact ⟨[], Nat.zero_le _, by simp, fun _ => hfirst, by simp [slotRun, hfirst]⟩
    | some a =>
      obtain ⟨l, hlength, hsections, hgap, hrun⟩ := ih (first + 1)
      simp only [Nat.add_right_comm first 1] at hsections hgap hrun
      refine ⟨a :: l, Nat.succ_le_succ hlength, ?_, ?_, ?_⟩
      · rintro (_ | i) hi
        · exact hfirst
        · exact hsections i (Nat.lt_of_succ_lt_succ hi)
      · exact fun hlt => hgap (Nat.lt_of_succ_lt_succ hlt)
      · simp only [slotRun, hfirst, hrun, List.mapIdx_cons, Nat.add_zero]
        rfl

/-- What is read of the slots from zero on is the run, each section with its key. -/
theorem slotRun_eq (sections : KeyMap α) (limit : Nat) :
    slotRun sections 0 limit = (run sections limit).mapIdx fun i a => (slotKey i, a) := by
  obtain ⟨l, hlength, hsections, hgap, hrun⟩ := slotRun_spec sections 0 limit
  simp only [Nat.zero_add] at hsections hgap hrun
  have hlongest : runLength sections limit = l.length := by
    refine Nat.findGreatest_eq_iff.2
      ⟨hlength, fun _ slot hslot => ?_, fun n hn hlimit hfilled => ?_⟩
    · rw [hsections slot hslot, Option.isSome_some]
    · have hnone := hgap (Nat.lt_of_lt_of_le hn hlimit)
      simpa [hnone] using hfilled l.length hn
  have hl : run sections limit = l := by
    rw [run, hlongest]
    refine Eq.trans (List.filterMap_congr fun slot hslot => ?_) (filterMap_range_getElem? l)
    have hlt := List.mem_range.1 hslot
    rw [hsections slot hlt, List.getElem?_eq_getElem hlt]
  rw [hrun, hl]

@[simp] theorem map_snd_slotRun (sections : KeyMap α) (limit : Nat) :
    (slotRun sections 0 limit).map Prod.snd = run sections limit := by
  rw [slotRun_eq]
  refine List.ext_getElem? fun i => ?_
  simp [Function.comp_def]

theorem length_run_le (sections : KeyMap α) (limit : Nat) :
    (run sections limit).length ≤ limit := by
  obtain ⟨l, hlength, -, -, hrun⟩ := slotRun_spec sections 0 limit
  have hl : run sections limit = (slotRun sections 0 limit).map Prod.snd :=
    (map_snd_slotRun sections limit).symm
  rw [hl, hrun]
  simpa using hlength

end ConfigFile

/-! ### Texts -/

/-- A list is mapped only if each of its elements is, and keeps its length. -/
theorem of_mapM_eq_some {α β : Type} {f : α → Option β} {l : List α} {l' : List β}
    (h : l.mapM f = some l') : l'.length = l.length ∧ ∀ a ∈ l, (f a).isSome = true := by
  induction l generalizing l' with
  | nil =>
    cases h
    simp
  | cons a rest ih =>
    rw [List.mapM_cons] at h
    obtain ⟨b, hb, h⟩ := Option.bind_eq_some_iff.1 h
    obtain ⟨rest', hrest, h⟩ := Option.bind_eq_some_iff.1 h
    obtain ⟨hlength, hall⟩ := ih hrest
    cases h
    refine ⟨congrArg Nat.succ hlength, fun c hc => ?_⟩
    rcases List.mem_cons.1 hc with rfl | hc
    · rw [hb, Option.isSome_some]
    · exact hall c hc

theorem exists_mapM_eq_some {α β : Type} {f : α → Option β} {l : List α}
    (h : ∀ a ∈ l, (f a).isSome = true) : ∃ l', l.mapM f = some l' := by
  induction l with
  | nil => exact ⟨[], rfl⟩
  | cons a rest ih =>
    obtain ⟨b, hb⟩ := Option.isSome_iff_exists.1 (h a List.mem_cons_self)
    obtain ⟨rest', hrest⟩ := ih fun c hc => h c (List.mem_cons_of_mem a hc)
    exact ⟨b :: rest', by simp [hb, hrest]⟩

namespace Ascii

/-- The hexadecimal digits, in either case. -/
def IsHexDigit (c : Char) : Prop :=
  ('0' ≤ c ∧ c ≤ '9') ∨ ('a' ≤ c ∧ c ≤ 'f') ∨ ('A' ≤ c ∧ c ≤ 'F')

theorem isSome_hexValue?_iff {c : Char} : (hexValue? c).isSome = true ↔ IsHexDigit c := by
  simp only [hexValue?, IsHexDigit]
  split
  · simp [*]
  · split
    · simp [*]
    · split <;> simp [*]

end Ascii

namespace DsUid

/-- The texts that write a dSUID: 34 hexadecimal digits. -/
def IsText (s : String) : Prop := s.toList.length = 34 ∧ ∀ c ∈ s.toList, Ascii.IsHexDigit c

theorem exists_ofText_iff {s : String} : (∃ d, ofText s = .ok d) ↔ IsText s := by
  constructor
  · rintro ⟨d, hd⟩
    simp only [ofText, ofText?] at hd
    split at hd
    · rename_i d' hread
      split at hread
      · cases hread
      · rename_i digits hdigits
        obtain ⟨hlength, hall⟩ := of_mapM_eq_some hdigits
        split at hread
        · rename_i h34
          exact ⟨hlength ▸ h34, fun c hc => Ascii.isSome_hexValue?_iff.1 (hall c hc)⟩
        · cases hread
    · cases hd
  · rintro ⟨h34, hall⟩
    obtain ⟨digits, hdigits⟩ :=
      exists_mapM_eq_some fun c hc => Ascii.isSome_hexValue?_iff.2 (hall c hc)
    have hlength : digits.length = dsUidDigits := (of_mapM_eq_some hdigits).1.trans h34
    exact ⟨⟨digits, hlength⟩, by simp [ofText, ofText?, hdigits, hlength]⟩

end DsUid

namespace ConfigFile

/-- A dSUID that is absent or blank is accepted as none, and any other text as the one it writes. -/
theorem exists_loadDsUid_iff (field : String) {text : Option String} :
    (∃ d, loadDsUid field text = .ok d) ↔
      ∀ s ∈ text, Text.isBlankText s = true ∨ DsUid.IsText (Text.trim s) := by
  cases text with
  | none => simp [loadDsUid, nonBlank]
  | some s =>
    by_cases hblank : Text.isBlankText s = true
    · simp [loadDsUid, nonBlank, Option.filter, hblank]
    · have hread := DsUid.exists_ofText_iff (s := Text.trim s)
      cases hs : DsUid.ofText (Text.trim s) with
      | ok d => simpa [loadDsUid, nonBlank, Option.filter, hblank, hs] using hread
      | error e => simpa [loadDsUid, nonBlank, Option.filter, hblank, hs] using hread

theorem exists_require_iff (field : String) {text : Option String} :
    (∃ s, require field text = .ok s) ↔ ∃ s ∈ text, Text.isBlankText s = false := by
  simp only [require_eq_ok, Option.mem_def]

theorem exists_loadReload_iff {written : Option UInt64} :
    (∃ seconds, loadReload written = .ok seconds) ↔
      ∀ seconds ∈ written, 1 ≤ seconds.toNat ∧ seconds.toNat ≤ 86400 := by
  have hbounds : ∀ seconds : UInt64, seconds ≠ 0 ∧ seconds ≤ Settings.maxReloadSeconds ↔
      1 ≤ seconds.toNat ∧ seconds.toNat ≤ 86400 := fun seconds => by
    rw [Ne, ← UInt64.toNat_inj, UInt64.le_iff_toNat_le]
    exact and_congr Nat.pos_iff_ne_zero.symm Iff.rfl
  simp only [loadReload_eq_ok, hbounds, exists_and_left, exists_eq, and_true]

end ConfigFile

/-! ### Tables from sections -/

namespace SceneTable

/-- With room for all of them, requests are all accepted. -/
theorem accepted_eq_self {t : SceneTable} (h : t.WellFormed) {requests : List Request}
    (hroom : t.slots.length + requests.length ≤ t.capacity) : t.accepted requests = requests := by
  induction requests generalizing t with
  | nil => rfl
  | cons r rest ih =>
    simp only [List.length_cons] at hroom
    have hnext : (t.take r).2 ≠ .full ∧
        (t.take r).1.slots.length + rest.length ≤ (t.take r).1.capacity := by
      rw [t.capacity_take r]
      rcases h.take_cases r with ⟨-, heq⟩ | ⟨-, hfull, -⟩ | ⟨-, -, heq⟩
      · rw [heq]
        refine ⟨by simp, ?_⟩
        cases r.spec? with
        | none => exact Nat.le_of_succ_le hroom
        | some spec => simpa using Nat.le_of_succ_le hroom
      · omega
      · rw [heq]
        refine ⟨by simp, ?_⟩
        simp only [List.length_append, List.length_singleton]
        omega
    simp only [accepted, if_neg hnext.1, ih (h.take r) hnext.2]

/-- Of inserted settings the last ones of a number hold. -/
theorem settings_map_sceneRequest (sections : List SceneSection) (number : Int32) :
    settings (sections.map ConfigFile.sceneRequest) number =
      (sections.reverse.find? (·.number = number)).map SceneSection.spec := by
  induction sections using List.reverseRecOn with
  | nil => rfl
  | append_singleton sections s ih =>
    rw [List.map_append, List.map_singleton, settings_concat, ih, List.reverse_concat]
    by_cases hnumber : s.number = number
    · simp [ConfigFile.sceneRequest, Request.number, Request.spec?, hnumber]
    · simp [ConfigFile.sceneRequest, Request.number, hnumber]

end SceneTable

/-! ### Files -/

namespace ConfigFile

/-- The sensor sections that count. -/
def sensorRun (f : ConfigFile) : List SensorSection := run f.sensors 15

/-- The scene sections that count. -/
def sceneRun (f : ConfigFile) : List SceneSection := run (f.appliance.getD {}).scenes 128

/-- A dSUID is written, or none is. -/
def IsDsUidField (text : Option String) : Prop :=
  ∀ s ∈ text, Text.isBlankText s = true ∨ DsUid.IsText (Text.trim s)

/-- Something is written, other than blanks. -/
def IsFilledField (text : Option String) : Prop := ∃ s ∈ text, Text.isBlankText s = false

/-- The files that can be loaded. -/
structure Valid (f : ConfigFile) : Prop where
  reload : ∀ seconds ∈ f.reloadSeconds, 1 ≤ seconds.toNat ∧ seconds.toNat ≤ 86400
  vdc : IsDsUidField f.vdc
  library : IsDsUidField f.library
  appliance : ∃ a ∈ f.appliance, IsFilledField a.id ∧ IsFilledField a.address
  named : ∀ s ∈ f.sensorRun, Text.isBlankText s.name = false
  /-- No two sensors have the same name up to case. -/
  distinct : f.sensorRun.Pairwise fun s t => Ascii.sameFold s.name t.name = false
  fans : ∀ s ∈ f.sceneRun, s.FanInRange

end ConfigFile

/-- The sections that count became sensors and scenes. -/
structure LoadedConfig.Reads (l : LoadedConfig) (f : ConfigFile) : Prop where
  sensors : l.profile.sensors = f.sensorRun.map SensorSection.sensor
  /-- The scenes are in the order in which their numbers first appear. -/
  numbers : l.profile.scenes.numbers = (f.sceneRun.map (·.number)).eraseDups
  /-- The last section of a number has its settings. -/
  settings : ∀ number, l.profile.scenes.get? number =
    (f.sceneRun.reverse.find? (·.number = number)).map SceneSection.spec

namespace ConfigFile

/-- The file without sections of sensors and scenes. -/
def withoutSections (f : ConfigFile) : ConfigFile :=
  { f with
    sensors := .empty
    appliance := f.appliance.map fun a => { a with scenes := .empty } }

/-- The files differ at most in sections that do not count. -/
structure SameRuns (f g : ConfigFile) : Prop where
  others : f.withoutSections = g.withoutSections
  sensorRun : f.sensorRun = g.sensorRun
  sceneRun : f.sceneRun = g.sceneRun

/-- The sensors of sections are as they should be if the names are. -/
theorem sensorsLoadable_sensorRun_iff (f : ConfigFile) :
    SensorsLoadable (f.sensorRun.map SensorSection.sensor) ↔
      (∀ s ∈ f.sensorRun, Text.isBlankText s.name = false) ∧
        f.sensorRun.Pairwise fun s t => Ascii.sameFold s.name t.name = false := by
  have hlength : f.sensorRun.length ≤ Profile.sensorCapacity := length_run_le f.sensors 15
  constructor
  · rintro ⟨-, hnamed, hdistinct⟩
    exact ⟨by simpa [SensorSection.sensor] using hnamed,
      by simpa [List.pairwise_map, SensorSection.sensor, Sensor.isNamed] using hdistinct⟩
  · rintro ⟨hnamed, hdistinct⟩
    exact ⟨by simpa using hlength, by simpa [SensorSection.sensor] using hnamed,
      by simpa [List.pairwise_map, SensorSection.sensor, Sensor.isNamed] using hdistinct⟩

/-- Loading the sensors of a file into a profile without any. -/
theorem loadSensors_eq_ok {f : ConfigFile} {bare p : Profile} (hbare : bare.sensors = []) :
    (slotRun f.sensors 0 Profile.sensorCapacity).foldlM loadSensor bare = .ok p ↔
      SensorsLoadable (f.sensorRun.map SensorSection.sensor) ∧
        p = { bare with sensors := f.sensorRun.map SensorSection.sensor } := by
  have hnone : SensorsLoadable bare.sensors := hbare ▸ sensorsLoadable_nil
  have hrun : (slotRun f.sensors 0 Profile.sensorCapacity).map (fun s => s.2.sensor) =
      f.sensorRun.map SensorSection.sensor := by
    rw [sensorRun, ← map_snd_slotRun, List.map_map]
    rfl
  rw [foldlM_loadSensor_eq_ok hnone, hrun, hbare, List.nil_append]

/-- The table of the scenes of a file. -/
def sceneTable (f : ConfigFile) : SceneTable :=
  ({} : SceneTable).takeAll (f.sceneRun.map sceneRequest)

/-- Loading the scenes of a file into an empty table. -/
theorem loadScenes_eq_ok {f : ConfigFile} {t : SceneTable} :
    (slotRun (f.appliance.getD {}).scenes 0 128).foldlM loadScene {} = .ok t ↔
      (∀ s ∈ f.sceneRun, s.FanInRange) ∧ t = f.sceneTable := by
  rw [foldlM_loadScene_eq_ok, map_snd_slotRun]
  rfl

theorem follows_sceneTable (f : ConfigFile) :
    f.sceneTable.Follows 128 (f.sceneRun.map sceneRequest) := by
  have hfollows := (SceneTable.follows_empty 128).takeAll (f.sceneRun.map sceneRequest)
  have hroom : (f.sceneRun.map sceneRequest).length ≤ 128 := by
    rw [List.length_map]
    exact length_run_le _ 128
  rwa [SceneTable.accepted_eq_self (SceneTable.wellFormed_empty 128) (by simpa using hroom),
    List.nil_append] at hfollows

/-- What is loaded is from the sections that count. -/
theorem valid_and_reads_of_load {f : ConfigFile} {loadedAt : Time} {l : LoadedConfig}
    (h : f.load loadedAt = .ok l) : f.Valid ∧ l.Reads f := by
  simp only [load, bind_eq_ok] at h
  obtain ⟨reload, hreload, vdc, hvdc, library, hlibrary, id, hid, address, haddress, profile,
    hprofile, scenes, hscenes, hl⟩ := h
  cases hl
  obtain ⟨hsensors, rfl⟩ := (loadSensors_eq_ok rfl).1 hprofile
  obtain ⟨hfans, rfl⟩ := loadScenes_eq_ok.1 hscenes
  obtain ⟨hnamed, hdistinct⟩ := f.sensorsLoadable_sensorRun_iff.1 hsensors
  have happliance : ∃ a ∈ f.appliance, IsFilledField a.id ∧ IsFilledField a.address := by
    have hfilled := (exists_require_iff _).1 ⟨id, hid⟩
    have hfilled' := (exists_require_iff _).1 ⟨address, haddress⟩
    cases ha : f.appliance with
    | none => simp [ha] at hfilled
    | some a =>
      rw [ha] at hfilled hfilled'
      exact ⟨a, rfl, hfilled, hfilled'⟩
  have hfollows := f.follows_sceneTable
  refine ⟨⟨exists_loadReload_iff.1 ⟨reload, hreload⟩, (exists_loadDsUid_iff _).1 ⟨vdc, hvdc⟩,
    (exists_loadDsUid_iff _).1 ⟨library, hlibrary⟩, happliance, hnamed, hdistinct, hfans⟩,
    rfl, ?_, fun number => ?_⟩
  · rw [hfollows.numbers_eq, List.map_map]
    rfl
  · rw [← SceneTable.settings_map_sceneRequest]
    exact hfollows.holds.get?_eq number

/-- A valid file is loaded. -/
theorem exists_load_of_valid {f : ConfigFile} (h : f.Valid) (loadedAt : Time) :
    ∃ l, f.load loadedAt = .ok l := by
  obtain ⟨a, ha, hid, haddress⟩ := h.appliance
  have hgetD : f.appliance.getD {} = a := by rw [ha, Option.getD_some]
  obtain ⟨reload, hreload⟩ := exists_loadReload_iff.2 h.reload
  obtain ⟨vdc, hvdc⟩ := (exists_loadDsUid_iff "vdcdsuid").2 h.vdc
  obtain ⟨library, hlibrary⟩ := (exists_loadDsUid_iff "libdsuid").2 h.library
  obtain ⟨id, hid⟩ := (exists_require_iff "humifier.id").2 hid
  obtain ⟨address, haddress⟩ := (exists_require_iff "humifier.ip").2 haddress
  have hsensors := f.sensorsLoadable_sensorRun_iff.2 ⟨h.named, h.distinct⟩
  simp only [load, bind_eq_ok]
  refine ⟨_, reload, hreload, vdc, hvdc, library, hlibrary, id, hgetD ▸ hid, address,
    hgetD ▸ haddress, _, (loadSensors_eq_ok rfl).2 ⟨hsensors, rfl⟩, f.sceneTable, ?_, rfl⟩
  exact loadScenes_eq_ok.2 ⟨h.fans, rfl⟩

/-- A bind depends on what comes after it only for what it can come to. -/
theorem bind_congr_of_ok {ε α β : Type} {x : Except ε α} {f g : α → Except ε β}
    (h : ∀ a, x = .ok a → f a = g a) : x >>= f = x >>= g := by
  cases x with
  | error e => rfl
  | ok a => exact h a rfl

/-- Sections that do not count make no difference. -/
theorem load_eq_of_sameRuns {f g : ConfigFile} (h : f.SameRuns g) (loadedAt : Time) :
    g.load loadedAt = f.load loadedAt := by
  have hothers := h.others
  have hsensors : slotRun f.sensors 0 Profile.sensorCapacity =
      slotRun g.sensors 0 Profile.sensorCapacity := by
    rw [slotRun_eq, slotRun_eq]
    exact congrArg (List.mapIdx _) h.sensorRun
  have hscenes : slotRun (f.appliance.getD {}).scenes 0 128 =
      slotRun (g.appliance.getD {}).scenes 0 128 := by
    rw [slotRun_eq, slotRun_eq]
    exact congrArg (List.mapIdx _) h.sceneRun
  have happliance : ∀ {γ : Type} (read : ApplianceSection → γ),
      (∀ a : ApplianceSection, read { a with scenes := .empty } = read a) →
        read (f.appliance.getD {}) = read (g.appliance.getD {}) := by
    intro γ read hread
    have hsame := congrArg (fun f => (f.appliance.map read).getD (read {})) hothers
    simp only [withoutSections, Option.map_map, Function.comp_def, hread] at hsame
    rwa [Option.getD_map, Option.getD_map] at hsame
  simp only [withoutSections, ConfigFile.mk.injEq] at hothers
  obtain ⟨hvdc, hlibrary, hreload, hzone, hdebug, -, -⟩ := hothers
  simp only [load, hvdc, hlibrary, hreload, hzone, hdebug, hsensors, happliance (·.id) fun _ => rfl,
    happliance (·.address) fun _ => rfl, happliance (·.name) fun _ => rfl,
    happliance (·.zone) fun _ => rfl]
  refine bind_congr_of_ok fun reload _ => bind_congr_of_ok fun vdc _ =>
    bind_congr_of_ok fun library _ => bind_congr_of_ok fun id _ =>
    bind_congr_of_ok fun address _ => bind_congr_of_ok fun profile hprofile => ?_
  obtain ⟨-, rfl⟩ := (loadSensors_eq_ok rfl).1 hprofile
  exact congrArg (fun s => List.foldlM loadScene {} s >>= _) hscenes.symm

/-- **Valid files, and only those, are loaded**, each to the sensors and scenes of the sections that
count, whatever other sections there are. -/
theorem loads_valid_files (f : ConfigFile) (loadedAt : Time) :
    ((∃ l, f.load loadedAt = .ok l) ↔ f.Valid) ∧
      (∀ l, f.load loadedAt = .ok l → l.Reads f) ∧
        ∀ g : ConfigFile, f.SameRuns g → g.load loadedAt = f.load loadedAt :=
  ⟨⟨fun ⟨_, hl⟩ => (valid_and_reads_of_load hl).1, fun h => exists_load_of_valid h loadedAt⟩,
    fun _ hl => (valid_and_reads_of_load hl).2, fun _ h => load_eq_of_sameRuns h loadedAt⟩

/-- A file with two sensors and two scenes, one of them in two sections, and with others that no
bridge could be loaded from if they counted: they come after gaps. -/
def gapped : ConfigFile where
  reloadSeconds := some 86400
  vdc := some " "
  library := some " 00112233445566778899aAbBcCdDeEfF00 "
  appliance := some {
    id := some "V"
    address := some "v"
    scenes := .ofList [
      ("s0", { number := 5, fan := some 1 }),
      ("s1", { number := 7, fan := some (-1), auto := some 0 }),
      ("s2", { number := 5, sleep := some 2 }),
      ("s4", { number := 9, fan := some 4 })] }
  sensors := .ofList [
    ("s0", { name := "hum" }),
    ("s1", { name := "temp", active := false }),
    ("s3", { name := "HUM" }),
    ("s01", {})]

/-- The same file without the others. -/
def gapless : ConfigFile :=
  { gapped with
    appliance := some {
      id := some "V"
      address := some "v"
      scenes := .ofList [
        ("s0", { number := 5, fan := some 1 }),
        ("s1", { number := 7, fan := some (-1), auto := some 0 }),
        ("s2", { number := 5, sleep := some 2 })] }
    sensors := .ofList [("s0", { name := "hum" }), ("s1", { name := "temp", active := false })] }

theorem gapped_loads_as_gapless :
    gapped ≠ gapless ∧ gapped.SameRuns gapless ∧ gapless.load 0 = gapped.load 0 ∧ gapped.Valid ∧
      ∃ l, gapped.load 0 = .ok l ∧ l.Reads gapped ∧ l.profile.scenes.numbers = [5, 7] ∧
        l.profile.scenes.get? 5 = some { sleep := some true } := by
  obtain ⟨hvalid, hreads, hsame⟩ := loads_valid_files gapped 0
  have hruns : gapped.SameRuns gapless := ⟨by rfl, by decide +kernel, by decide +kernel⟩
  have hload : ∃ l, gapped.load 0 = .ok l := ⟨_, rfl⟩
  obtain ⟨l, hl⟩ := hload
  refine ⟨by decide +kernel, hruns, hsame gapless hruns, hvalid.1 ⟨l, hl⟩, l, hl, hreads l hl,
    ?_, ?_⟩
  · rw [(hreads l hl).numbers]
    decide +kernel
  · rw [(hreads l hl).settings]
    decide +kernel

end ConfigFile

end HumidifierBridge
