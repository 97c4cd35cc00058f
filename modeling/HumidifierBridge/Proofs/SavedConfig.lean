import HumidifierBridge.Proofs.DsUids
import HumidifierBridge.Proofs.KeyMaps
import HumidifierBridge.Proofs.Loadable

/-!
# A saved configuration is loaded again

`ConfigFile.ofParts` writes a profile and settings, and `ConfigFile.load` reads them. Both go by
slot, so that sensors and scenes come back in their order. What the writer leaves out is what the
reader takes for it, and a state that is loadable never meets one of the reader's checks. Only the
readings are not written: a loaded profile is `Profile.unread`.
-/

namespace HumidifierBridge

/-- A profile without the readings of its sensors. -/
def Profile.unread (p : Profile) : Profile := { p with sensors := p.sensors.map Sensor.bare }

namespace ConfigFile

/-- The written form of a mode setting is read as that setting. -/
@[simp] theorem mode_map_flagNumber (flag : Option Bool) :
    SceneSection.mode (flag.map flagNumber) = flag := by
  rcases flag with _ | _ | _ <;> rfl

/-- The written form of a scene has its fan in range, and is read as its settings. -/
theorem spec_sceneSection (slot : SceneSlot) :
    (sceneSection slot).FanInRange ∧ (sceneSection slot).spec = slot.spec := by
  obtain ⟨number, fan, sleep, auto⟩ := slot
  simp only [SceneSection.FanInRange, SceneSection.spec, sceneSection, mode_map_flagNumber]
  cases fan with
  | none => simp
  | some speed =>
    have hlevel : (Int64.ofNat speed.level).toInt = speed.level := by
      cases speed <;> rfl
    simp only [Option.map_some, Option.mem_some_iff, forall_eq', hlevel, Option.bind_some]
    cases speed <;> exact ⟨by decide, rfl⟩

/-- Sections of scenes with distinct numbers fill a table in their order. -/
theorem foldlM_loadScene {sections : List (String × SceneSection)} {slots : List SceneSlot}
    {t : SceneTable} (ht : t.WellFormed)
    (hsections : sections.map Prod.snd = slots.map sceneSection)
    (hroom : t.slots.length + slots.length ≤ t.capacity)
    (hnodup : (t.numbers ++ slots.map (·.number)).Nodup) :
    sections.foldlM loadScene t =
      .ok { t with
        slots := t.slots ++ slots
        configured := t.configured ++ slots.map (·.number) } := by
  have hrequests : (slots.map sceneSection).map sceneRequest =
      slots.map fun slot => .insert slot.number slot.spec := by
    rw [List.map_map]
    exact List.map_congr_left fun slot _ => congrArg _ (spec_sceneSection slot).2
  rw [foldlM_loadScene_eq_ok, hsections, hrequests, ht.takeAll_insert hroom hnodup]
  refine ⟨fun s hs => ?_, rfl⟩
  obtain ⟨slot, -, rfl⟩ := List.mem_map.1 hs
  exact (spec_sceneSection slot).1

/-- Sections of sensors with distinct names become sensors in their order. -/
theorem foldlM_loadSensor {sections : List (String × SensorSection)} {sensors : List Sensor}
    {p : Profile} (hsections : sections.map Prod.snd = sensors.map sensorSection)
    (hsensors : SensorsLoadable (p.sensors ++ sensors)) :
    sections.foldlM loadSensor p =
      .ok { p with sensors := p.sensors ++ sensors.map Sensor.bare } := by
  have hread : (sections.map fun s => s.2.sensor) = sensors.map Sensor.bare := by
    have h := congrArg (List.map SensorSection.sensor) hsections
    rwa [List.map_map, List.map_map] at h
  rw [foldlM_loadSensor_eq_ok hsensors.of_append, hread]
  refine ⟨?_, rfl⟩
  rw [← sensorsLoadable_map_bare] at hsensors ⊢
  simpa [Function.comp_def] using hsensors

/-- The level of logging that is written is read again. -/
theorem loadDebugLevel_written {level : Option UInt8}
    (h : ∀ n ∈ level, n.toNat ≤ Settings.maxDebugLevel) :
    loadDebugLevel (level.map fun n => Int64.ofNat n.toNat) = level := by
  cases level with
  | none => rfl
  | some n =>
    have hmax : n.toNat ≤ Settings.maxDebugLevel := h n rfl
    have hint : (Int64.ofNat n.toNat).toInt = n.toNat := by
      have := n.toNat_lt
      exact Int64.toInt_ofNat_of_lt (by omega)
    simp only [loadDebugLevel, Option.map_some, Option.bind_some, hint]
    simp [hmax]

/-- A loadable state that is written is loaded again, without its readings. -/
theorem load_ofParts {s : BridgeState} (h : s.Loadable) (vdc library : DsUid) :
    (ofParts s.profile s.settings vdc library).load s.profile.loadedAt =
      .ok ⟨s.profile.unread, s.settings, some vdc, some library⟩ := by
  obtain ⟨⟨hid, haddress, hsensors, hcapacity, hwell⟩, hzero, hmax, hwhole, hlevel⟩ := h
  have hsensorRun : (slotRun (slotted (s.profile.sensors.map sensorSection)) 0
      Profile.sensorCapacity).map Prod.snd = s.profile.sensors.map sensorSection := by
    rw [map_snd_slotRun_slotted, List.drop_zero,
      List.take_of_length_le (by simpa using hsensors.length_le)]
  have hsceneRun : (slotRun (slotted (s.profile.scenes.slots.map sceneSection)) 0 128).map
      Prod.snd = s.profile.scenes.slots.map sceneSection := by
    rw [map_snd_slotRun_slotted, List.drop_zero,
      List.take_of_length_le (by simpa [← hcapacity] using hwell.length_le)]
  have hscenes : s.profile.scenes =
      ⟨128, s.profile.scenes.slots, s.profile.scenes.slots.map (·.number)⟩ := by
    rw [← hcapacity, ← SceneTable.numbers, ← hwell.configured_eq]
  have hreload : loadReload (some s.settings.reloadSeconds) = .ok s.settings.reloadSeconds :=
    loadReload_eq_ok.2 ⟨by simp [hzero, hmax], rfl⟩
  simp only [load, ofParts, hreload, loadDebugLevel_written hlevel,
    loadDsUid_text, require, nonBlank_some hid, nonBlank_some haddress, Option.getD_some, bind,
    Except.bind]
  rw [foldlM_loadSensor hsensorRun (by simpa using hsensors)]
  simp only
  rw [foldlM_loadScene (SceneTable.wellFormed_empty 128) hsceneRun
    (by simpa [← hcapacity] using hwell.length_le)
    (by simpa [SceneTable.numbers] using hwell.nodup)]
  simp only [pure, Except.pure, List.map_nil, List.nil_append, Profile.unread, ← hscenes,
    ← hwhole]

/-- **A saved configuration is loaded again.** Whatever happens around a bridge that was loaded
from a configuration: the configuration that it would save is accepted, and gives back its dSUIDs,
its settings, and its profile with every sensor and every scene in its slot. Only the readings are
left behind. -/
theorem load_saved_of_run {σ : Type} {b : Bridge} {line : Line σ} {f : ConfigFile}
    {loadedAt : Time} {loaded : LoadedConfig} {files : FileTree} {appliance : σ}
    {actions : List Action} {c : Course σ} (hload : f.load loadedAt = .ok loaded)
    (hrun : (Course.start loaded.profile loaded.settings files appliance).run b line actions = c)
    (vdc library : DsUid) :
    (ofParts c.state.profile c.state.settings vdc library).load c.state.profile.loadedAt =
      .ok ⟨c.state.profile.unread, c.state.settings, some vdc, some library⟩ := by
  have hstart : (Course.start loaded.profile loaded.settings files appliance).state.Loadable :=
    (loadable_of_load hload).1
  exact load_ofParts (hrun ▸ Course.loadable_run b line hstart actions) vdc library

/-- The file to start from, with the identity of an appliance. -/
def identified : ConfigFile :=
  { template with appliance := some {
      name := some "Venta", id := some "V", address := some "v"
      scenes := slotted [{ number := 5, fan := some 2, auto := some 0, sleep := some 0 }] } }

/-- What is loaded from it at time zero. -/
def identifiedLoaded : LoadedConfig where
  profile := {
    id := "V", name := "Venta", address := "v"
    sensors := [⟨"hum", .humidity, 1, true, {}⟩, ⟨"temp", .temperature, 1, true, {}⟩]
    scenes := { slots := [⟨5, { fan := some .medium, sleep := some false, auto := some false }⟩] } }
  settings := { debugLevel := some 5 }
  vdc := none
  library := none

/-- A scene is saved and a poll fails; what would be saved then is loaded again. -/
theorem identified_saved_and_loaded :
    let b : Bridge := { identity := ⟨.repeated 10, .repeated 11, .repeated 12, "host"⟩ }
    let c := (Course.start identifiedLoaded.profile identifiedLoaded.settings .empty ()).run b
      ⟨"", fun _ _ => (.none, ())⟩
      [.event (.loopback true) (.saveScene [(DsUid.repeated 12).text] 7) 0,
        .poll (.loopback true) 1 1]
    c.state.profile.scenes.numbers = [5, 7] ∧ identified.load 0 = .ok identifiedLoaded ∧
      (ofParts c.state.profile c.state.settings (.repeated 10) (.repeated 11)).load
          c.state.profile.loadedAt =
        .ok ⟨c.state.profile.unread, c.state.settings, some (.repeated 10),
          some (.repeated 11)⟩ := by
  have hload : identified.load 0 = .ok identifiedLoaded := by rfl
  exact ⟨by decide +kernel, hload, load_saved_of_run hload rfl (.repeated 10) (.repeated 11)⟩

end ConfigFile

end HumidifierBridge
