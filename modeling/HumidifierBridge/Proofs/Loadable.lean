import HumidifierBridge.Proofs.Course
import HumidifierBridge.Proofs.Sections

/-!
# What a loaded bridge is and stays

A configuration that loads gives a profile and settings with a number of properties: an identity,
sensors with distinct names in at most as many slots as there are, scenes with distinct numbers,
and settings within bounds. `BridgeState.Loadable` collects them. Turns leave most of the state
alone, as `BridgeState.Kept` says, and so a bridge that started from a configuration always has
these properties.
-/

namespace HumidifierBridge

/-- Readings do not matter for loading. -/
theorem sensorsLoadable_map_bare {sensors : List Sensor} :
    SensorsLoadable (sensors.map Sensor.bare) ↔ SensorsLoadable sensors := by
  constructor
  · rintro ⟨hlength, hnamed, hdistinct⟩
    exact ⟨by simpa using hlength, by simpa [Sensor.bare] using hnamed,
      by simpa [List.pairwise_map, Sensor.bare, Sensor.isNamed] using hdistinct⟩
  · rintro ⟨hlength, hnamed, hdistinct⟩
    exact ⟨by simpa using hlength, by simpa [Sensor.bare] using hnamed,
      by simpa [List.pairwise_map, Sensor.bare, Sensor.isNamed] using hdistinct⟩

/-- A well-formed scene table of the standard capacity. -/
structure SceneTable.Loadable (t : SceneTable) : Prop where
  capacity : t.capacity = 128
  wellFormed : t.WellFormed

/-- A profile as configurations give it. -/
structure Profile.Loadable (p : Profile) : Prop where
  id : Text.isBlankText p.id = false
  address : Text.isBlankText p.address = false
  sensors : SensorsLoadable p.sensors
  scenes : p.scenes.Loadable

/-- Settings within their bounds. -/
structure Settings.Loadable (s : Settings) : Prop where
  reload_ne_zero : s.reloadSeconds ≠ 0
  reload_le : s.reloadSeconds ≤ Settings.maxReloadSeconds
  reload_whole : s.reloadMillis = noMillis
  debugLevel_le : ∀ level ∈ s.debugLevel, level.toNat ≤ Settings.maxDebugLevel

/-- A state of a bridge with a profile and settings as configurations give them. -/
structure BridgeState.Loadable (s : BridgeState) : Prop where
  profile : s.profile.Loadable
  settings : s.settings.Loadable

theorem SceneTable.Loadable.take {t : SceneTable} (h : t.Loadable) (r : Request) :
    (t.take r).1.Loadable :=
  ⟨(t.capacity_take r).trans h.capacity, h.wellFormed.take r⟩

theorem SceneTable.Loadable.takeAll {t : SceneTable} (h : t.Loadable) (requests : List Request) :
    (t.takeAll requests).Loadable := by
  induction requests generalizing t with
  | nil => exact h
  | cons r rest ih => exact ih (h.take r)

namespace ConfigFile

theorem le_of_mem_loadDebugLevel {written : Option Int64} {level : UInt8}
    (h : level ∈ loadDebugLevel written) : level.toNat ≤ Settings.maxDebugLevel := by
  simp only [loadDebugLevel, Option.mem_def, Option.bind_eq_some_iff] at h
  obtain ⟨n, -, h⟩ := h
  split at h
  · rename_i hrange
    cases h
    have hmax : Settings.maxDebugLevel = 10 := rfl
    rw [UInt8.toNat_ofNat_of_lt' (by simp only [UInt8.size]; omega)]
    omega
  · cases h

/-- What a configuration gives is as a loaded bridge should be, and no sensor was read yet. -/
theorem loadable_of_load {f : ConfigFile} {loadedAt : Time} {loaded : LoadedConfig}
    (h : f.load loadedAt = .ok loaded) :
    (BridgeState.new loaded.profile loaded.settings).Loadable ∧ loaded.profile.IsUnread := by
  simp only [load, bind_eq_ok] at h
  obtain ⟨reload, hreload, vdc, -, library, -, id, hid, address, haddress, profile, hprofile,
    scenes, hscenes, hloaded⟩ := h
  cases hloaded
  obtain ⟨hsensors, rfl⟩ := (foldlM_loadSensor_eq_ok sensorsLoadable_nil).1 hprofile
  obtain ⟨-, rfl⟩ := foldlM_loadScene_eq_ok.1 hscenes
  have hbounds : reload ≠ 0 ∧ reload ≤ Settings.maxReloadSeconds := by
    obtain ⟨hwritten, rfl⟩ := loadReload_eq_ok.1 hreload
    cases hseconds : f.reloadSeconds with
    | none => decide
    | some seconds => exact hwritten seconds hseconds
  have htable : ({} : SceneTable).Loadable := ⟨rfl, SceneTable.wellFormed_empty 128⟩
  refine ⟨⟨⟨(require_eq_ok.1 hid).2, (require_eq_ok.1 haddress).2, hsensors, htable.takeAll _⟩,
    hbounds.1, hbounds.2, rfl, fun _ => le_of_mem_loadDebugLevel⟩, fun s hs => ?_⟩
  obtain ⟨_, -, rfl⟩ := List.mem_map.1 hs
  rfl

end ConfigFile

namespace BridgeState

theorem Loadable.of_kept {s s' : BridgeState} (h : s.Loadable) (hkept : s.Kept s') :
    s'.Loadable := by
  refine ⟨⟨?_, ?_, ?_, ?_⟩, ?_⟩
  · rw [hkept.profile]
    exact h.profile.id
  · rw [hkept.profile]
    exact h.profile.address
  · rw [← sensorsLoadable_map_bare, hkept.sensors, sensorsLoadable_map_bare]
    exact h.profile.sensors
  · rcases hkept.scenes with hsame | ⟨scene, hsaved⟩
    · exact hsame ▸ h.profile.scenes
    · exact hsaved ▸ h.profile.scenes.take (.save scene)
  · rw [hkept.settings]
    exact ⟨h.settings.reload_ne_zero, h.settings.reload_le, h.settings.reload_whole,
      h.settings.debugLevel_le⟩

end BridgeState

/-- Whatever happens around it, a bridge stays as a loaded one should be. -/
theorem Course.loadable_run {σ : Type} (b : Bridge) (line : Line σ) {c : Course σ}
    (h : c.state.Loadable) (actions : List Action) : (c.run b line actions).state.Loadable := by
  have hstep : ∀ (c : Course σ) (a : Action), c.state.Loadable →
      (c.step b line a).state.Loadable := fun c a hc => hc.of_kept (c.kept_act b line a)
  exact run_induction b line (P := fun c => c.state.Loadable) h hstep actions

end HumidifierBridge
