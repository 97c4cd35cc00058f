import HumidifierBridge.Proofs.Background
import HumidifierBridge.Proofs.Interleaving
import HumidifierBridge.Proofs.Replacement
import HumidifierBridge.Proofs.SceneTables

/-!
# The stored configuration and the running one

A bridge with a store writes its configuration when a request changed all that it was to change, and
when a scene was saved. A request that is refused half way writes nothing, and what it changed
before it was refused stays changed: the two zones can then be others than those that are stored.

`Course.stored_of_run` says which configuration is in the store in any course of a bridge: that of
the state that was stored last (`lastStored`). The running configuration can differ from it in the
zones and in nothing else, and only if a request was torn since (`torn`).
-/

namespace HumidifierBridge

namespace ConfigFile

/-- The file with other zones. -/
def withZones (f : ConfigFile) (zone bridgeZone : UInt16) : ConfigFile :=
  { f with
    zone := some bridgeZone
    appliance := f.appliance.map fun appliance => { appliance with zone := some zone } }

@[simp] theorem withZones_withZones (f : ConfigFile) (zone bridgeZone zone' bridgeZone' : UInt16) :
    (f.withZones zone bridgeZone).withZones zone' bridgeZone' = f.withZones zone' bridgeZone' := by
  simp only [withZones, Option.map_map]
  rfl

end ConfigFile

namespace Bridge

variable (b : Bridge)

/-- The zones of a state are those of its file. -/
theorem withZones_configFile_eq_self_iff {s : BridgeState} {zone bridgeZone : UInt16} :
    (b.configFile s).withZones zone bridgeZone = b.configFile s ↔
      zone = s.profile.zone ∧ bridgeZone = s.settings.defaultZone := by
  constructor
  · intro heq
    have hdevice := congrArg (fun f => f.appliance.bind (·.zone)) heq
    have hbridge := congrArg ConfigFile.zone heq
    exact ⟨Option.some_inj.1 hdevice, Option.some_inj.1 hbridge⟩
  · rintro ⟨rfl, rfl⟩
    rfl

/-- The file does not show what reading the appliance before a scene writes. -/
theorem configFile_takeRefresh (s : BridgeState) (result : Except BridgeError DataReport)
    (now : Time) : b.configFile (s.takeRefresh result now) = b.configFile s := by
  cases result with
  | error e => rfl
  | ok report => exact BridgeState.configFile_takePoll b (.loopback false) s (.ok report) now

/-- Nor does it show what a pass of work writes. -/
theorem configFile_tryWork (t : Transport) (s : BridgeState) (now : Time) (inUse : Bool) :
    b.configFile (b.tryWork t s now inUse).state = b.configFile s := by
  rw [← b.configFile_foreground, b.foreground_tryWork, b.configFile_foreground]

end Bridge

/-! ### What is stored when -/

namespace Moment

/-- Was the configuration stored? -/
def stores (b : Bridge) (m : Moment) : Bool :=
  match m.action with
  | .event _ (.setProperty dsuid entries) _ =>
    (b.setProperties m.before dsuid entries).2 = some .ok
  | .event _ (.saveScene dsuids scene) _ =>
    b.addressesDevice dsuids && decide ((Bridge.saveScene m.before scene).2 ≠ .full)
  | _ => false

/-- Was a request refused after it had changed a zone? -/
def tears (b : Bridge) (m : Moment) : Bool :=
  match m.action with
  | .event _ (.setProperty _ _) _ =>
    !m.stores b && !decide (m.after.profile.zone = m.before.profile.zone ∧
      m.after.settings.defaultZone = m.before.settings.defaultZone)
  | _ => false

/-- A request that is refused before it changes a zone leaves both as they are. -/
theorem zones_of_not_tears {b : Bridge} {m : Moment} {t : Transport} {dsuid : String}
    {entries : List PropertyEntry} {now : Time}
    (haction : m.action = .event t (.setProperty dsuid entries) now)
    (hstores : m.stores b = false) (htears : m.tears b = false) :
    m.after.profile.zone = m.before.profile.zone ∧
      m.after.settings.defaultZone = m.before.settings.defaultZone := by
  simpa only [tears, haction, hstores, Bool.not_false, Bool.true_and, Bool.not_eq_false',
    decide_eq_true_eq] using htears

end Moment

/-- The state that was stored last, or the one at the start. -/
def lastStored (b : Bridge) (start : BridgeState) : List Moment → BridgeState
  | [] => start
  | m :: past => if m.stores b then m.after else lastStored b start past

/-- Was a request refused after it had changed a zone, since the configuration was stored? -/
def torn (b : Bridge) : List Moment → Bool
  | [] => false
  | m :: past => !m.stores b && (m.tears b || torn b past)

namespace Course

variable {σ : Type} (b : Bridge) (line : Line σ)

/-- A turn writes files if it stores the configuration, and only then. -/
theorem files_act (c : Course σ) (a : Action) :
    (c.act b line a).1.world.files =
      if (c.moment b line a).stores b then
        (b.persist (c.act b line a).1.state c.world.files).2
      else c.world.files := by
  cases a with
  | poll t now clock => rfl
  | refresh now => rfl
  | flag =>
    simp only [act]
    split <;> rfl
  | press button => rfl
  | work t now inUse => rfl
  | presence present => rfl
  | event t event now =>
    cases event with
    | newSession => rfl
    | endSession => rfl
    | ping dsuid =>
      simp only [act, Bridge.handle, Moment.stores, moment]
      split <;> rfl
    | getProperty dsuid query =>
      simp only [act, Bridge.handle, Moment.stores, moment]
      split <;> rfl
    | setProperty dsuid entries =>
      cases hset : b.setProperties c.state dsuid entries with
      | mk state code =>
        simp only [act, Bridge.handle, Bridge.setAndPersist, Bridge.persisted, Moment.stores,
          moment, hset]
        cases code with
        | none => rfl
        | some code => cases code <;> rfl
    | callScene dsuids scene force =>
      simp only [act, Bridge.handle, Moment.stores, moment]
      split <;> rfl
    | saveScene dsuids scene =>
      cases hsave : Bridge.saveScene c.state scene with
      | mk state outcome =>
        simp only [act, Bridge.handle, Bridge.saveAndPersist, Bridge.persisted, Moment.stores,
          moment, hsave]
        cases b.addressesDevice dsuids with
        | false => rfl
        | true => cases outcome <;> rfl
    | identify dsuid => rfl
    | remove dsuid => rfl
    | genericRequest dsuid method params =>
      simp only [act, Bridge.handle, Moment.stores, moment]
      split <;> rfl

/-- A turn that does not store the configuration does not change it either, unless it writes
properties. -/
theorem configFile_act {c : Course σ} {a : Action} (h : (c.moment b line a).stores b = false)
    (hset : ∀ t dsuid entries now, a ≠ .event t (.setProperty dsuid entries) now) :
    b.configFile (c.act b line a).1.state = b.configFile c.state := by
  cases a with
  | poll t now clock => exact BridgeState.configFile_takePoll b t c.state _ now
  | refresh now =>
    simp only [act, Line.fetchState]
    split
    · rename_i report appliance hreport
      exact b.configFile_takeRefresh c.state (.ok report) now
    · rfl
  | flag =>
    simp only [act]
    split <;> rfl
  | press button => rfl
  | work t now inUse => exact b.configFile_tryWork t c.state now inUse
  | presence present => rfl
  | event t event now =>
    cases event with
    | newSession => rfl
    | endSession => rfl
    | ping dsuid =>
      simp only [act, Bridge.handle]
      split <;> rfl
    | getProperty dsuid query =>
      simp only [act, Bridge.handle]
      split <;> rfl
    | setProperty dsuid entries => exact absurd rfl (hset t dsuid entries now)
    | callScene dsuids scene force =>
      simp only [act, Bridge.handle]
      split
      · simp only [Line.invoke]
        split
        · rfl
        · exact b.configFile_takeRefresh c.state _ now
      · rfl
    | saveScene dsuids scene =>
      simp only [act, Bridge.handle]
      split
      · rename_i haddressed
        simp only [Moment.stores, moment, haddressed, Bool.true_and] at h
        have hfull : (c.state.profile.scenes.save scene).2 = .full :=
          Decidable.not_not.1 (of_decide_eq_false h)
        have hstate : (b.saveAndPersist scene c.world).2.state = c.state := by
          rw [b.state_saveAndPersist]
          simp only [Bridge.saveScene, SceneTable.save_of_full hfull]
        exact congrArg b.configFile hstate
      · rfl
    | identify dsuid => rfl
    | remove dsuid => rfl
    | genericRequest dsuid method params =>
      simp only [act, Bridge.handle]
      split <;> rfl

/-- One that writes properties changes nothing in it but the zones. -/
theorem configFile_act_setProperty (c : Course σ) (t : Transport) (dsuid : String)
    (entries : List PropertyEntry) (now : Time) :
    let after := (c.act b line (.event t (.setProperty dsuid entries) now)).1.state
    b.configFile after =
      (b.configFile c.state).withZones after.profile.zone after.settings.defaultZone := by
  intro after
  have hafter : after = (b.setProperties c.state dsuid entries).1 := by
    rw [← b.state_setAndPersist dsuid entries c.world]
    simp only [after, act, Bridge.handle]
    split <;> rename_i hcase <;> rw [hcase]
  obtain ⟨zone, bridgeZone, hset⟩ := b.configured_setProperties c.state dsuid entries
  rw [hafter, hset]
  rfl

/-- A turn that does not store the configuration changes nothing in it but the zones, and not even
those if it tears no request. -/
theorem configFile_act_of_not_stores {c : Course σ} {a : Action}
    (h : (c.moment b line a).stores b = false) :
    let after := (c.act b line a).1.state
    b.configFile after =
        (b.configFile c.state).withZones after.profile.zone after.settings.defaultZone ∧
      ((c.moment b line a).tears b = false → b.configFile after = b.configFile c.state) := by
  intro after
  by_cases hset : ∃ t dsuid entries now, a = .event t (.setProperty dsuid entries) now
  · obtain ⟨t, dsuid, entries, now, rfl⟩ := hset
    have hafter := c.configFile_act_setProperty b line t dsuid entries now
    refine ⟨hafter, ?_⟩
    intro htears
    have hzones := Moment.zones_of_not_tears rfl h htears
    exact hafter.trans ((b.withZones_configFile_eq_self_iff).2 hzones)
  · have hafter : b.configFile after = b.configFile c.state := by
      apply configFile_act b line h
      intro t dsuid entries now heq
      exact hset ⟨t, dsuid, entries, now, heq⟩
    refine ⟨?_, fun _ => hafter⟩
    rw [← hafter]
    rfl

/-! ### What is in the store -/

/-- Does the turn succeed in storing the configuration, if it does so at all? -/
def StoresWell (c : Course σ) (a : Action) : Prop :=
  (c.moment b line a).stores b = true →
    (b.persist (c.act b line a).1.state c.world.files).1 = .ok ()

/-- Do all turns, taken one after the other? -/
def AllStoreWell (c : Course σ) : List Action → Prop
  | [] => True
  | a :: rest => c.StoresWell b line a ∧ (c.step b line a).AllStoreWell rest

/-- What is in the store, and how the running configuration differs from it. -/
structure Follows (store : ConfigStore) (start : BridgeState) (c : Course σ) : Prop where
  stored : store.read c.world.files = .ok (b.configFile (lastStored b start c.past))
  but_zones : b.configFile c.state = (b.configFile (lastStored b start c.past)).withZones
    c.state.profile.zone c.state.settings.defaultZone
  whole : torn b c.past = false →
    b.configFile c.state = b.configFile (lastStored b start c.past)

variable {b line} {store : ConfigStore} {start : BridgeState}

theorem Follows.step {c : Course σ} {a : Action} (h : c.Follows b store start)
    (hstore : b.store = some store) (hwell : c.StoresWell b line a) :
    (c.step b line a).Follows b store start := by
  have hfiles := c.files_act b line a
  cases hstores : (c.moment b line a).stores b with
  | true =>
    have hlast : lastStored b start (c.step b line a).past = (c.act b line a).1.state := by
      simp only [past_step, lastStored, hstores, if_true]
      rfl
    rw [hstores, if_pos rfl] at hfiles
    have hsave := hwell hstores
    simp only [Bridge.persist, hstore] at hsave hfiles
    refine ⟨?_, ?_, ?_⟩
    · rw [hlast]
      have hentry := ConfigStore.entry_of_save (Prod.ext hsave hfiles.symm)
      exact ConfigStore.read_of_found? (FileTree.found?_eq_some.2 hentry)
    · rw [hlast]
      rfl
    · intro _
      rw [hlast]
      rfl
  | false =>
    have hlast : lastStored b start (c.step b line a).past = lastStored b start c.past := by
      simp only [past_step, lastStored, hstores, Bool.false_eq_true, if_false]
    rw [hstores, if_neg (by simp)] at hfiles
    obtain ⟨hzones, hwhole⟩ := configFile_act_of_not_stores b line hstores
    refine ⟨?_, ?_, ?_⟩
    · rw [hlast, ← h.stored]
      exact congrArg store.read hfiles
    · rw [hlast]
      refine hzones.trans ?_
      rw [h.but_zones, ConfigFile.withZones_withZones]
      rfl
    · intro htorn
      simp only [past_step, torn, hstores, Bool.not_false, Bool.true_and,
        Bool.or_eq_false_iff] at htorn
      rw [hlast, ← h.whole htorn.2]
      exact hwhole htorn.1

theorem Follows.run {c : Course σ} {actions : List Action} (h : c.Follows b store start)
    (hstore : b.store = some store) (hwell : c.AllStoreWell b line actions) :
    (c.run b line actions).Follows b store start := by
  induction actions generalizing c with
  | nil => exact h
  | cons a rest ih => exact ih (h.step hstore hwell.1) hwell.2

/-- **What is in the store.** In every course of a bridge whose store holds the configuration at the
start, and which succeeds whenever it stores it: the store holds the configuration of the state that
was stored last. That is the running configuration if and only if the two zones are those of that
state, and it is so whenever no request was torn since. -/
theorem stored_of_run {c₀ : Course σ} {actions : List Action} (hstore : b.store = some store)
    (hpast : c₀.past = []) (hread : store.read c₀.world.files = .ok (b.configFile c₀.state))
    (hwell : c₀.AllStoreWell b line actions) :
    let c := c₀.run b line actions
    let stored := lastStored b c₀.state c.past
    store.read c.world.files = .ok (b.configFile stored) ∧
      (store.read c.world.files = .ok (b.configFile c.state) ↔
        c.state.profile.zone = stored.profile.zone ∧
          c.state.settings.defaultZone = stored.settings.defaultZone) ∧
      (torn b c.past = false → store.read c.world.files = .ok (b.configFile c.state)) := by
  have hstart : c₀.Follows b store c₀.state := by
    refine ⟨?_, ?_, fun _ => ?_⟩
    · rw [hpast]
      exact hread
    · rw [hpast]
      rfl
    · rw [hpast]
      rfl
  intro c stored
  obtain ⟨hstored, hzones, hwhole⟩ := hstart.run hstore hwell
  refine ⟨hstored, ?_, ?_⟩
  · rw [hstored, hzones, Except.ok.injEq, eq_comm]
    exact b.withZones_configFile_eq_self_iff
  · intro htorn
    rw [hstored, hwhole htorn]

/-- A request sets the zone to 7 and is stored, and another one sets it to 9 and is then refused:
the store keeps 7. -/
theorem not_stored_after_torn_request :
    let store : ConfigStore := ⟨"venta.conf"⟩
    let b : Bridge := .sample (some store)
    let line : Line Unit := ⟨"v", fun _ _ => (.none, ())⟩
    let zone (n : Nat) : PropertyEntry := ⟨some "zoneID", .uint n⟩
    let set (entries : List PropertyEntry) : Action :=
      .event (.loopback true) (.setProperty b.identity.device.text entries) 0
    let actions : List Action := [set [zone 7], set [zone 9, ⟨some "name", .string "x"⟩]]
    let files := (store.save (b.configFile (.new .sample {})) .empty).2
    let c₀ : Course Unit := Course.start .sample {} files ()
    let c := c₀.run b line actions
    store.read c₀.world.files = .ok (b.configFile c₀.state) ∧ c₀.AllStoreWell b line actions ∧
      c.state.profile.zone = 9 ∧ (lastStored b c₀.state c.past).profile.zone = 7 ∧
        torn b c.past = true ∧ store.read c.world.files ≠ .ok (b.configFile c.state) := by
  intro store b line zone set actions files c₀ c
  have hread : store.read c₀.world.files = .ok (b.configFile c₀.state) :=
    ConfigStore.read_of_isOk (by decide +kernel)
  have hwell : c₀.AllStoreWell b line actions :=
    ⟨fun _ => eq_ok_of_isOk (by decide +kernel), fun h => absurd h (by decide +kernel), trivial⟩
  have hzone : c.state.profile.zone = 9 := by decide +kernel
  have hstored : (lastStored b c₀.state c.past).profile.zone = 7 := by decide +kernel
  have hstore : b.store = some store := rfl
  obtain ⟨-, hiff, -⟩ := stored_of_run hstore rfl hread hwell
  refine ⟨hread, hwell, hzone, hstored, by decide +kernel, ?_⟩
  intro hsame
  have hzones := (hiff.1 hsame).1
  rw [hzone, hstored] at hzones
  revert hzones
  decide

end Course

end HumidifierBridge
