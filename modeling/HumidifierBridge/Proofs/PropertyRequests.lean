import HumidifierBridge.Proofs.SensorProperties

/-!
# Requests for properties

A request for properties is a list of items, and every item is answered on its own
(`Handler.Answers`): one that names a property with a value by one entry of that name, and any other
by none. What has a value is listed for each target (`Handler.valuedNames`); of what is known beside
that nothing is ever read (`Handler.silentNames`).

Reading changes nothing, and the dSUIDs that mean the container are answered alike.
-/

namespace HumidifierBridge

namespace Handler

/-! ### Names -/

/-- The properties of a target that have a value. -/
def valuedNames : Target → List String
  | .container => ["hardwareGuid", "displayId", "implementationId", "modelUID", "modelGuid", "name",
      "model", "capabilities", "zoneID"]
  | .device => ["primaryGroup", "zoneID", "dynamicActionDescriptions", "outputDescription",
      "outputSettings", "sensorDescriptions", "sensorSettings", "sensorStates", "name", "type",
      "model", "modelFeatures", "modelUID", "modelVersion", "vendorId", "vendorName", "vendorGuid",
      "hardwareVersion", "configURL", "hardwareModelGuid", "deviceIcon16", "deviceIcon48",
      "deviceIconName"]

/-- The properties of a target that it knows and has no value for. -/
def silentNames : Target → List String
  | .container => ["vendorId", "oemGuid", "configURL"]
  | .device => ["buttonInputDescriptions", "buttonInputSettings", "binaryInputDescriptions",
      "binaryInputSettings", "binaryInputStates", "channelDescriptions", "channelSettings",
      "channelStates", "deviceStates", "deviceProperties", "devicePropertyDescriptions",
      "customActions", "deviceClass", "deviceClassVersion", "oemGuid", "oemModelGuid"]

variable {target : Target} {name : String}

theorem find?_eq_none_iff : find? target name = none ↔ name ∉ (table target).map Prod.fst := by
  simp only [find?, Option.map_eq_none_iff, List.find?_eq_none, decide_eq_true_eq, List.mem_map,
    not_exists, not_and]

/-- What is listed is all that a target knows. -/
theorem mem_map_table_iff : name ∈ (table target).map Prod.fst ↔
    name ∈ valuedNames target ∨ name ∈ silentNames target := by
  have hperm : ((table target).map Prod.fst).Perm (valuedNames target ++ silentNames target) := by
    cases target <;> decide +kernel
  rw [hperm.mem_iff, List.mem_append]

/-- A property with a value can always be read, and no other ever. -/
theorem isSome_read_iff {e : String × Handler} (h : e ∈ table target) (c : ReadContext) :
    (e.2.read c).isSome = true ↔ e.1 ∈ valuedNames target := by
  revert e
  cases target with
  | container => simp [table, containerTable, valuedNames, readOnly, constant, silent, bridgeZone]
  | device => simp [table, deviceTable, valuedNames, readOnly, constant, silent, deviceZone]

/-- Of a request, only the states of the sensors look at more than the name, namely at the slot that
is asked for. -/
theorem read_congr {e : String × Handler} (h : e ∈ table target) (c : ReadContext)
    (query : QueryItem)
    (hslot : e.1 = "sensorStates" → requestedSlot query = requestedSlot c.query) :
    e.2.read { c with query } = e.2.read c := by
  revert e
  cases target with
  | container => simp [table, containerTable, readOnly, constant, silent, bridgeZone]
  | device => simp +contextual [table, deviceTable, readOnly, constant, silent, deviceZone]

/-- No property has a value and is silent. -/
theorem not_mem_valuedNames_of_mem_silentNames (h : name ∈ silentNames target) :
    name ∉ valuedNames target := by
  revert name
  cases target <;> decide +kernel

end Handler

/-! ### Items -/

section

variable {target : Target} {s : BridgeState} {identity : Identity} {now : Time} {item : QueryItem}
  {name : String}

theorem answerItem_of_wildcard (h : item.name = none) :
    answerItem target s identity now item = none := by
  simp [answerItem, h]

/-- An item is answered if it names a property with a value. -/
theorem isSome_answerItem_iff (h : item.name = some name) :
    (answerItem target s identity now item).isSome = true ↔
      name ∈ Handler.valuedNames target := by
  rw [answerItem_of_some h]
  cases hfind : Handler.find? target name with
  | none =>
    rw [Handler.find?_eq_none_iff, Handler.mem_map_table_iff, not_or] at hfind
    simp [hfind.1]
  | some handler =>
    have hmem := Handler.mem_table_of_find? hfind
    rw [Option.bind_some, Option.isSome_map, Handler.isSome_read_iff hmem]

/-- Of an item, the name and the slot that is asked for count. -/
theorem answerItem_congr {item' : QueryItem} (hname : item.name = item'.name)
    (hslot : item.name = some "sensorStates" →
      Handler.requestedSlot item = Handler.requestedSlot item') :
    answerItem target s identity now item = answerItem target s identity now item' := by
  cases h : item.name with
  | none => rw [answerItem_of_wildcard h, answerItem_of_wildcard (hname ▸ h)]
  | some name =>
    rw [answerItem_of_some h, answerItem_of_some (hname ▸ h)]
    cases hfind : Handler.find? target name with
    | none => rfl
    | some handler =>
      have hread := Handler.read_congr (Handler.mem_table_of_find? hfind)
        ⟨s, identity, item', now⟩ item fun hstates => hslot (hstates ▸ h)
      rw [Option.bind_some, Option.bind_some, ← hread]

end

/-! ### Requests -/

/-- A request is answered item by item. -/
structure AnswersByItem (target : Target) (answer : List QueryItem → Properties) : Prop where
  append : ∀ query query', answer (query ++ query') = answer query ++ answer query'
  wildcard : ∀ item : QueryItem, item.name = none → answer [item] = []
  unknown : ∀ (item : QueryItem) (name : String), item.name = some name →
    name ∉ Handler.valuedNames target → name ∉ Handler.silentNames target → answer [item] = []
  silent : ∀ (item : QueryItem) (name : String), item.name = some name →
    name ∈ Handler.silentNames target → answer [item] = []
  valued : ∀ (item : QueryItem) (name : String), item.name = some name →
    name ∈ Handler.valuedNames target → ∃ value, answer [item] = [(name, value)]
  /-- The children of an item count only in so far as they ask for the states of one sensor. -/
  children : ∀ item item' : QueryItem, item.name = item'.name →
    (item.name = some "sensorStates" → ∀ slot, item.AsksFor slot ↔ item'.AsksFor slot) →
      answer [item] = answer [item']
  /-- Each item is narrowed to the slot that it asks for itself. -/
  narrowed : target = .device → ∃ states, ∀ item : QueryItem, item.name = some "sensorStates" →
    ((∀ slot, ¬item.AsksFor slot) → answer [item] = [("sensorStates", .object states)]) ∧
      ∀ slot, item.AsksFor slot →
        answer [item] = [("sensorStates", .object (states.filter (·.1 = toString slot)))]

theorem answersByItem_filterMap (s : BridgeState) (identity : Identity) (now : Time)
    (target : Target) :
    AnswersByItem target (·.filterMap (answerItem target s identity now)) := by
  have hone : ∀ item : QueryItem, [item].filterMap (answerItem target s identity now) =
      (answerItem target s identity now item).toList := fun item => by
    cases h : answerItem target s identity now item <;> simp [h]
  have hnone : ∀ (item : QueryItem) (name : String), item.name = some name →
      name ∉ Handler.valuedNames target →
        [item].filterMap (answerItem target s identity now) = [] := by
    intro item name h hvalued
    rw [← isSome_answerItem_iff h, Option.not_isSome_iff_eq_none] at hvalued
    rw [hone, hvalued, Option.toList_none]
  constructor
  case append => exact fun _ _ => List.filterMap_append
  case wildcard =>
    intro item h
    rw [hone, answerItem_of_wildcard h, Option.toList_none]
  case unknown => exact fun item name h hvalued _ => hnone item name h hvalued
  case silent =>
    intro item name h hsilent
    exact hnone item name h (Handler.not_mem_valuedNames_of_mem_silentNames hsilent)
  case valued =>
    intro item name h hvalued
    have hsome : (answerItem target s identity now item).isSome = true :=
      (isSome_answerItem_iff h).2 hvalued
    obtain ⟨e, he⟩ := Option.isSome_iff_exists.1 hsome
    have hname : e.1 = name := by
      rw [answerItem_of_some h] at he
      obtain ⟨_, -, hread⟩ := Option.bind_eq_some_iff.1 he
      obtain ⟨_, -, rfl⟩ := Option.map_eq_some_iff.1 hread
      rfl
    exact ⟨e.2, by rw [hone, he, ← hname, Option.toList_some]⟩
  case children =>
    intro item item' hname hslot
    rw [hone, hone, answerItem_congr hname]
    intro hstates
    refine Option.ext fun slot => ?_
    rw [Handler.requestedSlot_eq_some_iff, Handler.requestedSlot_eq_some_iff, hslot hstates]
  case narrowed =>
    rintro rfl
    have hstates : ∀ item : QueryItem, item.name = some "sensorStates" →
        [item].filterMap (answerItem .device s identity now) = [("sensorStates",
          .object (Handler.sensorStates s now (Handler.requestedSlot item)))] := by
      intro item h
      rw [hone, answerItem_of_some h]
      rfl
    refine ⟨Handler.sensorStates s now none, fun item h => ⟨fun hnot => ?_, fun slot hasks => ?_⟩⟩
    · rw [hstates item h, Handler.requestedSlot_eq_none hnot]
    · rw [hstates item h, Handler.requestedSlot_eq_some_iff.2 hasks, Handler.sensorStates_some]

namespace Bridge

variable {σ : Type}

/-- Whom a request is for decides which table answers it. -/
theorem handle_getProperty_of_target {b : Bridge} {dsuid : String} {target : Target}
    (h : b.identity.target dsuid = some target) (line : Line σ) (t : Transport)
    (query : List QueryItem) (now : Time) (w : World σ) :
    b.handle line t (.getProperty dsuid query) now w =
      ⟨.properties (query.filterMap (answerItem target w.state b.identity now)), w, []⟩ := by
  simp only [handle, getProperties, h, Option.map_some]

/-- **Requests for properties are answered item by item, and change nothing.** A dSUID of the bridge
means the container or the device; all those that mean the container are answered alike. -/
theorem getProperty_byItem (b : Bridge) (line : Line σ) (t : Transport) (now : Time) (w : World σ) :
    (∀ dsuid, b.identity.IsOwn dsuid → ∃ target answer,
      (target = .container ↔ b.identity.MeansContainer dsuid) ∧ AnswersByItem target answer ∧
        ∀ query, b.handle line t (.getProperty dsuid query) now w =
          ⟨.properties (answer query), w, []⟩) ∧
      (∀ dsuid dsuid', b.identity.MeansContainer dsuid → b.identity.MeansContainer dsuid' →
        ∀ query, b.handle line t (.getProperty dsuid query) now w =
          b.handle line t (.getProperty dsuid' query) now w) ∧
      ∀ dsuid query, (b.handle line t (.getProperty dsuid query) now w).world = w := by
  refine ⟨?_, ?_, ?_⟩
  · intro dsuid hown
    by_cases h : b.identity.MeansContainer dsuid
    · exact ⟨.container, _, by simp [h], answersByItem_filterMap w.state b.identity now .container,
        fun query => handle_getProperty_of_target (Identity.target_of_meansContainer h) ..⟩
    · have hdevice : b.identity.MeansDevice dsuid := ⟨hown.resolve_left h, h⟩
      exact ⟨.device, _, by simp [h], answersByItem_filterMap w.state b.identity now .device,
        fun query => handle_getProperty_of_target (Identity.target_eq_device_iff.2 hdevice) ..⟩
  · intro dsuid dsuid' h h' query
    rw [handle_getProperty_of_target (Identity.target_of_meansContainer h),
      handle_getProperty_of_target (Identity.target_of_meansContainer h')]
  · intro dsuid query
    rw [handle]
    split <;> rfl

/-- Each of the two requests for states is answered as far as it goes. The name that only the
container knows, the wildcard and the name that the device has no value for are passed over. -/
theorem getProperty_byItem_mixed :
    let b : Bridge := .sample
    let line : Line Unit := ⟨"", fun _ _ => (.none, ())⟩
    let w : World Unit := ⟨.new .sample {}, .empty, ()⟩
    let dsuid := b.identity.device.text
    let states : QueryItem := .named "sensorStates"
    let query := [.named "displayId", states.withChild (.named "1"), {}, .named "deviceStates",
      .named "name", states]
    b.identity.IsOwn dsuid ∧ ¬b.identity.MeansContainer dsuid ∧ ∃ answer,
      AnswersByItem .device answer ∧
        b.handle line (.loopback true) (.getProperty dsuid query) 0 w =
          ⟨.properties (answer query), w, []⟩ ∧
          (answer query).map Prod.fst = ["sensorStates", "name", "sensorStates"] := by
  intro b line w dsuid states query
  have hdevice : b.identity.MeansDevice dsuid :=
    Identity.target_eq_device_iff.1 (by decide +kernel)
  have hown : b.identity.IsOwn dsuid := .inr hdevice.1
  obtain ⟨target, answer, htarget, hanswer, hhandle⟩ :=
    (b.getProperty_byItem line (.loopback true) 0 w).1 dsuid hown
  cases target with
  | container => exact absurd (htarget.1 rfl) hdevice.2
  | device =>
    refine ⟨hown, hdevice.2, answer, hanswer, hhandle query, ?_⟩
    have hget := handle_getProperty_of_target (Identity.target_eq_device_iff.2 hdevice) line
      (.loopback true) query 0 w
    rw [← Reply.properties.inj (congrArg Handled.reply (hget.symm.trans (hhandle query)))]
    rfl

end Bridge

end HumidifierBridge
