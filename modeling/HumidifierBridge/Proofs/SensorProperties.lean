import HumidifierBridge.Proofs.Addressing
import HumidifierBridge.Proofs.Course
import HumidifierBridge.Proofs.Slots
import HumidifierBridge.Proofs.WrittenNumbers

/-!
# Properties that go by slot

What the sensors are, how they report and what they have measured are three properties of the
device, and a push carries the last one too. Each has one entry for every slot with an active sensor
(`Profile.ListsActive`), however many slots without one lie in between.

A request for the states may ask for one slot (`QueryItem.AsksFor`). It is answered with what the
whole answer has for that slot, and a request that asks for none is answered in full.
-/

namespace HumidifierBridge

/-! ### Active slots -/

namespace Profile

/-- An active sensor is in the slot. -/
def IsActive (p : Profile) (slot : Nat) : Prop :=
  ∃ s, p.sensors[slot]? = some s ∧ s.active = true

/-- There is one entry for each active slot, under its decimal text, in ascending order of slots. -/
def ListsActive (p : Profile) (entries : Properties) : Prop :=
  ∃ slots : List Nat, slots.Pairwise (· < ·) ∧ (∀ i, i ∈ slots ↔ p.IsActive i) ∧
    entries.map Prod.fst = slots.map toString

theorem mem_map_activeSensors {p : Profile} {slot : Nat} :
    slot ∈ p.activeSensors.map Prod.fst ↔ p.IsActive slot := by
  simp only [List.mem_map, Prod.exists, mem_activeSensors, IsActive, exists_and_right,
    exists_eq_right]

/-- What is said of each active sensor goes by its slot. -/
theorem listsActive_map (p : Profile) (say : Nat × Sensor → Property) :
    p.ListsActive (p.activeSensors.map fun a => (toString a.1, say a)) := by
  refine ⟨p.activeSensors.map Prod.fst, p.pairwise_activeSensors,
    fun _ => mem_map_activeSensors, ?_⟩
  rw [List.map_map, List.map_map]
  rfl

/-- There is no entry for a slot without an active sensor. -/
theorem ListsActive.filter_eq_nil {p : Profile} {entries : Properties} (h : p.ListsActive entries)
    {slot : Nat} (hslot : ¬p.IsActive slot) : entries.filter (·.1 = toString slot) = [] := by
  obtain ⟨slots, -, hactive, hnames⟩ := h
  refine List.filter_eq_nil_iff.2 fun e he hname => hslot ?_
  have hmem : toString slot ∈ slots.map toString :=
    hnames ▸ List.mem_map.2 ⟨e, he, by simpa using hname⟩
  obtain ⟨i, hi, heq⟩ := List.mem_map.1 hmem
  obtain rfl : i = slot := Decimal.repr_inj.1 heq
  exact (hactive i).1 hi

end Profile

/-! ### Requests -/

/-- The request asks for one slot: its first child is named by the number of the slot. -/
def QueryItem.AsksFor (item : QueryItem) (slot : Nat) : Prop :=
  slot < 2 ^ 64 ∧ ∃ child rest name, item.children = child :: rest ∧ child.name = some name ∧
    Decimal.Writes slot name

namespace Handler

theorem requestedSlot_eq_some_iff {item : QueryItem} {slot : Nat} :
    requestedSlot item = some slot ↔ item.AsksFor slot := by
  have hsize : UInt64.size = 2 ^ 64 := rfl
  simp only [requestedSlot, Option.bind_eq_bind, Option.bind_eq_some_iff,
    Option.ite_none_right_eq_some, Option.some.injEq, Decimal.unsigned?_trim_eq_some_iff, hsize]
  constructor
  · rintro ⟨child, hchild, name, hname, n, hn, hlt, rfl⟩
    obtain ⟨rest, hrest⟩ := List.head?_eq_some_iff.1 hchild
    exact ⟨hlt, child, rest, name, hrest, hname, hn⟩
  · rintro ⟨hlt, child, rest, name, hrest, hname, hn⟩
    exact ⟨child, by rw [hrest]; rfl, name, hname, slot, hn, hlt, rfl⟩

theorem requestedSlot_eq_none {item : QueryItem} (h : ∀ slot, ¬item.AsksFor slot) :
    requestedSlot item = none :=
  Option.eq_none_iff_forall_ne_some.2 fun slot hslot => h slot (requestedSlot_eq_some_iff.1 hslot)

/-- The states that are asked for are those of all sensors, restricted to the slot. -/
theorem sensorStates_some (s : BridgeState) (now : Time) (slot : Nat) :
    sensorStates s now (some slot) =
      (sensorStates s now none).filter (·.1 = toString slot) := by
  rw [sensorStates_none, sensorStates, List.filter_map]
  congr 1
  refine List.filter_congr fun a _ => ?_
  simp [Bool.beq_eq_decide_eq, eq_comm]

end Handler

/-- An item is answered by the handler of its name. -/
theorem answerItem_of_some {target : Target} {s : BridgeState} {identity : Identity} {now : Time}
    {item : QueryItem} {name : String} (h : item.name = some name) :
    answerItem target s identity now item =
      (Handler.find? target name).bind fun handler =>
        (handler.read ⟨s, identity, item, now⟩).map (name, ·) := by
  cases hfind : Handler.find? target name with
  | none => simp [answerItem, h, hfind]
  | some handler => simp [answerItem, h, hfind, Option.map_eq_bind]

namespace Bridge

/-- What is answered to a request to the device for one property. -/
theorem getProperties_of_find? {b : Bridge} {s : BridgeState} {dsuid name : String}
    {item : QueryItem} {now : Time} {read : ReadContext → Property}
    (h : b.identity.MeansDevice dsuid) (hname : item.name = some name)
    (hfind : Handler.find? .device name = some (.readOnly read)) :
    b.getProperties s dsuid [item] now = some [(name, read ⟨s, b.identity, item, now⟩)] := by
  simp [getProperties, Identity.target_eq_device_iff.2 h, answerItem_of_some hname, hfind,
    Handler.readOnly]

/-- The properties that go by slot, as they are asked for and as they are pushed. -/
structure SlotProperties (b : Bridge) (s : BridgeState) (now : Time) (dsuid : String)
    (descriptions settings states : Properties) : Prop where
  get_descriptions : ∀ item : QueryItem, item.name = some "sensorDescriptions" →
    b.getProperties s dsuid [item] now = some [("sensorDescriptions", .object descriptions)]
  get_settings : ∀ item : QueryItem, item.name = some "sensorSettings" →
    b.getProperties s dsuid [item] now = some [("sensorSettings", .object settings)]
  get_states : ∀ item : QueryItem, item.name = some "sensorStates" → (∀ slot, ¬item.AsksFor slot) →
    b.getProperties s dsuid [item] now = some [("sensorStates", .object states)]
  pushed : Property.get? (s.pushProperties now) "sensorStates" = some (.object states)
  slots : s.profile.ListsActive descriptions ∧ s.profile.ListsActive settings ∧
    s.profile.ListsActive states
  /-- Each state is that of the sensor in the slot. -/
  state : ∀ (slot : Nat) (sensor : Sensor), s.profile.sensors[slot]? = some sensor →
    sensor.active = true → Property.get? states (toString slot) = some (.object [
      ("value", .double sensor.reading.value),
      ("age", .int (sensor.reading.ageSeconds now s.profile.loadedAt)),
      ("error", .int 0)])
  get_narrowed : ∀ (item : QueryItem) (slot : Nat), item.name = some "sensorStates" →
    item.AsksFor slot → b.getProperties s dsuid [item] now =
      some [("sensorStates", .object (states.filter (·.1 = toString slot)))]
  /-- Nothing is said of a slot without an active sensor. -/
  inactive : ∀ slot, ¬s.profile.IsActive slot → states.filter (·.1 = toString slot) = []

/-- **The properties of the sensors agree on the slots.** -/
theorem exists_slotProperties (b : Bridge) (s : BridgeState) (now : Time) {dsuid : String}
    (h : b.identity.MeansDevice dsuid) :
    ∃ descriptions settings states, b.SlotProperties s now dsuid descriptions settings states := by
  have hstates : s.profile.ListsActive (Handler.sensorStates s now none) := by
    rw [Handler.sensorStates_none]
    exact s.profile.listsActive_map _
  refine ⟨Handler.sensorDescriptions s, Handler.sensorSettings s,
    Handler.sensorStates s now none, ?_⟩
  constructor
  case get_descriptions => exact fun item hname => getProperties_of_find? h hname rfl
  case get_settings => exact fun item hname => getProperties_of_find? h hname rfl
  case get_states =>
    intro item hname hnone
    rw [getProperties_of_find? h hname rfl, Handler.requestedSlot_eq_none hnone]
  case pushed => rfl
  case slots => exact ⟨s.profile.listsActive_map _, s.profile.listsActive_map _, hstates⟩
  case state =>
    intro slot sensor hsensor hactive
    exact Handler.get?_sensorStates (Profile.mem_activeSensors.2 ⟨hsensor, hactive⟩)
  case get_narrowed =>
    intro item slot hname hasks
    rw [getProperties_of_find? h hname rfl, Handler.requestedSlot_eq_some_iff.2 hasks,
      Handler.sensorStates_some]
  case inactive => exact fun slot hslot => hstates.filter_eq_nil hslot

/-- The sensor in the middle is not active. The device is named in lower case, and the number of the
last slot has blanks, a sign and zeros before it. -/
theorem exists_slotProperties_with_gap :
    let b : Bridge := .sample
    let dsuid := String.ofList (List.replicate 34 'f')
    let sensors : List Sensor := [
      { name := "hum", kind := .humidity, usage := 1 },
      { name := "temp", kind := .temperature, usage := 1, active := false },
      { name := "wet", kind := ⟨7⟩, usage := 1 }]
    let s : BridgeState := .new { Profile.sample with sensors } {}
    let last : QueryItem := { name := some "sensorStates", children := [.named "\t +002 "] }
    b.identity.MeansDevice dsuid ∧ last.AsksFor 2 ∧ ∃ descriptions settings states,
      b.SlotProperties s 0 dsuid descriptions settings states ∧
        states.map Prod.fst = ["0", "2"] ∧
          b.getProperties s dsuid [last] 0 =
            some [("sensorStates", .object (states.filter (·.1 = "2")))] := by
  intro b dsuid sensors s last
  have hdevice : b.identity.MeansDevice dsuid :=
    Identity.target_eq_device_iff.1 (by decide +kernel)
  have hlast : last.AsksFor 2 := Handler.requestedSlot_eq_some_iff.1 (by decide +kernel)
  obtain ⟨descriptions, settings, states, h⟩ := b.exists_slotProperties s 0 hdevice
  refine ⟨hdevice, hlast, descriptions, settings, states, h, ?_, h.get_narrowed last 2 rfl hlast⟩
  obtain rfl := Property.object.inj (Option.some.inj h.pushed)
  rfl

end Bridge

end HumidifierBridge
