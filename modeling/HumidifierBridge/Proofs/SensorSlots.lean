import HumidifierBridge.Proofs.Sections
import HumidifierBridge.Proofs.Slots
import HumidifierBridge.Proofs.StateParts

/-!
# The slot of a name

A value for a name goes to the first active sensor of that name, and the first is also what is found
under the name. `Profile.slotOf?` is its slot, and with it a reading is said slot by slot
(`getElem?_recordReading`).

That a name means one sensor is due to `Profile.addSensor`, which refuses a second one.
`Profile.Slotted` is what it keeps up, and `Profile.slots_takeAll` is about all profiles that are
filled by it: a sensor stays in its slot, and a name means the sensor of one slot or none.
-/

namespace HumidifierBridge

namespace Profile

/-! ### Slots and names -/

variable {p : Profile} {name : String} {slot : Nat} {s : Sensor}

/-- The slot of the active sensor that a name means. -/
def slotOf? (p : Profile) (name : String) : Option Nat := p.sensors.findIdx? (answersTo name)

/-- Slots do not depend on the readings. -/
theorem slotOf?_of_bare {q : Profile} (h : q.sensors.map Sensor.bare = p.sensors.map Sensor.bare)
    (name : String) : q.slotOf? name = p.slotOf? name := by
  have hbare : ∀ p : Profile, p.slotOf? name =
      (p.sensors.map Sensor.bare).findIdx? (answersTo name) := by
    intro p
    rw [slotOf?, List.findIdx?_map]
    rfl
  rw [hbare, h, ← hbare]

theorem findSensor?_eq (p : Profile) (name : String) :
    p.findSensor? name = (p.slotOf? name).bind (p.sensors[·]?) :=
  List.find?_eq_bind_findIdx?_getElem?

/-- A value is for the sensor in the slot of the name. -/
theorem getElem?_recordReading (p : Profile) (name : String) (value : Binary64) (now : Time)
    (slot : Nat) :
    (p.recordReading name value now).1.sensors[slot]? = p.sensors[slot]?.map fun s =>
      if p.slotOf? name = some slot then { s with reading := s.reading.record value now } else s :=
  getElem?_modifyFirst (answersTo name) _ p.sensors slot

/-- No two sensors have the same name, whatever the case of its letters. -/
def Distinct (p : Profile) : Prop := p.sensors.Pairwise fun s t => s.isNamed t.name = false

theorem Distinct.of_bare {q : Profile} (h : p.Distinct)
    (hbare : q.sensors.map Sensor.bare = p.sensors.map Sensor.bare) : q.Distinct := by
  have hmap : ∀ p : Profile, p.Distinct ↔
      (p.sensors.map Sensor.bare).Pairwise fun s t => s.isNamed t.name = false := by
    intro p
    rw [Distinct, List.pairwise_map]
    rfl
  rw [hmap, hbare, ← hmap]
  exact h

/-- Different sensors have different names. -/
theorem Distinct.eq_of_sameFold (h : p.Distinct) {i j : Nat} {t : Sensor}
    (hs : p.sensors[i]? = some s) (ht : p.sensors[j]? = some t)
    (hsname : Ascii.sameFold s.name name = true) (htname : Ascii.sameFold t.name name = true) :
    i = j := by
  obtain ⟨hi, rfl⟩ := List.getElem?_eq_some_iff.1 hs
  obtain ⟨hj, rfl⟩ := List.getElem?_eq_some_iff.1 ht
  have hapart : ∀ {i j : Nat} (hi : i < p.sensors.length) (hj : j < p.sensors.length), i < j →
      Ascii.sameFold p.sensors[i].name name = true →
        Ascii.sameFold p.sensors[j].name name = true → False := by
    intro i j hi hj hij hiname hjname
    have hdiffer := List.pairwise_iff_getElem.1 h i j hi hj hij
    rw [Ascii.sameFold_comm] at hjname
    rw [Sensor.isNamed, Ascii.sameFold_trans hiname hjname] at hdiffer
    cases hdiffer
  rcases Nat.lt_trichotomy i j with hij | hij | hij
  · exact (hapart hi hj hij hsname htname).elim
  · exact hij
  · exact (hapart hj hi hij htname hsname).elim

/-- Where names are distinct, a name means the active sensor that has it. -/
theorem Distinct.slotOf?_eq_some_iff (h : p.Distinct) :
    p.slotOf? name = some slot ↔
      ∃ s, (slot, s) ∈ p.activeSensors ∧ Ascii.sameFold s.name name = true := by
  simp only [slotOf?, List.findIdx?_eq_some_iff_getElem, mem_activeSensors, answersTo,
    Sensor.isNamed, Bool.and_eq_true]
  constructor
  · rintro ⟨hslot, ⟨hactive, hname⟩, -⟩
    exact ⟨p.sensors[slot], ⟨List.getElem?_eq_getElem hslot, hactive⟩, hname⟩
  · rintro ⟨s, ⟨hs, hactive⟩, hname⟩
    obtain ⟨hslot, rfl⟩ := List.getElem?_eq_some_iff.1 hs
    refine ⟨hslot, ⟨hactive, hname⟩, ?_⟩
    rintro i hi ⟨-, hiname⟩
    exact absurd (h.eq_of_sameFold (List.getElem?_eq_getElem _) hs hiname hname) (Nat.ne_of_lt hi)

/-- A name without a slot is that of no active sensor. -/
theorem slotOf?_eq_none_iff :
    p.slotOf? name = none ↔ ∀ a ∈ p.activeSensors, Ascii.sameFold a.2.name name = false := by
  simp only [slotOf?, List.findIdx?_eq_none_iff, answersTo, Bool.and_eq_false_iff, Sensor.isNamed]
  constructor
  · rintro h ⟨i, t⟩ ha
    obtain ⟨ht, hactive⟩ := mem_activeSensors.1 ha
    rcases h t (List.mem_of_getElem? ht) with hinactive | hname
    · rw [hactive] at hinactive
      cases hinactive
    · exact hname
  · intro h t ht
    obtain ⟨i, hi⟩ := List.getElem?_of_mem ht
    by_cases hactive : t.active = true
    · exact .inr (h (i, t) (mem_activeSensors.2 ⟨hi, hactive⟩))
    · exact .inl (Bool.not_eq_true _ ▸ hactive)

/-- Where profiles differ in readings only, a sensor is active in both, in the same slot. -/
theorem exists_activeSensor_of_bare {q : Profile}
    (h : q.sensors.map Sensor.bare = p.sensors.map Sensor.bare) (hs : (slot, s) ∈ p.activeSensors) :
    ∃ t, (slot, t) ∈ q.activeSensors ∧ t.bare = s.bare := by
  obtain ⟨hslot, hactive⟩ := mem_activeSensors.1 hs
  have hbare : q.sensors[slot]?.map Sensor.bare = some s.bare := by
    rw [← List.getElem?_map, h, List.getElem?_map, hslot, Option.map_some]
  obtain ⟨t, ht, hsame⟩ := Option.map_eq_some_iff.1 hbare
  have hactive : t.active = true := (congrArg Sensor.active hsame).trans hactive
  exact ⟨t, mem_activeSensors.2 ⟨ht, hactive⟩, hsame⟩

/-- A name means the sensor in a slot. It is the only active one of that name, it is what is found
under the name, and a value for the name changes its reading and nothing else. -/
structure Locates (p : Profile) (name : String) (slot : Nat) (s : Sensor) : Prop where
  slotted : (slot, s) ∈ p.activeSensors
  named : Ascii.sameFold s.name name = true
  only : ∀ a ∈ p.activeSensors, Ascii.sameFold a.2.name name = true → a = (slot, s)
  found : p.findSensor? name = some s
  recorded : ∀ value now, p.recordReading name value now =
    ({ p with
        sensors := p.sensors.set slot { s with reading := s.reading.record value now } },
      some (s.reading.differs value))

/-- A name means no sensor. No active one has it, nothing is found under it, and a value for it
changes nothing. -/
structure Lacks (p : Profile) (name : String) : Prop where
  unnamed : ∀ a ∈ p.activeSensors, Ascii.sameFold a.2.name name = false
  not_found : p.findSensor? name = none
  not_recorded : ∀ value now, p.recordReading name value now = (p, none)

theorem Distinct.locates (h : p.Distinct) (hslot : p.slotOf? name = some slot) :
    ∃ s, p.Locates name slot s := by
  obtain ⟨s, hs, hname⟩ := h.slotOf?_eq_some_iff.1 hslot
  have hget := (mem_activeSensors.1 hs).1
  have hfound : p.findSensor? name = some s := by
    rw [p.findSensor?_eq, hslot, Option.bind_some, hget]
  refine ⟨s, hs, hname, ?_, hfound, ?_⟩
  · rintro ⟨i, t⟩ ht htname
    obtain rfl := h.eq_of_sameFold (mem_activeSensors.1 ht).1 hget htname hname
    rw [eq_of_mem_activeSensors ht hs]
  · intro value now
    refine Prod.ext ?_ (by simp only [recordReading, hfound, Option.map_some])
    refine congrArg (fun sensors => { p with sensors }) (List.ext_getElem? fun i => ?_)
    have hrecord := p.getElem?_recordReading name value now i
    simp only [recordReading] at hrecord
    rw [hrecord, hslot, List.getElem?_set]
    by_cases hi : slot = i
    · obtain ⟨hlength, -⟩ := List.getElem?_eq_some_iff.1 hget
      rw [← hi, hget, if_pos rfl, if_pos hlength, Option.map_some, if_pos rfl]
    · simp [hi]

theorem lacks_of_slotOf? (hslot : p.slotOf? name = none) : p.Lacks name := by
  have hfound : p.findSensor? name = none := by rw [p.findSensor?_eq, hslot, Option.bind_none]
  refine ⟨slotOf?_eq_none_iff.1 hslot, hfound, fun value now => ?_⟩
  refine Prod.ext ?_ (by simp only [recordReading, hfound, Option.map_none])
  refine congrArg (fun sensors => { p with sensors }) (List.ext_getElem? fun i => ?_)
  have hrecord := p.getElem?_recordReading name value now i
  simp only [recordReading] at hrecord
  rw [hrecord, hslot]
  simp

/-! ### Filling the slots -/

/-- A call that has to do with the sensors of a profile. -/
inductive SensorCall where
  | add (s : Sensor)
  | record (name : String) (value : Binary64) (now : Time)
  /-- A push is put together, for which the readings count as reported. -/
  | report (now : Time)

/-- The profile after a call. One that adds a sensor may be refused, which leaves the profile as it
is. -/
def take (p : Profile) : SensorCall → Profile
  | .add s => (p.addSensor s).toOption.getD p
  | .record name value now => (p.recordReading name value now).1
  | .report now => p.markReported now

/-- There is room for a sensor, and no other has its name. -/
def Fits (p : Profile) (s : Sensor) : Prop :=
  p.sensors.length < 15 ∧ ∀ t ∈ p.sensors, Ascii.sameFold t.name s.name = false

instance (p : Profile) (s : Sensor) : Decidable (p.Fits s) := inferInstanceAs (Decidable (_ ∧ _))

theorem isOk_addSensor (p : Profile) (s : Sensor) :
    (p.addSensor s).isOk = true ↔ p.Fits s := by
  constructor
  · intro hok
    cases hadd : p.addSensor s with
    | ok q =>
      obtain ⟨hroom, hnew, -⟩ := addSensor_eq_ok.1 hadd
      exact ⟨hroom, hnew⟩
    | error e =>
      rw [hadd] at hok
      cases hok
  · rintro ⟨hroom, hnew⟩
    rw [addSensor_eq_ok.2 ⟨hroom, hnew, rfl⟩]
    rfl

/-- A sensor that fits is added behind the others, and one that does not changes nothing. -/
theorem take_add (p : Profile) (s : Sensor) :
    p.take (.add s) = if p.Fits s then { p with sensors := p.sensors ++ [s] } else p := by
  have hfits := p.isOk_addSensor s
  cases hadd : p.addSensor s with
  | ok q =>
    rw [if_pos (hfits.1 (by rw [hadd]; rfl)), ← (addSensor_eq_ok.1 hadd).2.2]
    simp only [take, hadd, Except.toOption, Option.getD_some]
  | error e =>
    have hrefused : ¬ p.Fits s := by
      rw [← hfits, hadd]
      exact Bool.false_ne_true
    rw [if_neg hrefused]
    simp only [take, hadd, Except.toOption, Option.getD_none]

/-- The profile after calls one after the other. -/
def takeAll (p : Profile) (calls : List SensorCall) : Profile := calls.foldl take p

/-- There is a slot for every sensor, and no two have the same name. -/
structure Slotted (p : Profile) : Prop where
  length_le : p.sensors.length ≤ sensorCapacity
  distinct : p.Distinct

theorem Slotted.of_bare {q : Profile} (h : p.Slotted)
    (hbare : q.sensors.map Sensor.bare = p.sensors.map Sensor.bare) : q.Slotted where
  length_le := by
    have hlength := congrArg List.length hbare
    rw [List.length_map, List.length_map] at hlength
    exact hlength ▸ h.length_le
  distinct := h.distinct.of_bare hbare

/-- A sensor that fits is slotted with the others. -/
theorem Slotted.append (h : p.Slotted) (hfits : p.Fits s) :
    Slotted { p with sensors := p.sensors ++ [s] } := by
  refine ⟨?_, List.pairwise_append.2 ⟨h.distinct, List.pairwise_singleton .., ?_⟩⟩
  · rw [List.length_append, List.length_singleton]
    exact hfits.1
  · intro t ht u hu
    rw [List.mem_singleton.1 hu]
    exact hfits.2 t ht

/-- A call adds a sensor that fits, or leaves all sensors as they are but for their readings. -/
theorem take_cases (p : Profile) (call : SensorCall) :
    (∃ s, p.Fits s ∧ p.take call = { p with sensors := p.sensors ++ [s] }) ∨
      (p.take call).sensors.map Sensor.bare = p.sensors.map Sensor.bare := by
  cases call with
  | add s =>
    rw [take_add]
    split
    · rename_i hfits
      exact .inl ⟨s, hfits, rfl⟩
    · exact .inr rfl
  | record name value now => exact .inr (p.map_bare_recordReading name value now)
  | report now => exact .inr (p.map_bare_markReported now)

theorem Slotted.take (h : p.Slotted) (call : SensorCall) : (p.take call).Slotted := by
  rcases p.take_cases call with ⟨s, hfits, hadded⟩ | hbare
  · exact hadded ▸ h.append hfits
  · exact h.of_bare hbare

theorem Slotted.takeAll (h : p.Slotted) (calls : List SensorCall) : (p.takeAll calls).Slotted := by
  induction calls generalizing p with
  | nil => exact h
  | cons call rest ih => exact ih (h.take call)

/-- Sensors stay where they are and what they are; what a call adds comes behind them. -/
theorem prefix_take (p : Profile) (call : SensorCall) :
    p.sensors.map Sensor.bare <+: (p.take call).sensors.map Sensor.bare := by
  rcases p.take_cases call with ⟨s, -, hadded⟩ | hbare
  · rw [hadded, List.map_append]
    exact List.prefix_append ..
  · exact hbare ▸ List.prefix_rfl

theorem prefix_takeAll (p : Profile) (calls : List SensorCall) :
    p.sensors.map Sensor.bare <+: (p.takeAll calls).sensors.map Sensor.bare := by
  induction calls generalizing p with
  | nil => exact List.prefix_rfl
  | cons call rest ih => exact (p.prefix_take call).trans (ih (p.take call))

/-- **A sensor has its slot, and a name its sensor.** Whatever calls fill the slots from none: there
are at most fifteen sensors, with different names; a sensor is added behind the others if it fits,
and is refused without a change if not; sensors stay where and what they are, whatever calls follow;
and a name means the sensor of one slot or none. -/
theorem slots_takeAll (p : Profile) (done more : List SensorCall) :
    let filled := ({ p with sensors := [] } : Profile).takeAll done
    filled.sensors.length ≤ 15 ∧
      filled.sensors.Pairwise (fun s t => Ascii.sameFold s.name t.name = false) ∧
      (∀ s, ((filled.addSensor s).isOk = true ↔ filled.Fits s) ∧ filled.take (.add s) =
        if filled.Fits s then { filled with sensors := filled.sensors ++ [s] } else filled) ∧
      filled.sensors.map Sensor.bare <+: (filled.takeAll more).sensors.map Sensor.bare ∧
      ∀ name, (∃ slot s, filled.Locates name slot s) ∨ filled.Lacks name := by
  intro filled
  have hempty : Slotted { p with sensors := [] } := ⟨Nat.zero_le _, List.Pairwise.nil⟩
  have hslotted : filled.Slotted := hempty.takeAll done
  refine ⟨hslotted.length_le, hslotted.distinct, ?_, filled.prefix_takeAll more, ?_⟩
  · intro s
    exact ⟨filled.isOk_addSensor s, filled.take_add s⟩
  · intro name
    cases hslot : filled.slotOf? name with
    | none => exact .inr (lacks_of_slotOf? hslot)
    | some slot => exact .inl ⟨slot, hslotted.distinct.locates hslot⟩

end Profile

end HumidifierBridge
