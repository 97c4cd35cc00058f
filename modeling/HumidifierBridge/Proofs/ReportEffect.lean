import HumidifierBridge.Proofs.Reads

/-!
# What a report comes to

Several values of a report may be for one sensor, since names are matched whatever the case of their
letters. The sensor takes them in the order of the report, so that it shows the last one, and keeps
as its previous value what it showed before that. Each value is compared with what is shown when its
turn comes: the report is news to a sensor (`Reading.IsNews`) if it was never read, or if two
neighbours among its value and the new ones are different numbers.

`BridgeState.reported_applyReport` says this of a whole report, for the sensors of all slots, where
no two sensors have the same name. Only then does a name mean one sensor; of two with the same name
the first active one would take all the values.
-/

namespace HumidifierBridge

namespace Binary64

/-- Two neighbours are different numbers. -/
def Steps (values : List Binary64) : Prop :=
  ∃ x y, [x, y] <:+: values ∧ x.sameValue y = false

theorem not_steps_singleton (x : Binary64) : ¬ Steps [x] := by
  rintro ⟨y, z, hinfix, -⟩
  have hlength : 2 ≤ 1 := hinfix.length_le
  exact absurd hlength (by decide)

theorem steps_cons_cons {x y : Binary64} {values : List Binary64} :
    Steps (x :: y :: values) ↔ x.sameValue y = false ∨ Steps (y :: values) := by
  constructor
  · rintro ⟨u, v, hinfix, hdiffer⟩
    rcases List.infix_cons_iff.1 hinfix with hfirst | hlater
    · simp only [List.cons_prefix_cons, List.nil_prefix, and_true] at hfirst
      obtain ⟨rfl, rfl⟩ := hfirst
      exact .inl hdiffer
    · exact .inr ⟨u, v, hlater, hdiffer⟩
  · rintro (hdiffer | ⟨u, v, hlater, hdiffer⟩)
    · exact ⟨x, y, List.infix_cons_iff.2 (.inl ⟨values, rfl⟩), hdiffer⟩
    · exact ⟨u, v, List.infix_cons_iff.2 (.inr hlater), hdiffer⟩

end Binary64

namespace Reading

/-- Values were taken one after the other, at one time. -/
structure Took (before : Reading) (values : List Binary64) (now : Time) (after : Reading) :
    Prop where
  value : values.getLast? = some after.value
  /-- The neighbour of the last value. -/
  previous : (before.value :: values).dropLast.getLast? = some after.previous
  lastQueried : after.lastQueried = some now
  lastReported : after.lastReported = before.lastReported

/-- Values are news if there was none before, or if not all of them are the number shown. -/
def IsNews (r : Reading) (values : List Binary64) : Prop :=
  values ≠ [] ∧ (r.lastQueried = none ∨ Binary64.Steps (r.value :: values))

theorem lastReported_recordAll (r : Reading) (values : List Binary64) (now : Time) :
    (r.recordAll values now).lastReported = r.lastReported := by
  induction values generalizing r with
  | nil => rfl
  | cons value rest ih => exact ih (r.record value now)

theorem took_recordAll (r : Reading) {values : List Binary64} (h : values ≠ []) (now : Time) :
    r.Took values now (r.recordAll values now) := by
  obtain ⟨earlier, last, rfl⟩ := (List.eq_nil_or_concat values).resolve_left h
  rw [List.concat_eq_append]
  have hlast : r.recordAll (earlier ++ [last]) now = (r.recordAll earlier now).record last now :=
    List.foldl_append ..
  refine ⟨?_, ?_, ?_, r.lastReported_recordAll _ now⟩
  · rw [hlast, List.getLast?_concat]
    rfl
  · rw [hlast, ← List.cons_append, List.dropLast_concat, List.getLast?_cons]
    exact congrArg some (r.value_recordAll earlier now).symm
  · rw [hlast]
    rfl

/-- A value is news by itself, or those after it are. -/
theorem isNews_cons (r : Reading) (value : Binary64) (rest : List Binary64) (now : Time) :
    r.IsNews (value :: rest) ↔
      r.differs value = true ∨ (r.record value now).IsNews rest := by
  have hdiffers : r.differs value = true ↔
      r.lastQueried = none ∨ r.value.sameValue value = false := by
    simp [differs]
  have hrest : (r.record value now).IsNews rest ↔ Binary64.Steps (value :: rest) := by
    cases rest with
    | nil => simp [IsNews, Binary64.not_steps_singleton]
    | cons next rest => simp [IsNews, record]
  rw [hdiffers, hrest, IsNews, Binary64.steps_cons_cons, or_assoc]
  simp

end Reading

/-- The values that are under the name of the sensor. -/
def Sensor.valuesIn (s : Sensor) (values : List (String × Binary64)) : List Binary64 :=
  (values.filter fun v => s.isNamed v.1).map (·.2)

namespace Profile

variable {p : Profile} {slot : Nat} {s : Sensor}

theorem valuesFor_cons (p : Profile) (slot : Nat) (v : String × Binary64)
    (rest : List (String × Binary64)) :
    p.valuesFor slot (v :: rest) =
      if p.slotOf? v.1 = some slot then v.2 :: p.valuesFor slot rest
      else p.valuesFor slot rest := by
  by_cases h : p.slotOf? v.1 = some slot <;> simp [valuesFor, h]

/-- Who takes a value does not depend on the readings. -/
theorem valuesFor_of_bare {q : Profile} (h : q.sensors.map Sensor.bare = p.sensors.map Sensor.bare)
    (slot : Nat) (values : List (String × Binary64)) :
    q.valuesFor slot values = p.valuesFor slot values := by
  simp only [valuesFor, slotOf?_of_bare h]

/-- The values are news to a reading if the first is its own and news, or if the rest is news after
that. -/
theorem isNews_valuesFor_cons (p : Profile) (slot : Nat) (r : Reading) (v : String × Binary64)
    (rest : List (String × Binary64)) (now : Time) :
    r.IsNews (p.valuesFor slot (v :: rest)) ↔
      (p.slotOf? v.1 = some slot ∧ r.differs v.2 = true) ∨
        (if p.slotOf? v.1 = some slot then r.record v.2 now else r).IsNews
          (p.valuesFor slot rest) := by
  rw [valuesFor_cons]
  by_cases hslot : p.slotOf? v.1 = some slot
  · simp only [hslot, if_true, true_and]
    exact r.isNews_cons v.2 _ now
  · simp [hslot]

/-- Where names are distinct, an active sensor takes the values under its name, and one that is not
active takes none. -/
theorem Distinct.valuesFor_eq (h : p.Distinct) (hs : p.sensors[slot]? = some s)
    (values : List (String × Binary64)) :
    p.valuesFor slot values = if s.active then s.valuesIn values else [] := by
  have hname : ∀ name, p.slotOf? name = some slot ↔ s.active = true ∧ s.isNamed name = true := by
    intro name
    rw [h.slotOf?_eq_some_iff]
    constructor
    · rintro ⟨t, ht, htname⟩
      obtain ⟨hslot, hactive⟩ := mem_activeSensors.1 ht
      rw [hs] at hslot
      cases hslot
      exact ⟨hactive, htname⟩
    · rintro ⟨hactive, hsname⟩
      exact ⟨s, mem_activeSensors.2 ⟨hs, hactive⟩, hsname⟩
  induction values with
  | nil => simp [valuesFor, Sensor.valuesIn]
  | cons v rest ih =>
    rw [valuesFor_cons, ih]
    by_cases hactive : s.active = true <;> by_cases hv : s.isNamed v.1 = true <;>
      simp [hname, Sensor.valuesIn, hactive, hv]

end Profile

namespace BridgeState

/-- A value is a change if it is news to the sensor that takes it. -/
theorem offer_snd (now : Time) (s : Profile × Bool) (v : String × Binary64) :
    (offer now s v).2 = true ↔ s.2 = true ∨ ∃ (slot : Nat) (t : Sensor),
      s.1.sensors[slot]? = some t ∧ s.1.slotOf? v.1 = some slot ∧
        t.reading.differs v.2 = true := by
  simp only [offer, Profile.recordReading, s.1.findSensor?_eq, Bool.or_eq_true]
  cases s.1.slotOf? v.1 with
  | none => simp
  | some slot => cases hslot : s.1.sensors[slot]? <;> simp [hslot]

/-- Values are a change if they are news to a sensor that takes them. -/
theorem foldl_offer_snd (now : Time) (values : List (String × Binary64)) (s : Profile × Bool) :
    (values.foldl (offer now) s).2 = true ↔ s.2 = true ∨ ∃ (slot : Nat) (t : Sensor),
      s.1.sensors[slot]? = some t ∧ t.reading.IsNews (s.1.valuesFor slot values) := by
  induction values generalizing s with
  | nil => simp [Profile.valuesFor, Reading.IsNews]
  | cons v rest ih =>
    have hvalues : ∀ slot, (offer now s v).1.valuesFor slot rest = s.1.valuesFor slot rest :=
      fun slot => Profile.valuesFor_of_bare (s.1.map_bare_recordReading v.1 v.2 now) slot rest
    -- The sensors that take the rest are those after the first value was recorded.
    have hrest : (∃ (slot : Nat) (t : Sensor), (offer now s v).1.sensors[slot]? = some t ∧
        t.reading.IsNews ((offer now s v).1.valuesFor slot rest)) ↔
          ∃ (slot : Nat) (t : Sensor), s.1.sensors[slot]? = some t ∧
            (if s.1.slotOf? v.1 = some slot then t.reading.record v.2 now
              else t.reading).IsNews (s.1.valuesFor slot rest) := by
      have hsensors : ∀ slot, (offer now s v).1.sensors[slot]? = _ :=
        s.1.getElem?_recordReading v.1 v.2 now
      simp [hsensors, hvalues, apply_ite Sensor.reading]
    rw [List.foldl_cons, ih, offer_snd, hrest, or_assoc]
    simp only [Profile.isNews_valuesFor_cons _ _ _ _ _ now, and_or_left, exists_or]

/-- A report was taken in: what it leaves of the state, and whether it was a change. -/
structure Reported (before : BridgeState) (report : DataReport) (now : Time) (after : BridgeState)
    (changed : Bool) : Prop where
  /-- Apart from the sensors and the operating state, nothing in the state changes. -/
  rest : after = { before with
    profile := { before.profile with sensors := after.profile.sensors }
    appliance := before.appliance.merge report.device }
  /-- No slot comes or goes. -/
  length : after.profile.sensors.length = before.profile.sensors.length
  kept : ∀ (slot : Nat) (t : Sensor), before.profile.sensors[slot]? = some t →
    (t.active = false ∨ t.valuesIn report.values = []) → after.profile.sensors[slot]? = some t
  taken : ∀ (slot : Nat) (t : Sensor), before.profile.sensors[slot]? = some t →
    t.active = true → t.valuesIn report.values ≠ [] →
      ∃ reading, after.profile.sensors[slot]? = some { t with reading } ∧
        t.reading.Took (t.valuesIn report.values) now reading
  changed_iff : changed = true ↔ ∃ t ∈ before.profile.sensors, t.active = true ∧
    t.reading.IsNews (t.valuesIn report.values)

/-- **What a report comes to**, where no two sensors have the same name. -/
theorem reported_applyReport {s : BridgeState} (h : s.profile.Distinct) (report : DataReport)
    (now : Time) :
    s.Reported report now (s.applyReport report now).1 (s.applyReport report now).2 where
  rest := by
    have hprofile := s.profile_applyReport report now
    rw [← hprofile]
    rfl
  length := by
    have hbare := congrArg List.length (s.map_bare_applyReport report now)
    simpa only [List.length_map] using hbare
  kept slot t ht hnone := by
    have hvalues : s.profile.valuesFor slot report.values = [] := by
      rw [h.valuesFor_eq ht]
      rcases hnone with hinactive | hnone
      · rw [hinactive, if_neg Bool.false_ne_true]
      · rw [hnone, ite_self]
    rw [s.getElem?_applyReport, ht, hvalues]
    rfl
  taken slot t ht hactive hsome := by
    rw [s.getElem?_applyReport, ht, h.valuesFor_eq ht, if_pos hactive]
    exact ⟨_, rfl, t.reading.took_recordAll hsome now⟩
  changed_iff := by
    have hchanged := foldl_offer_snd now report.values (s.profile, false)
    simp only [Bool.false_eq_true, false_or] at hchanged
    rw [applyReport, hchanged]
    constructor
    · rintro ⟨slot, t, ht, hnews⟩
      rw [h.valuesFor_eq ht] at hnews
      by_cases hactive : t.active = true
      · rw [if_pos hactive] at hnews
        exact ⟨t, List.mem_of_getElem? ht, hactive, hnews⟩
      · rw [if_neg hactive] at hnews
        exact absurd rfl hnews.1
    · rintro ⟨t, hmem, hactive, hnews⟩
      obtain ⟨slot, ht⟩ := List.getElem?_of_mem hmem
      refine ⟨slot, t, ht, ?_⟩
      rwa [h.valuesFor_eq ht, if_pos hactive]

/-- Two values for a sensor that has shown the second of them before, one for a sensor that is not
active, and one that is for none. -/
theorem reported_twice_for_one :
    let shown : Reading := { value := .ofInt 40, lastQueried := some 0, lastReported := some 1 }
    let p : Profile := { Profile.sample with
      sensors := [{ name := "Hum", kind := .humidity, usage := 1, reading := shown },
        { name := "temp", kind := .temperature, usage := 1, active := false }] }
    let report : DataReport := ⟨{ humidity := some 40 },
      [("HUM", .ofInt 41), ("filter", .one), ("hum", .ofInt 40), ("temp", .ofInt 20)]⟩
    let s := BridgeState.new p {}
    let after := s.applyReport report 5
    p.Distinct ∧ s.Reported report 5 after.1 after.2 ∧ after.2 = true ∧
      after.1.profile.sensors.map (·.reading) =
        [⟨.ofInt 40, .ofInt 41, some 5, some 1⟩, {}] := by
  intro shown p report s after
  have hdistinct : p.Distinct := by
    unfold Profile.Distinct
    decide
  exact ⟨hdistinct, reported_applyReport hdistinct report 5, by decide +kernel, by decide +kernel⟩

end BridgeState

end HumidifierBridge
