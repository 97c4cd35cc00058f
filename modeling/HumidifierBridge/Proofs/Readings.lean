import HumidifierBridge.Bridge.State

/-!
# What a report does to the sensors

A report changes readings and nothing else of a sensor. Where it is no news, every sensor that has
been read had been read before, and its value is the one it had: `Sensor.NoNews` compares a sensor
before and after, and `noNews_applyReport` says so slot by slot.

A value of a report goes to the active sensor of its name, and `findSensor?_recordReading` says what
is found under a name after it.
-/

namespace HumidifierBridge

namespace Binary64

theorem sameValue_trans {x y z : Binary64} (hxy : x.sameValue y = true)
    (hyz : y.sameValue z = true) : x.sameValue z = true := by
  simp only [sameValue, Bool.and_eq_true, Bool.not_eq_true', Bool.or_eq_true, beq_iff_eq]
    at hxy hyz ⊢
  obtain ⟨⟨hx, -⟩, hxy⟩ := hxy
  obtain ⟨⟨-, hz⟩, hyz⟩ := hyz
  refine ⟨⟨hx, hz⟩, ?_⟩
  have hmagnitude : ∀ {u v : Binary64}, u.bits = v.bits → u.magnitude = v.magnitude := by
    intro u v h
    simp [magnitude, h]
  rcases hxy with hxy | ⟨hx0, hy0⟩
  · rcases hyz with hyz | ⟨hy0, hz0⟩
    · exact .inl (hxy.trans hyz)
    · exact .inr ⟨(hmagnitude hxy).trans hy0, hz0⟩
  · rcases hyz with hyz | ⟨-, hz0⟩
    · exact .inr ⟨hx0, (hmagnitude hyz).symm.trans hy0⟩
    · exact .inr ⟨hx0, hz0⟩

/-- The same pattern, or patterns of the same number. -/
def Agrees (x y : Binary64) : Prop := x = y ∨ x.sameValue y = true

instance (x y : Binary64) : Decidable (x.Agrees y) := inferInstanceAs (Decidable (_ ∨ _))

theorem Agrees.refl (x : Binary64) : x.Agrees x := .inl rfl

theorem Agrees.trans {x y z : Binary64} (hxy : x.Agrees y) (hyz : y.Agrees z) : x.Agrees z := by
  rcases hxy with rfl | hxy
  · exact hyz
  · rcases hyz with rfl | hyz
    · exact .inr hxy
    · exact .inr (sameValue_trans hxy hyz)

/-- A number has its own value. -/
theorem sameValue_self {x : Binary64} (h : x.isNaN = false) : x.sameValue x = true := by
  simp [sameValue, h]

theorem sameValue_comm (x y : Binary64) : x.sameValue y = y.sameValue x := by
  simp only [sameValue, Bool.and_comm, Bool.beq_comm]

/-- The same pattern of a number is the same number. -/
theorem Agrees.sameValue {x y : Binary64} (h : x.Agrees y) (hx : x.isNaN = false) :
    x.sameValue y = true := by
  rcases h with rfl | h
  · exact sameValue_self hx
  · exact h

end Binary64

/-- After a reading another value is news if it is another number. -/
theorem Reading.differs_record (r : Reading) (value other : Binary64) (now : Time) :
    (r.record value now).differs other = !value.sameValue other := rfl

/-- A sensor without its reading. -/
def Sensor.bare (s : Sensor) : Sensor := { s with reading := {} }

@[simp] theorem Sensor.bare_bare (s : Sensor) : s.bare.bare = s.bare := rfl

/-- After as before, a sensor that has been read shows the value that it showed. -/
structure Sensor.NoNews (before after : Sensor) : Prop where
  active : after.active = before.active
  read : after.reading.lastQueried.isSome → before.reading.lastQueried.isSome
  value : after.reading.lastQueried.isSome → before.reading.value.Agrees after.reading.value

namespace Sensor.NoNews

theorem refl (s : Sensor) : NoNews s s := ⟨rfl, id, fun _ => .refl _⟩

theorem trans {s t u : Sensor} (hst : NoNews s t) (htu : NoNews t u) : NoNews s u where
  active := htu.active.trans hst.active
  read := fun h => hst.read (htu.read h)
  value := fun h => (hst.value (htu.read h)).trans (htu.value h)

/-- A value that is no news leaves the sensor as it was. -/
theorem record {s : Sensor} {value : Binary64} {now : Time}
    (h : s.reading.differs value = false) :
    NoNews s { s with reading := s.reading.record value now } := by
  simp only [Reading.differs, Bool.or_eq_false_iff, Bool.not_eq_false'] at h
  obtain ⟨hread, hvalue⟩ := h
  exact ⟨rfl, fun _ => by simpa using hread, fun _ => .inr hvalue⟩

end Sensor.NoNews

namespace Profile

/-- No sensor has been read yet. -/
def IsUnread (p : Profile) : Prop := ∀ s ∈ p.sensors, s.reading.lastQueried = none

theorem map_modifyFirst {α β : Type} {test : α → Bool} {f : α → α} {g : α → β}
    (h : ∀ a, g (f a) = g a) (l : List α) : (modifyFirst test f l).map g = l.map g := by
  induction l with
  | nil => rfl
  | cons a as ih =>
    simp only [modifyFirst]
    split <;> simp [h, ih]

theorem map_bare_recordReading (p : Profile) (name : String) (value : Binary64) (now : Time) :
    (p.recordReading name value now).1.sensors.map Sensor.bare = p.sensors.map Sensor.bare := by
  refine map_modifyFirst (fun s => ?_) p.sensors
  rfl

theorem map_bare_markReported (p : Profile) (now : Time) :
    (p.markReported now).sensors.map Sensor.bare = p.sensors.map Sensor.bare := by
  rw [markReported, List.map_map]
  refine List.map_congr_left fun sensor _ => ?_
  simp only [Function.comp_apply]
  split <;> rfl

/-- Place by place, only what stands in the first place of a kind is changed. -/
theorem getElem?_modifyFirst {α : Type} (test : α → Bool) (f : α → α) (l : List α) (i : Nat) :
    (modifyFirst test f l)[i]? =
      l[i]?.map fun a => if l.findIdx? test = some i then f a else a := by
  induction l generalizing i with
  | nil => simp [modifyFirst]
  | cons a rest ih =>
    by_cases ha : test a = true
    · cases i <;> simp [modifyFirst, List.findIdx?_cons, ha]
    · cases i <;> simp [modifyFirst, List.findIdx?_cons, ha, ih]

/-- Slot by slot, no news between two profiles. -/
def NoNews (before after : Profile) : Prop :=
  ∀ ⦃slot : Nat⦄ ⦃t : Sensor⦄, after.sensors[slot]? = some t →
    ∃ s, before.sensors[slot]? = some s ∧ Sensor.NoNews s t

theorem NoNews.refl (p : Profile) : NoNews p p := fun _ t ht => ⟨t, ht, .refl t⟩

theorem NoNews.trans {p q r : Profile} (hpq : NoNews p q) (hqr : NoNews q r) : NoNews p r := by
  intro slot u hu
  obtain ⟨t, ht, htu⟩ := hqr hu
  obtain ⟨s, hs, hst⟩ := hpq ht
  exact ⟨s, hs, hst.trans htu⟩

theorem noNews_recordReading {p : Profile} {name : String} {value : Binary64} {now : Time}
    (h : (p.recordReading name value now).2.getD false = false) :
    NoNews p (p.recordReading name value now).1 := by
  intro slot t ht
  simp only [recordReading, getElem?_modifyFirst, Option.map_eq_some_iff] at ht
  obtain ⟨s, hs, rfl⟩ := ht
  refine ⟨s, hs, ?_⟩
  split
  · rename_i hslot
    have hfind : p.findSensor? name = some s := by
      rw [findSensor?, List.find?_eq_bind_findIdx?_getElem?, hslot, Option.bind_some, hs]
    exact .record (by simpa [recordReading, hfind] using h)
  · exact .refl s

/-! ### The sensor of a name -/

theorem answersTo_congr {name other : String} (h : Ascii.sameFold name other = true) :
    answersTo name = answersTo other := by
  funext s
  have hnamed : s.isNamed name = s.isNamed other := by
    rw [Bool.eq_iff_iff]
    constructor
    · intro hname
      exact Ascii.sameFold_trans hname h
    · intro hother
      exact Ascii.sameFold_trans hother (Ascii.sameFold_comm name other ▸ h)
  rw [answersTo, answersTo, hnamed]

/-- No sensor answers to two names. -/
theorem answersTo_of_not_sameFold {name other : String} (h : Ascii.sameFold name other = false)
    {s : Sensor} (hname : answersTo name s = true) : answersTo other s = false := by
  rw [Bool.eq_false_iff]
  intro hother
  simp only [answersTo, Bool.and_eq_true, Sensor.isNamed] at hname hother
  have hsame := Ascii.sameFold_trans (Ascii.sameFold_comm s.name name ▸ hname.2) hother.2
  rw [h] at hsame
  cases hsame

theorem findSensor?_congr (p : Profile) {name other : String}
    (h : Ascii.sameFold name other = true) : p.findSensor? name = p.findSensor? other := by
  rw [findSensor?, findSensor?, answersTo_congr h]

/-- The first element of a kind, after it was changed. -/
theorem find?_modifyFirst {α : Type} {test : α → Bool} {f : α → α} (hf : ∀ a, test (f a) = test a)
    (l : List α) : (modifyFirst test f l).find? test = (l.find? test).map f := by
  induction l with
  | nil => rfl
  | cons a rest ih =>
    by_cases ha : test a = true
    · have hfa : test (f a) = true := (hf a).trans ha
      simp [modifyFirst, ha, hfa]
    · simp [modifyFirst, ha, ih]

/-- The first element of another kind stays as it is. -/
theorem find?_modifyFirst_of_disjoint {α : Type} {test other : α → Bool} {f : α → α}
    (hf : ∀ a, other (f a) = other a) (hdisjoint : ∀ a, test a = true → other a = false)
    (l : List α) : (modifyFirst test f l).find? other = l.find? other := by
  induction l with
  | nil => rfl
  | cons a rest ih =>
    by_cases ha : test a = true
    · have hother := hdisjoint a ha
      have hfa : other (f a) = false := (hf a).trans hother
      simp [modifyFirst, ha, hother, hfa]
    · simp only [modifyFirst, ha, if_false, Bool.false_eq_true, List.find?_cons, ih]

/-- A reading changes the sensor of the name, and that only. -/
theorem findSensor?_recordReading (p : Profile) (name other : String) (value : Binary64)
    (now : Time) :
    (p.recordReading name value now).1.findSensor? other = (p.findSensor? other).map fun s =>
      if Ascii.sameFold name other then { s with reading := s.reading.record value now }
      else s := by
  have hreading : ∀ name s, answersTo name { s with reading := s.reading.record value now } =
      answersTo name s := fun _ _ => rfl
  by_cases h : Ascii.sameFold name other = true
  · simp only [h, if_true, findSensor?, recordReading, ← answersTo_congr h]
    exact find?_modifyFirst (hreading name) p.sensors
  · simp only [h, if_false, Bool.false_eq_true, findSensor?, recordReading, Option.map_id']
    rw [Bool.not_eq_true] at h
    exact find?_modifyFirst_of_disjoint (hreading other) (fun _ => answersTo_of_not_sameFold h)
      p.sensors

/-- Whether a name means a sensor does not depend on the readings. -/
theorem isSome_findSensor?_congr {p q : Profile}
    (h : p.sensors.map Sensor.bare = q.sensors.map Sensor.bare)
    (name : String) : (p.findSensor? name).isSome = (q.findSensor? name).isSome := by
  have hbare : ∀ p : Profile, (p.findSensor? name).map Sensor.bare =
      (p.sensors.map Sensor.bare).find? (answersTo name) := by
    intro p
    rw [findSensor?, List.find?_map]
    rfl
  rw [← Option.isSome_map (f := Sensor.bare), hbare, h, ← hbare, Option.isSome_map]

end Profile

namespace BridgeState

/-- Values change readings only. -/
theorem foldl_offer_eq (now : Time) (values : List (String × Binary64)) (s : Profile × Bool) :
    (values.foldl (offer now) s).1 =
      { s.1 with sensors := (values.foldl (offer now) s).1.sensors } := by
  induction values generalizing s with
  | nil => rfl
  | cons v rest ih => exact ih (offer now s v)

theorem map_bare_foldl_offer (now : Time) (values : List (String × Binary64))
    (s : Profile × Bool) :
    (values.foldl (offer now) s).1.sensors.map Sensor.bare = s.1.sensors.map Sensor.bare := by
  induction values generalizing s with
  | nil => rfl
  | cons v rest ih =>
    rw [List.foldl_cons, ih]
    exact s.1.map_bare_recordReading v.1 v.2 now

/-- The flag that notes a change is never taken back by later values. -/
theorem foldl_offer_of_false {now : Time} {values : List (String × Binary64)} {s : Profile × Bool}
    (h : (values.foldl (offer now) s).2 = false) :
    s.2 = false ∧ s.1.NoNews (values.foldl (offer now) s).1 := by
  induction values generalizing s with
  | nil => exact ⟨h, .refl s.1⟩
  | cons v rest ih =>
    obtain ⟨hnews, hrest⟩ := ih h
    simp only [offer, Bool.or_eq_false_iff] at hnews
    exact ⟨hnews.1, (Profile.noNews_recordReading hnews.2).trans hrest⟩

@[simp] theorem dirty_applyReport (s : BridgeState) (report : DataReport) (now : Time) :
    (s.applyReport report now).1.dirty = s.dirty := rfl

/-- Of the profile a report changes the sensors only. -/
theorem profile_applyReport (s : BridgeState) (report : DataReport) (now : Time) :
    (s.applyReport report now).1.profile =
      { s.profile with sensors := (s.applyReport report now).1.profile.sensors } :=
  foldl_offer_eq now report.values (s.profile, false)

@[simp] theorem scenes_applyReport (s : BridgeState) (report : DataReport) (now : Time) :
    (s.applyReport report now).1.profile.scenes = s.profile.scenes := by
  rw [profile_applyReport]

theorem map_bare_applyReport (s : BridgeState) (report : DataReport) (now : Time) :
    (s.applyReport report now).1.profile.sensors.map Sensor.bare =
      s.profile.sensors.map Sensor.bare :=
  map_bare_foldl_offer now report.values (s.profile, false)

theorem noNews_applyReport {s : BridgeState} {report : DataReport} {now : Time}
    (h : (s.applyReport report now).2 = false) :
    s.profile.NoNews (s.applyReport report now).1.profile :=
  (foldl_offer_of_false (s := (s.profile, false)) h).2

end BridgeState

end HumidifierBridge
