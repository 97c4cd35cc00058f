import HumidifierBridge.Bridge.Handlers

/-!
# Slots on the bus

The bus names a sensor by the decimal text of its slot number. Different slots have different
texts, so that an entry of a list of properties that goes by slot is found under its own text.
-/

namespace HumidifierBridge

/-- Different numbers have different decimal texts. -/
@[simp] theorem Decimal.repr_inj {m n : Nat} : m.repr = n.repr ↔ m = n := by
  refine ⟨fun h => ?_, congrArg _⟩
  have hdigits : Nat.toDigits 10 m = Nat.toDigits 10 n := by
    rw [← Nat.toList_repr, ← Nat.toList_repr, h]
  rw [← Nat.ofDigitChars_ten_toDigits (n := m), hdigits, Nat.ofDigitChars_ten_toDigits]

/-- What is found first is what there is, if there is only one. -/
theorem find?_eq_some_of_unique {α : Type} {test : α → Bool} {l : List α} {a : α} (ha : a ∈ l)
    (htest : test a = true) (hunique : ∀ b ∈ l, test b = true → b = a) :
    l.find? test = some a := by
  cases h : l.find? test with
  | none => exact absurd htest (by simpa using List.find?_eq_none.1 h a ha)
  | some b => rw [hunique b (List.mem_of_find?_eq_some h) (List.find?_some h)]

namespace Profile

/-- The active sensors are those in the slots that hold an active one. -/
theorem mem_activeSensors {p : Profile} {slot : Nat} {s : Sensor} :
    (slot, s) ∈ p.activeSensors ↔ p.sensors[slot]? = some s ∧ s.active = true := by
  simp only [activeSensors, List.mem_filter, List.mem_mapIdx, Prod.mk.injEq]
  constructor
  · rintro ⟨⟨i, hi, rfl, rfl⟩, hactive⟩
    exact ⟨List.getElem?_eq_getElem hi, hactive⟩
  · rintro ⟨hs, hactive⟩
    obtain ⟨hi, rfl⟩ := List.getElem?_eq_some_iff.1 hs
    exact ⟨⟨slot, hi, rfl, rfl⟩, hactive⟩

/-- Active sensors come in ascending order of their slots. -/
theorem pairwise_activeSensors (p : Profile) :
    (p.activeSensors.map (·.1)).Pairwise (· < ·) := by
  have hslots : (p.sensors.mapIdx fun i s => (i, s)).map (·.1) = List.range p.sensors.length := by
    apply List.ext_getElem <;> simp
  have hsublist := (List.filter_sublist (p := fun a : Nat × Sensor => a.2.active)
    (l := p.sensors.mapIdx fun i s => (i, s))).map (·.1)
  rw [hslots] at hsublist
  exact List.pairwise_lt_range.sublist hsublist

theorem eq_of_mem_activeSensors {p : Profile} {slot : Nat} {s t : Sensor}
    (hs : (slot, s) ∈ p.activeSensors) (ht : (slot, t) ∈ p.activeSensors) : s = t := by
  have h := (mem_activeSensors.1 hs).1.symm.trans (mem_activeSensors.1 ht).1
  simpa using h

end Profile

namespace Handler

/-- Where none is asked for, the states of all active sensors are given. -/
theorem sensorStates_none (s : BridgeState) (now : Time) :
    sensorStates s now none =
      s.profile.activeSensors.map fun a => (toString a.1, .object (sensorState s now a.2)) := by
  rw [sensorStates, List.filter_eq_self.2]
  intro a _
  rfl

/-- The state of an active sensor stands under the text of its slot. -/
theorem get?_sensorStates {s : BridgeState} {now : Time} {slot : Nat} {sensor : Sensor}
    (h : (slot, sensor) ∈ s.profile.activeSensors) :
    Property.get? (sensorStates s now none) slot.repr =
      some (.object (sensorState s now sensor)) := by
  have hfind : s.profile.activeSensors.find? (fun a => a.1 = slot) = some (slot, sensor) := by
    refine find?_eq_some_of_unique h (by simp) ?_
    rintro ⟨i, t⟩ ht hi
    obtain rfl : i = slot := by simpa using hi
    rw [Profile.eq_of_mem_activeSensors ht h]
  simp [Property.get?, sensorStates, List.find?_map, hfind]

end Handler

end HumidifierBridge
