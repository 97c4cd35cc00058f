import HumidifierBridge.Profile.Scene

/-!
# Tables of scenes

A scene table has its numbers twice, in the slots and in a set beside them. Storing settings goes by
the slots, while saving and looking up go by the set, and a number is accepted by both or by none.

`SceneTable.WellFormed` says that the two agree, and `WellFormed.take_cases` all that a request does
to such a table. From there `bounded_map_of_requests` describes a table by the requests that it
accepted since it was empty: an ordered map that never outgrows its capacity.
-/

namespace HumidifierBridge.SceneTable

/-! ### Slots -/

@[simp] theorem numbers_replaceFirst (number : Int32) (spec : SceneSpec)
    (slots : List SceneSlot) :
    (replaceFirst number spec slots).map (·.number) = slots.map (·.number) := by
  induction slots with
  | nil => rfl
  | cons slot rest ih =>
    simp only [replaceFirst]
    split <;> simp [ih]

@[simp] theorem length_replaceFirst (number : Int32) (spec : SceneSpec)
    (slots : List SceneSlot) : (replaceFirst number spec slots).length = slots.length := by
  rw [← List.length_map (·.number), numbers_replaceFirst, List.length_map]

theorem lookup?_cons (number : Int32) (slot : SceneSlot) (rest : List SceneSlot) :
    lookup? number (slot :: rest) =
      if slot.number = number then some slot.spec else lookup? number rest := by
  by_cases h : slot.number = number <;> simp [lookup?, h]

theorem lookup?_append (number : Int32) (slots more : List SceneSlot) :
    lookup? number (slots ++ more) = (lookup? number slots).or (lookup? number more) := by
  simp only [lookup?, List.find?_append, Option.map_or]

/-- What is not in a slot is not found there. -/
theorem lookup?_eq_none_iff {number : Int32} {slots : List SceneSlot} :
    lookup? number slots = none ↔ number ∉ slots.map (·.number) := by
  simp [lookup?]

/-- Replaced settings are found under their number, and all others as before. -/
theorem lookup?_replaceFirst {number : Int32} {spec : SceneSpec} {slots : List SceneSlot}
    (h : number ∈ slots.map (·.number)) (other : Int32) :
    lookup? other (replaceFirst number spec slots) =
      if other = number then some spec else lookup? other slots := by
  induction slots with
  | nil => cases h
  | cons slot rest ih =>
    simp only [replaceFirst]
    by_cases hslot : slot.number = number
    · simp only [hslot, if_true, lookup?_cons, eq_comm (a := number)]
      split <;> rfl
    · have hrest : number ∈ rest.map (·.number) := by
        rcases List.mem_cons.1 h with h | h
        · exact absurd h.symm hslot
        · exact h
      simp only [hslot, if_false, lookup?_cons, ih hrest]
      by_cases hother : other = number
      · simp [hother, hslot]
      · simp [hother]

/-! ### Requests -/

/-- A request to a table. -/
inductive Request where
  /-- A number is to have these settings. -/
  | insert (number : Int32) (spec : SceneSpec)
  /-- A number is to be in the table. -/
  | save (number : Int32)

/-- The number that a request is about. -/
def Request.number : Request → Int32
  | .insert number _ => number
  | .save number => number

/-- The settings that a request brings. -/
def Request.spec? : Request → Option SceneSpec
  | .insert _ spec => some spec
  | .save _ => none

/-- Takes a request. -/
def take (t : SceneTable) : Request → SceneTable × SaveOutcome
  | .insert number spec => t.insert number spec
  | .save number => t.save number

/-- The table after requests. -/
def takeAll (t : SceneTable) (requests : List Request) : SceneTable :=
  requests.foldl (fun t r => (t.take r).1) t

/-- The requests that are accepted, in their order. -/
def accepted (t : SceneTable) : List Request → List Request
  | [] => []
  | r :: rest =>
    let (next, outcome) := t.take r
    if outcome = .full then next.accepted rest else r :: next.accepted rest

/-- The settings of a number, given the accepted requests: those inserted last, none of them where
the number was only saved. -/
def settings (accepted : List Request) (number : Int32) : Option SceneSpec :=
  if number ∈ accepted.map Request.number then
    some (((accepted.filter (·.number = number)).filterMap Request.spec?).getLast?.getD {})
  else none

/-- One more request brings its settings, and without any leaves those that there are. -/
theorem settings_concat (accepted : List Request) (r : Request) (number : Int32) :
    settings (accepted ++ [r]) number =
      if r.number = number then some (r.spec?.getD ((settings accepted number).getD {}))
      else settings accepted number := by
  by_cases hnumber : r.number = number
  · have hlast : ((accepted.filter (·.number = number)).filterMap Request.spec?).getLast?.getD {} =
        (settings accepted number).getD {} := by
      by_cases hmem : number ∈ accepted.map Request.number
      · simp only [settings, if_pos hmem, Option.getD_some]
      · have hnone : accepted.filter (·.number = number) = [] := by
          refine List.filter_eq_nil_iff.2 fun s hs hsnumber => hmem ?_
          exact List.mem_map.2 ⟨s, hs, by simpa using hsnumber⟩
        rw [hnone, settings, if_neg hmem]
        rfl
    have hmem : number ∈ (accepted ++ [r]).map Request.number := by simp [hnumber]
    rw [settings, if_pos hmem, if_pos hnumber, ← hlast]
    cases hspec : r.spec? <;> simp [hnumber, hspec, List.getLast?_append]
  · have hother : ¬ number = r.number := fun h => hnumber h.symm
    simp [settings, hnumber, hother]

/-! ### What a request does -/

/-- Settings that find no room leave the table as it is. -/
theorem insert_of_full {t : SceneTable} {number : Int32} {spec : SceneSpec}
    (h : (t.insert number spec).2 = .full) : (t.insert number spec).1 = t := by
  by_cases hmem : number ∈ t.numbers
  · simp [insert, hmem] at h
  · by_cases hroom : t.slots.length ≥ t.capacity
    · simp [insert, hmem, hroom]
    · simp [insert, hmem, hroom] at h

/-- So does a number that finds no room. -/
theorem save_of_full {t : SceneTable} {number : Int32} (h : (t.save number).2 = .full) :
    (t.save number).1 = t := by
  by_cases hset : t.isConfigured number = true
  · simp [save, hset]
  · rw [save, if_neg hset] at h ⊢
    exact insert_of_full h

@[simp] theorem capacity_take (t : SceneTable) (r : Request) :
    (t.take r).1.capacity = t.capacity := by
  have hinsert : ∀ number spec, (t.insert number spec).1.capacity = t.capacity := by
    intro number spec
    simp only [insert]
    split
    · rfl
    · split <;> rfl
  cases r with
  | insert number spec => exact hinsert number spec
  | save number =>
    simp only [take, save]
    split
    · rfl
    · exact hinsert number {}

/-- The slots and the set have the same numbers, each once, and there is room for them. -/
structure WellFormed (t : SceneTable) : Prop where
  configured_eq : t.configured = t.numbers
  nodup : t.numbers.Nodup
  length_le : t.slots.length ≤ t.capacity

theorem wellFormed_empty (capacity : Nat) : WellFormed { capacity } :=
  ⟨rfl, List.nodup_nil, Nat.zero_le _⟩

namespace WellFormed

variable {t : SceneTable} (h : t.WellFormed)
include h

/-- The set has the numbers of the slots. -/
theorem isConfigured_iff (number : Int32) : t.isConfigured number = true ↔ number ∈ t.numbers := by
  simp [isConfigured, h.configured_eq]

/-- The set makes no difference to what is found. -/
theorem get?_eq (number : Int32) : t.get? number = lookup? number t.slots := by
  by_cases hmem : number ∈ t.numbers
  · rw [get?, if_pos ((h.isConfigured_iff number).2 hmem)]
  · rw [get?, if_neg (hmem ∘ (h.isConfigured_iff number).1), lookup?_eq_none_iff.2 hmem]

/-- All that a request does: it finds the number, or there is no room, or it takes a new slot. -/
theorem take_cases (r : Request) :
    (r.number ∈ t.numbers ∧ t.take r =
      ({ t with slots := r.spec?.elim t.slots (replaceFirst r.number · t.slots) }, .updated)) ∨
    (r.number ∉ t.numbers ∧ t.slots.length = t.capacity ∧ t.take r = (t, .full)) ∨
    (r.number ∉ t.numbers ∧ t.slots.length < t.capacity ∧ t.take r =
      ({ t with
          slots := t.slots ++ [⟨r.number, r.spec?.getD {}⟩]
          configured := t.configured ++ [r.number] }, .added)) := by
  by_cases hmem : r.number ∈ t.numbers
  · refine .inl ⟨hmem, ?_⟩
    cases r with
    | insert number spec => exact if_pos hmem
    | save number => exact if_pos ((h.isConfigured_iff number).2 hmem)
  · have hset : r.number ∉ t.configured := by rwa [h.configured_eq]
    -- A save of a number that is not there inserts it without settings.
    have htake : t.take r = t.insert r.number (r.spec?.getD {}) := by
      cases r with
      | insert number spec => rfl
      | save number => exact if_neg (hmem ∘ (h.isConfigured_iff number).1)
    rw [htake, insert, if_neg hmem]
    by_cases hroom : t.slots.length < t.capacity
    · refine .inr (.inr ⟨hmem, hroom, ?_⟩)
      rw [if_neg (Nat.not_le.2 hroom), addNumber, if_neg hset]
    · have hfull := Nat.not_lt.1 hroom
      exact .inr (.inl ⟨hmem, Nat.le_antisymm h.length_le hfull, if_pos hfull⟩)

/-- A number that is not there takes a new slot, if there is room. -/
theorem insert_of_notMem {number : Int32} (hmem : number ∉ t.numbers)
    (hroom : t.slots.length < t.capacity) (spec : SceneSpec) :
    (t.insert number spec).1 =
      { t with
        slots := t.slots ++ [⟨number, spec⟩]
        configured := t.configured ++ [number] } := by
  rcases h.take_cases (.insert number spec) with ⟨hfound, -⟩ | ⟨-, hfull, -⟩ | ⟨-, -, heq⟩
  · exact absurd hfound hmem
  · exact absurd hfull (Nat.ne_of_lt hroom)
  · exact congrArg Prod.fst heq

/-- A request leaves the table well-formed. -/
theorem take (r : Request) : (t.take r).1.WellFormed := by
  rcases h.take_cases r with ⟨hmem, heq⟩ | ⟨hmem, hfull, heq⟩ | ⟨hmem, hroom, heq⟩
  · rw [heq]
    cases r.spec? with
    | none => exact h
    | some spec =>
      exact ⟨by simpa [numbers] using h.configured_eq, by simpa [numbers] using h.nodup,
        by simpa using h.length_le⟩
  · rw [heq]
    exact h
  · rw [heq]
    refine ⟨by simp [numbers, h.configured_eq], ?_, by simpa using Nat.succ_le_of_lt hroom⟩
    simpa [numbers, List.nodup_append] using
      ⟨h.nodup, fun slot hslot hnumber => hmem (hnumber ▸ List.mem_map_of_mem hslot)⟩

/-- New numbers, as many as there is room for, take new slots one after the other. -/
theorem takeAll_insert {slots : List SceneSlot} (hroom : t.slots.length + slots.length ≤ t.capacity)
    (hnodup : (t.numbers ++ slots.map (·.number)).Nodup) :
    t.takeAll (slots.map fun slot => .insert slot.number slot.spec) =
      { t with
        slots := t.slots ++ slots
        configured := t.configured ++ slots.map (·.number) } := by
  induction slots generalizing t with
  | nil => simp [takeAll]
  | cons slot rest ih =>
    simp only [List.length_cons] at hroom
    have hnew : slot.number ∉ t.numbers := by
      simp only [List.map_cons, List.nodup_append, List.mem_cons] at hnodup
      exact fun hmem => hnodup.2.2 _ hmem _ (.inl rfl) rfl
    have hinsert := h.insert_of_notMem hnew (by omega) slot.spec
    have hnext : (t.insert slot.number slot.spec).1.WellFormed :=
      h.take (.insert slot.number slot.spec)
    rw [hinsert] at hnext
    have hrest := ih hnext
      (by simp only [List.length_append, List.length_singleton]; omega)
      (by simpa [numbers] using hnodup)
    rw [List.map_cons]
    change (t.insert slot.number slot.spec).1.takeAll _ = _
    rw [hinsert]
    exact hrest.trans (by simp)

end WellFormed

/-! ### What requests do -/

/-- The table is the ordered map that the accepted requests make. -/
structure Holds (t : SceneTable) (capacity : Nat) (accepted : List Request) : Prop where
  capacity_eq : t.capacity = capacity
  length_le : t.slots.length ≤ capacity
  nodup : t.numbers.Nodup
  /-- The numbers are in the order in which they were first accepted. -/
  numbers_eq : t.numbers = (accepted.map Request.number).eraseDups
  /-- The set has the numbers of the slots. -/
  mem_configured_iff : ∀ number, number ∈ t.configured ↔ number ∈ t.numbers
  get?_eq : ∀ number, t.get? number = settings accepted number

/-- The table goes about a request as a map of its capacity does. -/
structure Answers (t : SceneTable) (r : Request) : Prop where
  full_iff : (t.take r).2 = .full ↔ r.number ∉ t.numbers ∧ t.slots.length = t.capacity
  updated_iff : (t.take r).2 = .updated ↔ r.number ∈ t.numbers
  added_iff : (t.take r).2 = .added ↔ r.number ∉ t.numbers ∧ t.slots.length < t.capacity
  eq_of_full : (t.take r).2 = .full → (t.take r).1 = t
  /-- What is in the table stays in it. -/
  stays : ∀ number, t.isConfigured number = true → (t.take r).1.isConfigured number = true
  /-- To save a scene changes the settings of none that is there. -/
  get?_save : ∀ number spec, t.get? number = some spec →
    (t.save r.number).1.get? number = some spec

theorem WellFormed.answers {t : SceneTable} (h : t.WellFormed) (r : Request) : t.Answers r := by
  have hsave : ∀ number spec, t.get? number = some spec →
      (t.save r.number).1.get? number = some spec := by
    intro number spec hspec
    have hafter := h.take (.save r.number)
    rw [h.get?_eq] at hspec
    rw [show t.save r.number = t.take (.save r.number) from rfl, hafter.get?_eq]
    rcases h.take_cases (.save r.number) with ⟨-, heq⟩ | ⟨-, -, heq⟩ | ⟨-, -, heq⟩
    · rw [heq]
      exact hspec
    · rw [heq]
      exact hspec
    · rw [heq, lookup?_append, hspec, Option.some_or]
  rcases h.take_cases r with ⟨hmem, heq⟩ | ⟨hmem, hfull, heq⟩ | ⟨hmem, hroom, heq⟩
  · refine ⟨?_, ?_, ?_, ?_, ?_, hsave⟩
    · simp [heq, hmem]
    · simp [heq, hmem]
    · simp [heq, hmem]
    · simp [heq]
    · rw [heq]
      exact fun _ => id
  · refine ⟨?_, ?_, ?_, ?_, ?_, hsave⟩
    · simp [heq, hmem, hfull]
    · simp [heq, hmem]
    · simp [heq, hfull]
    · simp [heq]
    · rw [heq]
      exact fun _ => id
  · refine ⟨?_, ?_, ?_, ?_, ?_, hsave⟩
    · simp [heq, Nat.ne_of_lt hroom]
    · simp [heq, hmem]
    · simp [heq, hmem, hroom]
    · simp [heq]
    · rw [heq]
      simp only [isConfigured, List.mem_append, decide_eq_true_eq]
      exact fun _ => .inl

/-- The table is well-formed and the map of what it accepted. -/
structure Follows (t : SceneTable) (capacity : Nat) (accepted : List Request) : Prop where
  wellFormed : t.WellFormed
  capacity_eq : t.capacity = capacity
  numbers_eq : t.numbers = (accepted.map Request.number).eraseDups
  lookup?_eq : ∀ number, lookup? number t.slots = settings accepted number

namespace Follows

variable {t : SceneTable} {capacity : Nat} {done : List Request}

theorem holds (h : t.Follows capacity done) : t.Holds capacity done where
  capacity_eq := h.capacity_eq
  length_le := h.capacity_eq ▸ h.wellFormed.length_le
  nodup := h.wellFormed.nodup
  numbers_eq := h.numbers_eq
  mem_configured_iff number := by rw [h.wellFormed.configured_eq]
  get?_eq number := (h.wellFormed.get?_eq number).trans (h.lookup?_eq number)

/-- One more number is last in the order of first acceptance, unless it was there. -/
theorem eraseDups_concat (numbers : List Int32) (number : Int32) :
    (numbers ++ [number]).eraseDups =
      if number ∈ numbers then numbers.eraseDups else numbers.eraseDups ++ [number] := by
  rw [List.eraseDups_append]
  by_cases h : number ∈ numbers <;> simp [List.removeAll, h, List.eraseDups_cons]

theorem take (h : t.Follows capacity done) (r : Request) :
    (t.take r).1.Follows capacity (if (t.take r).2 = .full then done else done ++ [r]) := by
  have hwell := h.wellFormed.take r
  have hdone : r.number ∈ done.map Request.number ↔ r.number ∈ t.numbers := by
    rw [h.numbers_eq, List.mem_eraseDups]
  rcases h.wellFormed.take_cases r with ⟨hmem, heq⟩ | ⟨hmem, hfull, heq⟩ | ⟨hmem, hroom, heq⟩
  · rw [heq] at hwell ⊢
    refine ⟨hwell, h.capacity_eq, ?_, fun number => ?_⟩
    · have hnumbers : (done ++ [r]).map Request.number = done.map Request.number ++ [r.number] := by
        simp
      rw [if_neg (by simp), hnumbers, eraseDups_concat, if_pos (hdone.2 hmem), ← h.numbers_eq]
      cases r.spec? with
      | none => rfl
      | some spec => exact numbers_replaceFirst r.number spec t.slots
    · rw [if_neg (by simp), settings_concat, ← h.lookup?_eq]
      cases hspec : r.spec? with
      | some spec =>
        simp only [Option.elim_some, Option.getD_some, lookup?_replaceFirst hmem,
          eq_comm (a := number)]
      | none =>
        -- A saved number that was there has settings already.
        simp only [Option.elim_none, Option.getD_none]
        split
        · rename_i hnumber
          obtain ⟨spec, hfound⟩ := Option.ne_none_iff_exists'.1
            fun hnone => lookup?_eq_none_iff.1 hnone (hnumber ▸ hmem)
          rw [hfound, Option.getD_some]
        · rfl
  · rw [heq]
    exact h
  · rw [heq] at hwell ⊢
    refine ⟨hwell, h.capacity_eq, ?_, fun number => ?_⟩
    · have hnumbers : (done ++ [r]).map Request.number = done.map Request.number ++ [r.number] := by
        simp
      rw [if_neg (by simp), hnumbers, eraseDups_concat, if_neg (hmem ∘ hdone.1), ← h.numbers_eq]
      simp [numbers]
    · rw [if_neg (by simp), settings_concat, ← h.lookup?_eq, lookup?_append, lookup?_cons]
      by_cases hnumber : r.number = number
      · have hnone := lookup?_eq_none_iff.2 (hnumber ▸ hmem)
        simp [hnumber, hnone]
      · simp [hnumber, lookup?]

/-- So does a table after any requests. -/
theorem takeAll (h : t.Follows capacity done) (requests : List Request) :
    (t.takeAll requests).Follows capacity (done ++ t.accepted requests) := by
  induction requests generalizing t done with
  | nil => simpa [SceneTable.takeAll, accepted] using h
  | cons r rest ih =>
    have hrest := ih (h.take r)
    change ((t.take r).1.takeAll rest).Follows _ _
    by_cases hfull : (t.take r).2 = .full
    · rw [if_pos hfull] at hrest
      simpa only [accepted, if_pos hfull] using hrest
    · rw [if_neg hfull, List.append_assoc, List.singleton_append] at hrest
      simpa only [accepted, if_neg hfull] using hrest

end Follows

theorem follows_empty (capacity : Nat) : Follows { capacity } capacity [] :=
  ⟨wellFormed_empty capacity, rfl, rfl, fun _ => rfl⟩

/-- **A table is a bounded ordered map.** After any requests to an empty table it holds what it
accepted, and it answers the next request accordingly. -/
theorem bounded_map_of_requests (capacity : Nat) (requests : List Request) (next : Request) :
    let empty : SceneTable := { capacity }
    (empty.takeAll requests).Holds capacity (empty.accepted requests) ∧
      (empty.takeAll requests).Answers next := by
  intro empty
  have hfollows := (follows_empty capacity).takeAll requests
  rw [List.nil_append] at hfollows
  exact ⟨hfollows.holds, hfollows.wellFormed.answers next⟩

end HumidifierBridge.SceneTable
