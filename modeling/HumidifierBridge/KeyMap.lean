/-!
# Maps with text keys

`KeyMap α` maps texts to values. Its entries are in ascending order of keys, each key once, so that
two maps with the same entries are equal. Keys are compared by code point, which is also the order
of their UTF-8 octets.
-/

namespace HumidifierBridge

namespace KeyMap

/-- Puts an entry in its place among ordered entries, in the stead of an earlier one of that key. -/
def insertEntry {α : Type} (key : String) (value : α) : List (String × α) → List (String × α)
  | [] => [(key, value)]
  | (k, v) :: rest =>
    if key < k then (key, value) :: (k, v) :: rest
    else if key = k then (key, value) :: rest
    else (k, v) :: insertEntry key value rest

/-- Entries in any order, brought into ascending order; the last of equal keys stays. -/
def sortEntries {α : Type} (entries : List (String × α)) : List (String × α) :=
  entries.foldl (fun sorted e => insertEntry e.1 e.2 sorted) []

/-- The value of a key among entries. -/
def lookup? {α : Type} (entries : List (String × α)) (key : String) : Option α :=
  (entries.find? (·.1 = key)).map (·.2)

/-- Ascending order of keys, each key once. -/
def Ordered {α : Type} (entries : List (String × α)) : Prop :=
  entries.Pairwise fun e f => e.1 < f.1

theorem lt_of_not_lt_of_ne {s t : String} (h : ¬ s < t) (hne : s ≠ t) : t < s := by
  refine Classical.byContradiction fun hts => hne ?_
  exact String.le_antisymm (String.not_lt.mp hts) (String.not_lt.mp h)

theorem fst_mem_insertEntry {α : Type} {key : String} {value : α} {entries : List (String × α)}
    {e : String × α} (h : e ∈ insertEntry key value entries) :
    e.1 = key ∨ ∃ f ∈ entries, f.1 = e.1 := by
  induction entries with
  | nil => simp [insertEntry] at h; simp [h]
  | cons f rest ih =>
    simp only [insertEntry] at h
    split at h
    · rcases List.mem_cons.1 h with rfl | h
      · exact .inl rfl
      · exact .inr ⟨e, h, rfl⟩
    · split at h
      · rcases List.mem_cons.1 h with rfl | h
        · exact .inl rfl
        · exact .inr ⟨e, List.mem_cons_of_mem _ h, rfl⟩
      · rcases List.mem_cons.1 h with rfl | h
        · exact .inr ⟨f, List.mem_cons_self, rfl⟩
        · rcases ih h with h | ⟨g, hg, hge⟩
          · exact .inl h
          · exact .inr ⟨g, List.mem_cons_of_mem _ hg, hge⟩

theorem ordered_insertEntry {α : Type} (key : String) (value : α) {entries : List (String × α)}
    (h : Ordered entries) : Ordered (insertEntry key value entries) := by
  induction entries with
  | nil => simp [insertEntry, Ordered]
  | cons f rest ih =>
    obtain ⟨hf, hrest⟩ := List.pairwise_cons.1 h
    simp only [insertEntry]
    split
    · rename_i hlt
      refine List.pairwise_cons.2 ⟨fun e he => ?_, h⟩
      rcases List.mem_cons.1 he with rfl | he
      · exact hlt
      · exact String.lt_trans hlt (hf e he)
    · rename_i hlt
      split
      · rename_i heq
        exact List.pairwise_cons.2 ⟨fun e he => heq ▸ hf e he, hrest⟩
      · rename_i hne
        refine List.pairwise_cons.2 ⟨fun e he => ?_, ih hrest⟩
        rcases fst_mem_insertEntry he with he | ⟨g, hg, hge⟩
        · exact he ▸ lt_of_not_lt_of_ne hlt hne
        · exact hge ▸ hf g hg

theorem ordered_foldl_insertEntry {α : Type} (entries sorted : List (String × α))
    (h : Ordered sorted) :
    Ordered (entries.foldl (fun sorted e => insertEntry e.1 e.2 sorted) sorted) := by
  induction entries generalizing sorted with
  | nil => exact h
  | cons e rest ih => exact ih _ (ordered_insertEntry e.1 e.2 h)

end KeyMap

/-- A map from texts to values. -/
structure KeyMap (α : Type) where
  /-- The entries in ascending order of keys. -/
  toList : List (String × α)
  ordered : KeyMap.Ordered toList

namespace KeyMap

variable {α : Type}

instance [DecidableEq α] : DecidableEq (KeyMap α) := fun m n =>
  if h : m.toList = n.toList then isTrue (by cases m; cases n; simp_all)
  else isFalse fun hmn => h (hmn ▸ rfl)

/-- The map without entries. -/
def empty : KeyMap α := ⟨[], List.Pairwise.nil⟩

instance : Inhabited (KeyMap α) := ⟨empty⟩

/-- The map of entries in any order; the last of equal keys stays. -/
def ofList (entries : List (String × α)) : KeyMap α :=
  ⟨sortEntries entries, ordered_foldl_insertEntry entries [] List.Pairwise.nil⟩

/-- The value of a key. -/
def get? (m : KeyMap α) (key : String) : Option α := lookup? m.toList key

/-- The number of entries. -/
def size (m : KeyMap α) : Nat := m.toList.length

/-- Has the map no entries? -/
def isEmpty (m : KeyMap α) : Bool := m.toList.isEmpty

theorem ext {m n : KeyMap α} (h : m.toList = n.toList) : m = n := by
  cases m; cases n; simp_all

end KeyMap

end HumidifierBridge
