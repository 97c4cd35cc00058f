import HumidifierBridge.Config.Load
import HumidifierBridge.Proofs.Slots

/-!
# Looking up what was put in

An entry put among others is found under its key, and nothing else is found in another way than
before. Of entries with different keys, the map therefore finds each one, wherever it stands. The
entries of a map make that map again.

Entries in order are given by what is looked up in them (`KeyMap.Ordered.ext`). What comes of
sorting therefore depends neither on the order of entries with different keys nor on an entry that
has a later one of its key.
-/

namespace HumidifierBridge

namespace KeyMap

variable {α : Type}

@[simp] theorem lookup?_nil (key : String) : lookup? ([] : List (String × α)) key = none := rfl

theorem lookup?_cons (e : String × α) (rest : List (String × α)) (key : String) :
    lookup? (e :: rest) key = if e.1 = key then some e.2 else lookup? rest key := by
  by_cases h : e.1 = key <;> simp [lookup?, h]

theorem lookup?_insertEntry (key : String) (value : α) (entries : List (String × α))
    (other : String) :
    lookup? (insertEntry key value entries) other =
      if key = other then some value else lookup? entries other := by
  induction entries with
  | nil => simp [insertEntry, lookup?_cons]
  | cons e rest ih =>
    simp only [insertEntry]
    split
    · rw [lookup?_cons]
    · split
      · rename_i hkey
        simp only [lookup?_cons, ← hkey]
        split <;> rfl
      · rename_i hkey
        simp only [lookup?_cons, ih]
        by_cases he : e.1 = other
        · simp [he, show key ≠ other from fun h => hkey (h.trans he.symm)]
        · simp [he]

/-- What stands later in a list wins, and what was there before is found where the list has no such
key. -/
theorem lookup?_foldl_insertEntry (entries sorted : List (String × α)) (key : String) :
    lookup? (entries.foldl (fun sorted e => insertEntry e.1 e.2 sorted) sorted) key =
      (lookup? entries.reverse key).or (lookup? sorted key) := by
  induction entries generalizing sorted with
  | nil => simp
  | cons e rest ih =>
    rw [List.foldl_cons, ih, lookup?_insertEntry, List.reverse_cons]
    have happend : lookup? (rest.reverse ++ [e]) key =
        (lookup? rest.reverse key).or (if e.1 = key then some e.2 else none) := by
      simp only [lookup?, List.find?_append]
      cases rest.reverse.find? (·.1 = key) <;> by_cases he : e.1 = key <;> simp [he]
    rw [happend, Option.or_assoc]
    by_cases he : e.1 = key <;> simp [he]

theorem get?_ofList (entries : List (String × α)) (key : String) :
    (ofList entries).get? key = lookup? entries.reverse key := by
  simp [get?, ofList, sortEntries, lookup?_foldl_insertEntry]

/-- An entry that is the only one of its key is found. -/
theorem get?_ofList_of_mem {entries : List (String × α)} {key : String} {value : α}
    (hmem : (key, value) ∈ entries) (hunique : ∀ v, (key, v) ∈ entries → v = value) :
    (ofList entries).get? key = some value := by
  have hfind : entries.reverse.find? (·.1 = key) = some (key, value) := by
    refine find?_eq_some_of_unique (List.mem_reverse.2 hmem) (by simp) ?_
    rintro ⟨k, v⟩ hv hk
    obtain rfl : k = key := by simpa using hk
    rw [hunique v (List.mem_reverse.1 hv)]
  rw [get?_ofList, lookup?, hfind, Option.map_some]

/-- A key without an entry is not found. -/
theorem lookup?_of_notMem {entries : List (String × α)} {key : String}
    (h : ∀ v, (key, v) ∉ entries) : lookup? entries key = none := by
  rw [lookup?, Option.map_eq_none_iff, List.find?_eq_none]
  rintro ⟨k, v⟩ hv hk
  obtain rfl : k = key := by simpa using hk
  exact h v hv

theorem get?_ofList_of_notMem {entries : List (String × α)} {key : String}
    (h : ∀ v, (key, v) ∉ entries) : (ofList entries).get? key = none := by
  rw [get?_ofList]
  exact lookup?_of_notMem fun v hv => h v (List.mem_reverse.1 hv)

/-- The keys of a map differ. -/
theorem nodup_keys (m : KeyMap α) : (m.toList.map Prod.fst).Nodup := by
  refine List.pairwise_map.2 (m.ordered.imp ?_)
  intro e f hlt heq
  exact String.lt_irrefl _ (heq ▸ hlt)

/-- Nothing but the entry itself is added. -/
theorem mem_of_mem_insertEntry {key : String} {value : α} {entries : List (String × α)}
    {e : String × α} (h : e ∈ insertEntry key value entries) :
    e = (key, value) ∨ e ∈ entries := by
  induction entries with
  | nil => exact .inl (List.mem_singleton.1 h)
  | cons f rest ih =>
    simp only [insertEntry] at h
    split at h
    · exact List.mem_cons.1 h
    · split at h
      · exact (List.mem_cons.1 h).imp_right (List.mem_cons_of_mem f)
      · rcases List.mem_cons.1 h with rfl | h
        · exact .inr List.mem_cons_self
        · exact (ih h).imp_right (List.mem_cons_of_mem f)

theorem mem_of_mem_foldl_insertEntry {entries sorted : List (String × α)} {e : String × α}
    (h : e ∈ entries.foldl (fun sorted e => insertEntry e.1 e.2 sorted) sorted) :
    e ∈ entries ∨ e ∈ sorted := by
  induction entries generalizing sorted with
  | nil => exact .inr h
  | cons f rest ih =>
    rcases ih h with h | h
    · exact .inl (List.mem_cons_of_mem f h)
    · rcases mem_of_mem_insertEntry h with rfl | h
      · exact .inl List.mem_cons_self
      · exact .inr h

/-- Sorting adds no entries. -/
theorem mem_of_mem_sortEntries {entries : List (String × α)} {e : String × α}
    (h : e ∈ sortEntries entries) : e ∈ entries :=
  (mem_of_mem_foldl_insertEntry h).resolve_right List.not_mem_nil

/-- An entry that comes after all others is put at the end. -/
theorem insertEntry_of_forall_lt {key : String} {value : α} {entries : List (String × α)}
    (h : ∀ e ∈ entries, e.1 < key) : insertEntry key value entries = entries ++ [(key, value)] := by
  induction entries with
  | nil => rfl
  | cons e rest ih =>
    have hlt : e.1 < key := h e List.mem_cons_self
    have hne : key ≠ e.1 := fun heq => String.lt_irrefl _ (heq ▸ hlt)
    simp [insertEntry, String.lt_asymm hlt, hne, ih fun f hf => h f (List.mem_cons_of_mem _ hf)]

theorem foldl_insertEntry_of_ordered {entries sorted : List (String × α)}
    (h : Ordered (sorted ++ entries)) :
    entries.foldl (fun sorted e => insertEntry e.1 e.2 sorted) sorted = sorted ++ entries := by
  induction entries generalizing sorted with
  | nil => simp
  | cons e rest ih =>
    have hlt : ∀ f ∈ sorted, f.1 < e.1 := fun f hf =>
      (List.pairwise_append.1 h).2.2 f hf e List.mem_cons_self
    rw [List.foldl_cons, insertEntry_of_forall_lt hlt, ih (by simpa using h)]
    simp

/-- The map of the entries of a map is that map. -/
@[simp] theorem ofList_toList (m : KeyMap α) : ofList m.toList = m :=
  ext (foldl_insertEntry_of_ordered (by simpa using m.ordered))

theorem lookup?_append (entries others : List (String × α)) (key : String) :
    lookup? (entries ++ others) key = (lookup? entries key).or (lookup? others key) := by
  induction entries with
  | nil => simp
  | cons e rest ih =>
    rw [List.cons_append, lookup?_cons, lookup?_cons, ih]
    split <;> simp

/-! ### Sorting -/

theorem ordered_sortEntries (entries : List (String × α)) : Ordered (sortEntries entries) :=
  ordered_foldl_insertEntry entries [] List.Pairwise.nil

theorem lookup?_sortEntries (entries : List (String × α)) (key : String) :
    lookup? (sortEntries entries) key = lookup? entries.reverse key := by
  rw [sortEntries, lookup?_foldl_insertEntry, lookup?_nil, Option.or_none]

theorem Ordered.nodup_keys {entries : List (String × α)} (h : Ordered entries) :
    (entries.map Prod.fst).Nodup :=
  KeyMap.nodup_keys ⟨entries, h⟩

theorem Ordered.nodup {entries : List (String × α)} (h : Ordered entries) : entries.Nodup := by
  apply h.imp
  rintro e _ hlt rfl
  exact String.lt_irrefl _ hlt

/-- Where all keys differ, a look-up finds what is there. -/
theorem lookup?_eq_some_iff {entries : List (String × α)} (h : (entries.map Prod.fst).Nodup)
    {key : String} {value : α} : lookup? entries key = some value ↔ (key, value) ∈ entries := by
  induction entries with
  | nil => simp
  | cons e rest ih =>
    obtain ⟨hnew, hrest⟩ := List.nodup_cons.1 h
    rw [lookup?_cons, List.mem_cons]
    split
    · rename_i hkey
      subst hkey
      have hnot : (e.1, value) ∉ rest := fun hmem => hnew (List.mem_map.2 ⟨_, hmem, rfl⟩)
      simp [Prod.ext_iff, hnot, eq_comm]
    · rename_i hkey
      simp [ih hrest, Prod.ext_iff, Ne.symm hkey]

/-- Entries in order are given by what is looked up in them. -/
theorem Ordered.ext {entries others : List (String × α)} (h : Ordered entries)
    (h' : Ordered others) (hlookup : ∀ key, lookup? entries key = lookup? others key) :
    entries = others := by
  have hperm : entries.Perm others := by
    refine (List.perm_ext_iff_of_nodup h.nodup h'.nodup).2 ?_
    rintro ⟨key, value⟩
    rw [← lookup?_eq_some_iff h.nodup_keys, ← lookup?_eq_some_iff h'.nodup_keys, hlookup]
  exact hperm.eq_of_pairwise (fun e f _ _ hef hfe => absurd hfe (String.lt_asymm hef)) h h'

/-- Sorting depends only on which of the entries of each key is the last one. -/
theorem sortEntries_congr {entries others : List (String × α)}
    (h : ∀ key, lookup? entries.reverse key = lookup? others.reverse key) :
    sortEntries entries = sortEntries others := by
  refine (ordered_sortEntries entries).ext (ordered_sortEntries others) fun key => ?_
  rw [lookup?_sortEntries, lookup?_sortEntries, h]

/-- Where all keys differ, look-ups do not depend on the order. -/
theorem lookup?_of_perm {entries others : List (String × α)} (hperm : entries.Perm others)
    (h : (entries.map Prod.fst).Nodup) (key : String) :
    lookup? entries key = lookup? others key := by
  have h' : (others.map Prod.fst).Nodup := (hperm.map Prod.fst).nodup_iff.1 h
  refine Option.ext fun value => ?_
  rw [lookup?_eq_some_iff h, lookup?_eq_some_iff h', hperm.mem_iff]

theorem lookup?_reverse {entries : List (String × α)} (h : (entries.map Prod.fst).Nodup)
    (key : String) : lookup? entries.reverse key = lookup? entries key :=
  (lookup?_of_perm entries.reverse_perm.symm h key).symm

/-- Where all keys differ, sorting does not depend on the order. -/
theorem sortEntries_of_perm {entries others : List (String × α)} (hperm : entries.Perm others)
    (h : (entries.map Prod.fst).Nodup) : sortEntries entries = sortEntries others := by
  have h' : (others.map Prod.fst).Nodup := (hperm.map Prod.fst).nodup_iff.1 h
  refine sortEntries_congr fun key => ?_
  rw [lookup?_reverse h, lookup?_reverse h', lookup?_of_perm hperm h]

/-- An entry makes no difference where a later one has its key. -/
theorem sortEntries_append_cons {before after : List (String × α)} {e : String × α}
    (h : e.1 ∈ after.map Prod.fst) : sortEntries (before ++ e :: after) =
      sortEntries (before ++ after) := by
  refine sortEntries_congr fun key => ?_
  simp only [List.reverse_append, List.reverse_cons, lookup?_append, lookup?_cons, lookup?_nil]
  split
  · rename_i hkey
    subst hkey
    obtain ⟨f, hf, hfe⟩ := List.mem_map.1 h
    have hfound : (lookup? after.reverse e.1).isSome = true := by
      rw [lookup?, Option.isSome_map, List.find?_isSome]
      exact ⟨f, List.mem_reverse.2 hf, by simpa using hfe⟩
    obtain ⟨value, hvalue⟩ := Option.isSome_iff_exists.1 hfound
    simp [hvalue]
  · simp

/-- Where all keys differ, sorting keeps the entries. -/
theorem mem_sortEntries_iff {entries : List (String × α)} (h : (entries.map Prod.fst).Nodup)
    {e : String × α} : e ∈ sortEntries entries ↔ e ∈ entries := by
  obtain ⟨key, value⟩ := e
  rw [← lookup?_eq_some_iff (ordered_sortEntries entries).nodup_keys, lookup?_sortEntries,
    lookup?_reverse h, lookup?_eq_some_iff h]

end KeyMap

namespace ConfigFile

variable {α : Type}

@[simp] theorem slotKey_inj {m n : Nat} : slotKey m = slotKey n ↔ m = n := by
  simp [slotKey, String.append_right_inj]

theorem mem_mapIdx_slotKey {sections : List α} {slot : Nat} {a : α} :
    (slotKey slot, a) ∈ sections.mapIdx (fun i a => (slotKey i, a)) ↔
      sections[slot]? = some a := by
  simp only [List.mem_mapIdx, Prod.mk.injEq, slotKey_inj]
  constructor
  · rintro ⟨i, hi, rfl, rfl⟩
    exact List.getElem?_eq_getElem hi
  · intro h
    obtain ⟨hi, rfl⟩ := List.getElem?_eq_some_iff.1 h
    exact ⟨slot, hi, rfl, rfl⟩

/-- Under the key of a slot stands the section with that index. -/
@[simp] theorem get?_slotted (sections : List α) (slot : Nat) :
    (slotted sections).get? (slotKey slot) = sections[slot]? := by
  cases h : sections[slot]? with
  | none =>
    refine KeyMap.get?_ofList_of_notMem fun a ha => ?_
    simp [mem_mapIdx_slotKey.1 ha] at h
  | some a =>
    refine KeyMap.get?_ofList_of_mem (mem_mapIdx_slotKey.2 h) fun v hv => ?_
    simpa [mem_mapIdx_slotKey.1 hv] using h

/-- Sections written by slot are read in their order, as many as asked for. -/
theorem map_snd_slotRun_slotted (sections : List α) (first count : Nat) :
    (slotRun (slotted sections) first count).map Prod.snd =
      (sections.drop first).take count := by
  induction count generalizing first with
  | zero => simp [slotRun]
  | succ count ih =>
    simp only [slotRun, get?_slotted]
    cases h : sections[first]? with
    | none => simp [List.drop_eq_nil_of_le (List.getElem?_eq_none_iff.1 h)]
    | some a =>
      obtain ⟨hfirst, rfl⟩ := List.getElem?_eq_some_iff.1 h
      rw [List.drop_eq_getElem_cons hfirst, List.take_succ_cons, List.map_cons, ih]

end ConfigFile

end HumidifierBridge
