import HumidifierBridge.Toml.Writer

/-!
# Tables of written documents

Where all keys of a document differ, its pieces contradict each other nowhere. Assignments become
fields in their order, sections under new names become tables behind them, and sections whose
headers share their first name are put together inside the table of that name, which the first of
them makes where it is missing.
-/

namespace HumidifierBridge.Toml

/-! ### Fields under construction -/

namespace Fields

@[simp] theorem get?_nil (name : String) : get? name [] = none := rfl

theorem get?_eq_none {name : String} {fields : Fields} :
    fields.get? name = none ↔ name ∉ fields.map Prod.fst := by
  simp only [get?, Option.map_eq_none_iff, List.find?_eq_none, decide_eq_true_eq, List.mem_map,
    not_exists, not_and]

/-- A new field stands behind the others. -/
theorem set_of_get?_eq_none {name : String} {fields : Fields} (h : fields.get? name = none)
    (node : Node) : fields.set name node = fields ++ [(name, node)] := by
  rw [get?_eq_none] at h
  induction fields with
  | nil => rfl
  | cons f rest ih =>
    simp only [List.map_cons, List.mem_cons, not_or] at h
    simp [set, Ne.symm h.1, ih h.2]

@[simp] theorem get?_set_self (fields : Fields) (name : String) (node : Node) :
    (fields.set name node).get? name = some node := by
  induction fields with
  | nil => simp [set, get?]
  | cons f rest ih =>
    simp only [get?] at ih
    by_cases h : f.1 = name <;> simp [set, get?, h, ih]

@[simp] theorem set_set (name : String) (node next : Node) (fields : Fields) :
    (fields.set name node).set name next = fields.set name next := by
  induction fields with
  | nil => simp [set]
  | cons f rest ih => by_cases h : f.1 = name <;> simp [set, h, ih]

theorem set_get?_self {name : String} {node : Node} {fields : Fields}
    (h : fields.get? name = some node) : fields.set name node = fields := by
  induction fields with
  | nil => simp at h
  | cons f rest ih =>
    by_cases hf : f.1 = name
    · obtain rfl : f.2 = node := by simpa [get?, hf] using h
      simp [set, ← hf]
    · simp only [get?, List.find?_cons, hf, decide_false] at h ih
      simp [set, hf, ih h]

end Fields

/-- The fields that plain values make. -/
def valueFields (fields : List (String × Plain)) : Fields :=
  fields.map fun f => (f.1, .value f.2.toToml)

/-- Assignments to new and distinct names become fields behind the others. -/
theorem assignAll_assignmentsOf {fields : List (String × Plain)} {acc : Fields}
    (h : ((acc.map Prod.fst) ++ (fields.map Prod.fst)).Nodup) :
    Fields.assignAll (assignmentsOf fields) acc = some (acc ++ valueFields fields) := by
  induction fields generalizing acc with
  | nil => simp [Fields.assignAll, assignmentsOf, valueFields]
  | cons f rest ih =>
    have hnew : acc.get? f.1 = none := by
      rw [Fields.get?_eq_none]
      intro hmem
      exact (List.nodup_append.1 h).2.2 f.1 hmem f.1 (by simp) rfl
    have hnodup : (((acc ++ [(f.1, Node.value f.2.toToml)]).map Prod.fst) ++
        rest.map Prod.fst).Nodup := by simpa using h
    have hrest := ih hnodup
    simp only [Fields.assignAll, assignmentsOf] at hrest
    simp [Fields.assignAll, assignmentsOf, Fields.assign, hnew, Fields.set_of_get?_eq_none hnew,
      hrest, valueFields]

/-! ### Sections -/

/-- A named section of plain values. -/
abbrev Entry := String × List (String × Plain)

/-- The section under a header of one name. -/
def Entry.section (e : Entry) : Section := ⟨.table, [e.1], assignmentsOf e.2⟩

/-- The tables that named sections make. -/
def entryTables (entries : List Entry) : Fields :=
  entries.map fun e => (e.1, .table .declared (valueFields e.2))

/-- Sections under new and distinct names become tables behind the other fields. -/
theorem foldlM_entries {entries : List Entry} {acc : Fields}
    (h : ((acc.map Prod.fst) ++ (entries.map Prod.fst)).Nodup)
    (hfields : ∀ e ∈ entries, (e.2.map Prod.fst).Nodup) :
    (entries.map Entry.section).foldlM Fields.addSection acc =
      some (acc ++ entryTables entries) := by
  induction entries generalizing acc with
  | nil => simp [entryTables]
  | cons e rest ih =>
    have hnew : acc.get? e.1 = none := by
      rw [Fields.get?_eq_none]
      intro hmem
      exact (List.nodup_append.1 h).2.2 e.1 hmem e.1 (by simp) rfl
    have hassign : Fields.assignAll (assignmentsOf e.2) [] = some (valueFields e.2) :=
      assignAll_assignmentsOf (by simpa using hfields e List.mem_cons_self)
    have hadd : Fields.addSection acc e.section =
        some (acc ++ [(e.1, .table .declared (valueFields e.2))]) := by
      simp [Fields.addSection, Entry.section, Fields.enter, hnew, hassign,
        Fields.set_of_get?_eq_none hnew]
    have hnodup : (((acc ++ [(e.1, Node.table .declared (valueFields e.2))]).map Prod.fst) ++
        rest.map Prod.fst).Nodup := by simpa using h
    have hrest := ih hnodup fun f hf => hfields f (List.mem_cons_of_mem _ hf)
    simp [hadd, hrest, entryTables]

/-- The section with a name before those of its header. -/
def Section.under (name : String) (s : Section) : Section := { s with path := name :: s.path }

theorem addSection_under {name : String} {origin : Origin} {fields inner : Fields} {s : Section}
    (h : fields.get? name = some (.table origin inner)) (hpath : s.path ≠ []) :
    Fields.addSection fields (s.under name) =
      (Fields.addSection inner s).map fun inner => fields.set name (.table origin inner) := by
  obtain ⟨next, path, hnext⟩ := List.exists_cons_of_ne_nil hpath
  simp [Fields.addSection, Section.under, hnext, Fields.enter, h]

/-- Sections whose headers share their first name are put together inside the table of that
name. -/
theorem foldlM_under {name : String} {origin : Origin} {fields inner : Fields}
    (h : fields.get? name = some (.table origin inner)) {sections : List Section}
    (hpath : ∀ s ∈ sections, s.path ≠ []) :
    (sections.map (Section.under name)).foldlM Fields.addSection fields =
      (sections.foldlM Fields.addSection inner).map fun inner =>
        fields.set name (.table origin inner) := by
  induction sections generalizing fields inner with
  | nil => simp [Fields.set_get?_self h]
  | cons s rest ih =>
    rw [List.map_cons, List.foldlM_cons, List.foldlM_cons,
      addSection_under h (hpath s List.mem_cons_self)]
    cases hs : Fields.addSection inner s with
    | none => simp
    | some next =>
      have hrest := ih (Fields.get?_set_self fields name (.table origin next))
        fun t ht => hpath t (List.mem_cons_of_mem _ ht)
      simp [hrest]

/-- Where the table of the first name is missing, the first of the sections makes it. -/
theorem foldlM_under_new {name : String} {fields : Fields} (h : fields.get? name = none)
    {sections : List Section} (hne : sections ≠ []) (hpath : ∀ s ∈ sections, s.path ≠ []) :
    (sections.map (Section.under name)).foldlM Fields.addSection fields =
      (sections.foldlM Fields.addSection []).map fun inner =>
        fields ++ [(name, .table .implied inner)] := by
  obtain ⟨s, rest, rfl⟩ := List.exists_cons_of_ne_nil hne
  obtain ⟨next, path, hnext⟩ := List.exists_cons_of_ne_nil (hpath s List.mem_cons_self)
  have hadd : Fields.addSection fields (s.under name) =
      (Fields.addSection [] s).map fun inner => fields.set name (.table .implied inner) := by
    simp [Fields.addSection, Section.under, hnext, Fields.enter, h]
  rw [List.map_cons, List.foldlM_cons, List.foldlM_cons, hadd]
  cases hs : Fields.addSection [] s with
  | none => simp
  | some inner =>
    have hrest := foldlM_under (Fields.get?_set_self fields name (.table .implied inner))
      fun t ht => hpath t (List.mem_cons_of_mem _ ht)
    have hset : ∀ inner, fields.set name (.table .implied inner) =
        fields ++ [(name, .table .implied inner)] := fun inner =>
      Fields.set_of_get?_eq_none h _
    simp only [Fields.set_set] at hrest
    simpa [hset] using hrest

/-! ### Groups

A group is a table of named sections, which is not there when there are none. -/

/-- The field of a group under construction. -/
def groupTable (name : String) (entries : List Entry) : Fields :=
  if entries.isEmpty then [] else [(name, .table .implied (entryTables entries))]

/-- The sections of a group make its table behind the other fields. -/
theorem foldlM_group {name : String} {acc : Fields} (h : acc.get? name = none)
    {entries : List Entry} (hentries : (entries.map Prod.fst).Nodup)
    (hfields : ∀ e ∈ entries, (e.2.map Prod.fst).Nodup) :
    (entries.map fun e => e.section.under name).foldlM Fields.addSection acc =
      some (acc ++ groupTable name entries) := by
  cases entries with
  | nil => simp [groupTable]
  | cons e rest =>
    have hinside : ((e :: rest).map Entry.section).foldlM Fields.addSection [] =
        some (entryTables (e :: rest)) := foldlM_entries (by simpa using hentries) hfields
    have hpath : ∀ s ∈ (e :: rest).map Entry.section, s.path ≠ [] := by
      simp only [List.mem_map]
      rintro s ⟨f, -, rfl⟩
      simp [Entry.section]
    have hunder := foldlM_under_new h (by simp) hpath
    rw [hinside, List.map_map] at hunder
    exact hunder

/-! ### Finished tables -/

/-- The finished fields of plain values. -/
def plainFields (fields : List (String × Plain)) : List (String × Toml) :=
  fields.map fun f => (f.1, f.2.toToml)

/-- The finished field of a group. -/
def group (name : String) (entries : List Entry) : List (String × Toml) :=
  if entries.isEmpty then []
  else [(name, .table (entries.map fun e => (e.1, .table (plainFields e.2))))]

theorem closeFields_eq_map (fields : Fields) :
    closeFields fields = fields.map fun f => (f.1, f.2.close) := by
  induction fields with
  | nil => rfl
  | cons f rest ih =>
    obtain ⟨name, node⟩ := f
    simp [closeFields, ih]

@[simp] theorem closeFields_append (fields others : Fields) :
    closeFields (fields ++ others) = closeFields fields ++ closeFields others := by
  simp [closeFields_eq_map]

@[simp] theorem closeFields_valueFields (fields : List (String × Plain)) :
    closeFields (valueFields fields) = plainFields fields := by
  simp [closeFields_eq_map, valueFields, plainFields, Node.close]

@[simp] theorem closeFields_groupTable (name : String) (entries : List Entry) :
    closeFields (groupTable name entries) = group name entries := by
  cases entries with
  | nil => rfl
  | cons e rest =>
    have hentries : closeFields (entryTables (e :: rest)) =
        (e :: rest).map fun e => (e.1, .table (plainFields e.2)) := by
      simp [closeFields_eq_map, entryTables, valueFields, plainFields, Node.close]
    simp only [groupTable, group, List.isEmpty_cons, Bool.false_eq_true, if_false, closeFields,
      Node.close, hentries]

end HumidifierBridge.Toml
