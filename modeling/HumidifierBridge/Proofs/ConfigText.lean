import HumidifierBridge.Config.Text
import HumidifierBridge.Proofs.KeyMaps
import HumidifierBridge.Proofs.Sheets
import HumidifierBridge.Proofs.Tables

/-!
# A configuration file is read as it was written

`ConfigFile.toText` writes a file as a document of plain values, which is read as the pieces it was
made of; the pieces are put together to the fields `ConfigFile.tomlFields`, and from those the file
comes back. The written fields of a table have different names, whichever of them have a value, so
that each is found under its own.
-/

namespace HumidifierBridge

namespace ConfigFile

open Toml

/-! ### Fields that have a value -/

variable {o : Option (String × Plain)} {name : String} {rest : List (Option (String × Plain))}

theorem present_cons :
    present (o :: rest) = o.toList ++ present rest := by
  cases o <;> simp [present]

/-- The names of the fields that have a value are among all names, in their order. -/
theorem names_present_cons {names : List String} (ho : ∀ f ∈ o, f.1 = name)
    (h : ((present rest).map Prod.fst).Sublist names) :
    ((present (o :: rest)).map Prod.fst).Sublist (name :: names) := by
  cases o with
  | none => simpa [present_cons] using h.cons name
  | some f => simpa [present_cons, ho f rfl] using h.cons_cons name

theorem fst_field? {α : Type} {value : Option α} {write : α → Plain} :
    ∀ f ∈ field? name value write, f.1 = name := by
  simp [field?]

theorem names_top (f : ConfigFile) : (f.sheet.top.map Prod.fst).Sublist
    ["vdcdsuid", "libdsuid", "reload_values", "zone_id", "debug"] :=
  names_present_cons fst_field? <| names_present_cons fst_field? <|
    names_present_cons fst_field? <| names_present_cons fst_field? <|
      names_present_cons fst_field? (by simp [present])

theorem names_applianceFields (a : ApplianceSection) : ((applianceFields a).map Prod.fst).Sublist
    ["name", "id", "ip", "zone_id"] :=
  names_present_cons fst_field? <| names_present_cons fst_field? <|
    names_present_cons fst_field? <| names_present_cons fst_field? (by simp [present])

theorem names_sceneFields (s : SceneSection) : ((sceneFields s).map Prod.fst).Sublist
    ["dsId", "fan", "mode_automatic", "mode_sleep"] :=
  names_present_cons (by simp) <| names_present_cons fst_field? <|
    names_present_cons fst_field? <| names_present_cons fst_field? (by simp [present])

/-! ### The written values can be read -/

theorem isWritable_integer {n : Int} (hleast : -9223372036854775808 ≤ n)
    (hgreatest : n ≤ 18446744073709551615) : (Plain.integer n).IsWritable := by
  simp only [Plain.IsWritable, integerFits, Bool.and_eq_true, decide_eq_true_eq]
  omega

theorem isWritable_int64 (n : Int64) : (Plain.integer n.toInt).IsWritable := by
  have hleast := n.le_toInt
  have hgreatest := n.toInt_lt
  exact isWritable_integer (by omega) (by omega)

theorem isWritable_int32 (n : Int32) : (Plain.integer n.toInt).IsWritable := by
  have hleast := n.le_toInt
  have hgreatest := n.toInt_lt
  exact isWritable_integer (by omega) (by omega)

theorem isWritable_natural {n : Nat} (h : n < 18446744073709551616) :
    (Plain.integer n).IsWritable :=
  isWritable_integer (by omega) (by omega)

theorem isWritable_present_cons (ho : ∀ f ∈ o, f.2.IsWritable)
    (h : ∀ f ∈ present rest, f.2.IsWritable) : ∀ f ∈ present (o :: rest), f.2.IsWritable := by
  intro f hf
  rcases List.mem_append.1 (present_cons ▸ hf) with hf | hf
  · exact ho f (by simpa using hf)
  · exact h f hf

theorem isWritable_field? {α : Type} {value : Option α} {write : α → Plain}
    (h : ∀ a, (write a).IsWritable) : ∀ f ∈ field? name value write, f.2.IsWritable := by
  simp only [field?, Option.mem_def, Option.map_eq_some_iff]
  rintro f ⟨a, -, rfl⟩
  exact h a

theorem isWritable_sceneFields (s : SceneSection) : ∀ f ∈ sceneFields s, f.2.IsWritable :=
  isWritable_present_cons (by simpa using isWritable_int32 s.number) <|
    isWritable_present_cons (isWritable_field? isWritable_int64) <|
      isWritable_present_cons (isWritable_field? isWritable_int64) <|
        isWritable_present_cons (isWritable_field? isWritable_int64) (by simp [present])

theorem isWritable_sensorFields (s : SensorSection) : ∀ f ∈ sensorFields s, f.2.IsWritable := by
  have hkind := s.kind.toNat_lt
  have husage := s.usage.toNat_lt
  simp only [sensorFields, List.mem_cons, List.not_mem_nil, or_false]
  rintro f (rfl | rfl | rfl | rfl)
  · trivial
  · exact isWritable_natural (by omega)
  · exact isWritable_natural (by omega)
  · trivial

theorem isWritable_uint16 (n : UInt16) : (Plain.integer n.toNat).IsWritable := by
  have := n.toNat_lt
  exact isWritable_natural (by omega)

theorem isWritable_applianceFields (a : ApplianceSection) :
    ∀ f ∈ applianceFields a, f.2.IsWritable :=
  isWritable_present_cons (isWritable_field? fun _ => trivial) <|
    isWritable_present_cons (isWritable_field? fun _ => trivial) <|
      isWritable_present_cons (isWritable_field? fun _ => trivial) <|
        isWritable_present_cons (isWritable_field? isWritable_uint16) (by simp [present])

theorem isWritable_top (f : ConfigFile) : ∀ g ∈ f.sheet.top, g.2.IsWritable :=
  isWritable_present_cons (isWritable_field? fun _ => trivial) <|
    isWritable_present_cons (isWritable_field? fun _ => trivial) <|
      isWritable_present_cons (isWritable_field? fun n => isWritable_natural n.toNat_lt) <|
        isWritable_present_cons (isWritable_field? isWritable_uint16) <|
          isWritable_present_cons (isWritable_field? isWritable_int64) (by simp [present])

/-- Whatever a file holds, its document can be read again. -/
theorem isWritable_sheet (f : ConfigFile) : f.sheet.IsWritable := by
  refine ⟨f.isWritable_top, fun b hb => ?_⟩
  simp only [sheet, List.mem_append, List.mem_map] at hb
  rcases hb with hb | ⟨s, -, rfl⟩
  · cases happliance : f.appliance with
    | none => simp [happliance] at hb
    | some a =>
      simp only [happliance, Option.map_some, Option.getD_some, applianceBlocks, List.mem_append,
        List.mem_map] at hb
      rcases hb with hb | ⟨s, -, rfl⟩
      · simp only [applianceBlock] at hb
        split at hb
        · simp at hb
        · obtain rfl : b = _ := by simpa using hb
          exact ⟨by simp, by simp [maxParts], isWritable_applianceFields a⟩
      · exact ⟨by simp, by simp [maxParts], isWritable_sceneFields s.2⟩
  · exact ⟨by simp, by simp [maxParts], isWritable_sensorFields s.2⟩

/-! ### The pieces are put together -/

/-- The scenes of an appliance as named sections. -/
def sceneEntries (a : ApplianceSection) : List Entry :=
  a.scenes.toList.map fun s => (s.1, sceneFields s.2)

/-- The sensors as named sections. -/
def sensorEntries (f : ConfigFile) : List Entry :=
  f.sensors.toList.map fun s => (s.1, sensorFields s.2)

/-- The table that an appliance is read from. -/
def applianceToml (a : ApplianceSection) : Toml :=
  .table (plainFields (applianceFields a) ++ group "scenes" (sceneEntries a))

/-- The fields that a file is read from. -/
def tomlFields (f : ConfigFile) : List (String × Toml) :=
  plainFields f.sheet.top ++ (f.appliance.map fun a => ("humifier", applianceToml a)).toList ++
    group "sensor_values" (sensorEntries f)

theorem nodup_sceneEntries (a : ApplianceSection) : ((sceneEntries a).map Prod.fst).Nodup := by
  simpa [sceneEntries, Function.comp_def] using a.scenes.nodup_keys

theorem nodup_sensorEntries (f : ConfigFile) : ((sensorEntries f).map Prod.fst).Nodup := by
  simpa [sensorEntries, Function.comp_def] using f.sensors.nodup_keys

theorem nodup_fields_sceneEntries (a : ApplianceSection) :
    ∀ e ∈ sceneEntries a, (e.2.map Prod.fst).Nodup := by
  simp only [sceneEntries, List.mem_map]
  rintro e ⟨s, -, rfl⟩
  exact (names_sceneFields s.2).nodup (by decide)

theorem nodup_fields_sensorEntries (f : ConfigFile) :
    ∀ e ∈ sensorEntries f, (e.2.map Prod.fst).Nodup := by
  simp only [sensorEntries, List.mem_map]
  rintro e ⟨s, -, rfl⟩
  exact (by decide : ["value_name", "sensor_type", "sensor_usage", "active"].Nodup)

theorem fst_valueFields (fields : List (String × Plain)) :
    (valueFields fields).map Prod.fst = fields.map Prod.fst := by
  simp [valueFields]

/-- The sections that blocks are read as. -/
def sectionsOf (blocks : List Block) : List Section :=
  blocks.map fun b => ⟨.table, b.path, assignmentsOf b.fields⟩

theorem get?_scenes_applianceFields (a : ApplianceSection) :
    Fields.get? "scenes" (valueFields (applianceFields a)) = none := by
  rw [Fields.get?_eq_none, fst_valueFields]
  intro hmem
  exact absurd ((names_applianceFields a).subset hmem) (by decide)

/-- The sections of the scenes, below the name of the appliance, make a table of scenes in that of
the appliance. -/
theorem foldlM_scenes (a : ApplianceSection) {acc : Fields} (h : acc.get? "scenes" = none) :
    ((sceneEntries a).map fun e => e.section.under "scenes").foldlM Fields.addSection acc =
      some (acc ++ groupTable "scenes" (sceneEntries a)) :=
  foldlM_group h (nodup_sceneEntries a) (nodup_fields_sceneEntries a)

/-- The blocks of an appliance make its table, whether it has a block of its own or not. -/
theorem foldlM_applianceBlocks (a : ApplianceSection) {acc : Fields}
    (h : acc.get? "humifier" = none) :
    ∃ origin, (sectionsOf (applianceBlocks a)).foldlM Fields.addSection acc =
      some (acc ++ [("humifier", .table origin
        (valueFields (applianceFields a) ++ groupTable "scenes" (sceneEntries a)))]) := by
  have hsections : sectionsOf (applianceBlocks a) = sectionsOf (applianceBlock a) ++
      ((sceneEntries a).map fun e => e.section.under "scenes").map (Section.under "humifier") := by
    simp [sectionsOf, applianceBlocks, sceneEntries, Function.comp_def, Section.under,
      Entry.section]
  have hpath : ∀ s ∈ (sceneEntries a).map fun e => e.section.under "scenes", s.path ≠ [] := by
    simp only [List.mem_map]
    rintro s ⟨e, -, rfl⟩
    simp [Section.under]
  rw [hsections, List.foldlM_append]
  by_cases hown : ((applianceFields a).isEmpty && !a.scenes.isEmpty) = true
  · -- Without a block of its own, the first scene makes the table of the appliance.
    simp only [Bool.and_eq_true, List.isEmpty_iff, Bool.not_eq_true'] at hown
    obtain ⟨hfields, hscenes⟩ := hown
    have hne : ((sceneEntries a).map fun e => e.section.under "scenes") ≠ [] := by
      simpa [sceneEntries, KeyMap.isEmpty] using hscenes
    have hgroup := foldlM_scenes a (Fields.get?_nil "scenes")
    have hblock : sectionsOf (applianceBlock a) = [] := by
      simp [sectionsOf, applianceBlock, hfields, hscenes]
    refine ⟨.implied, ?_⟩
    rw [hblock, List.foldlM_nil, pure_bind, foldlM_under_new h hne hpath, hgroup, hfields]
    rfl
  · have hblock : sectionsOf (applianceBlock a) =
        [⟨.table, ["humifier"], assignmentsOf (applianceFields a)⟩] := by
      simp [sectionsOf, applianceBlock, hown]
    have hassign : Fields.assignAll (assignmentsOf (applianceFields a)) [] =
        some (valueFields (applianceFields a)) :=
      assignAll_assignmentsOf ((names_applianceFields a).nodup (by decide))
    have hadd : Fields.addSection acc ⟨.table, ["humifier"], assignmentsOf (applianceFields a)⟩ =
        some (acc.set "humifier" (.table .declared (valueFields (applianceFields a)))) := by
      simp [Fields.addSection, Fields.enter, h, hassign]
    have hgroup := foldlM_scenes a (get?_scenes_applianceFields a)
    refine ⟨.declared, ?_⟩
    rw [hblock, List.foldlM_cons, hadd]
    simp only [List.foldlM_nil, Option.pure_def, Option.bind_eq_bind, Option.bind_some]
    rw [foldlM_under (Fields.get?_set_self acc _ _) hpath, hgroup, Option.map_some,
      Fields.set_set, Fields.set_of_get?_eq_none h]

/-- The fields of the outermost table have none of the names of sections. -/
theorem get?_top {f : ConfigFile} {name : String} (h : name = "humifier" ∨ name = "sensor_values") :
    Fields.get? name (valueFields f.sheet.top) = none := by
  rw [Fields.get?_eq_none, fst_valueFields]
  intro hmem
  have hnames := f.names_top.subset hmem
  rcases h with rfl | rfl
  · exact absurd hnames (by decide)
  · exact absurd hnames (by decide)

/-- The pieces of a file are put together to its fields. -/
theorem ofPieces?_sheet (f : ConfigFile) : ofPieces? f.sheet.pieces = some f.tomlFields := by
  have htop : Fields.assignAll f.sheet.pieces.top [] = some (valueFields f.sheet.top) :=
    assignAll_assignmentsOf (f.names_top.nodup (by decide))
  have hsections : f.sheet.pieces.sections =
      sectionsOf ((f.appliance.map applianceBlocks).getD []) ++
        f.sensorEntries.map fun e => e.section.under "sensor_values" := by
    simp [Sheet.pieces, sheet, sectionsOf, sensorEntries, Function.comp_def, Section.under,
      Entry.section]
  obtain ⟨fields, happliance, hnone, hclose⟩ : ∃ fields,
      (sectionsOf ((f.appliance.map applianceBlocks).getD [])).foldlM Fields.addSection
        (valueFields f.sheet.top) = some fields ∧
      Fields.get? "sensor_values" fields = none ∧
      closeFields fields = plainFields f.sheet.top ++
        (f.appliance.map fun a => ("humifier", applianceToml a)).toList := by
    have hsensors := get?_top (f := f) (.inr rfl)
    cases f.appliance with
    | none => exact ⟨_, rfl, hsensors, by simp⟩
    | some a =>
      obtain ⟨origin, hfold⟩ := foldlM_applianceBlocks a (get?_top (f := f) (.inl rfl))
      refine ⟨_, hfold, ?_, ?_⟩
      · rw [Fields.get?_eq_none] at hsensors ⊢
        simpa using hsensors
      · simp [closeFields, Node.close, applianceToml]
  have hgroup := foldlM_group hnone f.nodup_sensorEntries f.nodup_fields_sensorEntries
  simp only [ofPieces?, htop, hsections, List.foldlM_append, happliance, hgroup,
    Option.bind_eq_bind, Option.bind_some, Option.pure_def, closeFields_append, hclose,
    closeFields_groupTable, tomlFields]

/-! ### The fields are read -/

theorem integer?_of_le {least greatest n : Int} (hleast : least ≤ n) (hgreatest : n ≤ greatest) :
    integer? least greatest (.integer n) = some n := by
  simp [integer?, hleast, hgreatest]

@[simp] theorem uint16?_toNat (n : UInt16) : uint16? (.integer n.toNat) = some n := by
  have := n.toNat_lt
  have hread : integer? 0 65535 (.integer n.toNat) = some (n.toNat : Int) :=
    integer?_of_le (by omega) (by omega)
  simp [uint16?, hread]

@[simp] theorem uint32?_toNat (n : UInt32) : uint32? (.integer n.toNat) = some n := by
  have := n.toNat_lt
  have hread : integer? 0 4294967295 (.integer n.toNat) = some (n.toNat : Int) :=
    integer?_of_le (by omega) (by omega)
  simp [uint32?, hread]

@[simp] theorem uint64?_toNat (n : UInt64) : uint64? (.integer n.toNat) = some n := by
  have := n.toNat_lt
  have hread : integer? 0 18446744073709551615 (.integer n.toNat) = some (n.toNat : Int) :=
    integer?_of_le (by omega) (by omega)
  simp [uint64?, hread]

@[simp] theorem int32?_toInt (n : Int32) : int32? (.integer n.toInt) = some n := by
  have hleast := n.le_toInt
  have hgreatest := n.toInt_lt
  have hread : integer? (-2147483648) 2147483647 (.integer n.toInt) = some n.toInt :=
    integer?_of_le (by omega) (by omega)
  simp [int32?, hread]

@[simp] theorem int64?_toInt (n : Int64) : int64? (.integer n.toInt) = some n := by
  have hleast := n.le_toInt
  have hgreatest := n.toInt_lt
  have hread : integer? (-9223372036854775808) 9223372036854775807 (.integer n.toInt) =
      some n.toInt := integer?_of_le (by omega) (by omega)
  simp [int64?, hread]

@[simp] theorem string?_string (s : String) : string? (.string s) = some s := rfl

/-- A value that may be missing is read as it is, if values are. -/
theorem optional?_map {α : Type} {decode : Decoder α} {write : α → Toml}
    (h : ∀ a, decode (write a) = some a) (value : Option α) :
    optional? decode (value.map write) = some value := by
  cases value <;> simp [optional?, h]

@[simp] theorem lookup?_plainFields_present_nil (key : String) :
    KeyMap.lookup? (plainFields (present [])) key = none := rfl

/-- A field is found under its name, unless it has no value. -/
@[simp] theorem lookup?_field? {α : Type} {value : Option α} {write : α → Plain} (key : String) :
    KeyMap.lookup? (plainFields (present (field? name value write :: rest))) key =
      (if name = key then value.map fun a => (write a).toToml else none).or
        (KeyMap.lookup? (plainFields (present rest)) key) := by
  cases value with
  | none => simp [field?, present_cons]
  | some a =>
    by_cases h : name = key <;> simp [field?, present_cons, plainFields, KeyMap.lookup?_cons, h]

@[simp] theorem lookup?_some (f : String × Plain) (key : String) :
    KeyMap.lookup? (plainFields (present (some f :: rest))) key =
      (if f.1 = key then some f.2.toToml else none).or
        (KeyMap.lookup? (plainFields (present rest)) key) := by
  by_cases h : f.1 = key <;> simp [present_cons, plainFields, KeyMap.lookup?_cons, h]

/-- A table of known names is read by looking names up. -/
theorem section?_table {names : List String} {fields : List (String × Toml)}
    (h : fields.map Prod.fst ⊆ names) : section? names (.table fields) =
      some (KeyMap.lookup? fields) := by
  have hall : (fields.all fun f => names.contains f.1 || f.2.isReadable) = true := by
    refine List.all_eq_true.2 fun f hf => ?_
    simp [h (List.mem_map_of_mem hf)]
  rw [section?, if_pos hall]

theorem fst_plainFields (fields : List (String × Plain)) :
    (plainFields fields).map Prod.fst = fields.map Prod.fst := by
  simp [plainFields]

/-- The fields of a scene are read as that scene. -/
theorem scene?_sceneFields (s : SceneSection) :
    scene? (.table (plainFields (sceneFields s))) = some s := by
  have hnames : (plainFields (sceneFields s)).map Prod.fst ⊆
      ["dsId", "fan", "mode_automatic", "mode_sleep"] := by
    rw [fst_plainFields]
    exact (names_sceneFields s).subset
  simp only [scene?, section?_table hnames]
  simp [sceneFields, optional?_map, Plain.toToml]

/-- The fields of a sensor are read as that sensor. -/
theorem sensor?_sensorFields (s : SensorSection) :
    sensor? (.table (plainFields (sensorFields s))) = some s := by
  have hnames : (plainFields (sensorFields s)).map Prod.fst ⊆
      ["value_name", "sensor_type", "sensor_usage", "active"] := by
    rw [fst_plainFields]
    exact List.Subset.refl _
  simp only [sensor?, section?_table hnames]
  simp [sensorFields, plainFields, KeyMap.lookup?_cons, orDefault?, Plain.toToml, string?, boolean?]

theorem lookup?_group (name : String) (entries : List Entry) (key : String) :
    KeyMap.lookup? (group name entries) key =
      if name = key ∧ entries ≠ [] then
        some (.table (entries.map fun e => (e.1, .table (plainFields e.2))))
      else none := by
  cases entries with
  | nil => simp [group]
  | cons e rest => simp [group, KeyMap.lookup?_cons]

theorem lookup?_group_of_ne {key : String} (h : name ≠ key) (entries : List Entry) :
    KeyMap.lookup? (group name entries) key = none := by
  simp [lookup?_group, h]

theorem fst_group_subset (name : String) (entries : List Entry) :
    (group name entries).map Prod.fst ⊆ [name] := by
  cases entries <;> simp [group]

/-- A group is read as the map that it was written for. -/
theorem sections?_group {α : Type} {decode : Decoder α} {write : α → List (String × Plain)}
    (h : ∀ a, decode (.table (plainFields (write a))) = some a) (m : KeyMap α) (name : String) :
    orDefault? (sections? decode) .empty
      (KeyMap.lookup? (group name (m.toList.map fun s => (s.1, write s.2))) name) = some m := by
  have hentries : ∀ entries : List (String × α),
      (entries.map fun s => (s.1, Toml.table (plainFields (write s.2)))).mapM
        (fun f => (decode f.2).map (f.1, ·)) = some entries := by
    intro entries
    induction entries with
    | nil => rfl
    | cons e rest ih => simp [h, ih]
  rw [lookup?_group]
  by_cases hempty : m.toList = []
  · have hm : m = .empty := KeyMap.ext hempty
    simp [hm, KeyMap.empty, orDefault?]
  · have hread := hentries m.toList
    rw [if_pos ⟨rfl, by simpa using hempty⟩, List.map_map]
    simp only [orDefault?, sections?, Function.comp_def, hread, Option.map_some,
      KeyMap.ofList_toList]

/-- The table of an appliance is read as that appliance. -/
theorem appliance?_applianceToml (a : ApplianceSection) :
    appliance? (applianceToml a) = some a := by
  have hnames : (plainFields (applianceFields a) ++ group "scenes" (sceneEntries a)).map Prod.fst ⊆
      ["name", "id", "ip", "zone_id", "scenes"] := by
    rw [List.map_append, fst_plainFields]
    refine List.append_subset.2 ⟨fun name hname => ?_, fun name hname => ?_⟩
    · exact List.mem_append_left ["scenes"] ((names_applianceFields a).subset hname)
    · exact List.mem_append_right ["name", "id", "ip", "zone_id"] (fst_group_subset _ _ hname)
  have hscenes : orDefault? (sections? scene?) .empty
      (KeyMap.lookup? (group "scenes" (sceneEntries a)) "scenes") = some a.scenes :=
    sections?_group scene?_sceneFields a.scenes "scenes"
  simp only [appliance?, applianceToml, section?_table hnames, Option.bind_eq_bind,
    Option.bind_some, KeyMap.lookup?_append]
  simp [applianceFields, lookup?_group_of_ne, optional?_map, optional?_map string?_string,
    Plain.toToml, hscenes]

/-- The fields of a file are read as that file. -/
theorem ofFields?_tomlFields (f : ConfigFile) : ofFields? f.tomlFields = some f := by
  have hnames : f.tomlFields.map Prod.fst ⊆ ["vdcdsuid", "libdsuid", "reload_values", "zone_id",
      "debug", "humifier", "sensor_values"] := by
    rw [tomlFields, List.map_append, List.map_append, fst_plainFields]
    refine List.append_subset.2 ⟨List.append_subset.2 ⟨fun name hname => ?_, ?_⟩,
      fun name hname => ?_⟩
    · exact List.mem_append_left ["humifier", "sensor_values"] (f.names_top.subset hname)
    · cases f.appliance <;> simp
    · have hgroup := fst_group_subset _ _ hname
      simp_all
  have happliance : ∀ key, KeyMap.lookup?
      (f.appliance.map fun a => ("humifier", applianceToml a)).toList key =
        if "humifier" = key then f.appliance.map applianceToml else none := by
    intro key
    cases f.appliance with
    | none => simp
    | some a => simp [KeyMap.lookup?_cons]
  have hsensors : orDefault? (sections? sensor?) .empty
      (KeyMap.lookup? (group "sensor_values" (sensorEntries f)) "sensor_values") =
        some f.sensors :=
    sections?_group sensor?_sensorFields f.sensors "sensor_values"
  simp only [ofFields?, section?_table hnames, Option.bind_eq_bind, Option.bind_some]
  simp only [tomlFields, KeyMap.lookup?_append, happliance]
  simp [sheet, lookup?_group_of_ne, optional?_map, optional?_map string?_string, Plain.toToml,
    appliance?_applianceToml, hsensors]

/-- **A configuration file is read as it was written**, whatever texts, keys and numbers it
holds. -/
theorem ofText?_toText (f : ConfigFile) : ofText? f.toText.toList = some f := by
  simp [ofText?, toText, parse?, pieces?_write f.isWritable_sheet, ofPieces?_sheet,
    ofFields?_tomlFields]

end ConfigFile

end HumidifierBridge
