import HumidifierBridge.Toml.Basic

/-!
# Building tables

A document gives the fields of its tables in pieces: assignments with dotted keys, and sections with
headers. `Fields.assign` and `Fields.addSection` put the pieces together and refuse those that
contradict each other: a key given twice, a header for a table that had one, a dotted key into a
table that a header opened. `ofPieces?` builds the table of a whole document.
-/

namespace HumidifierBridge.Toml

/-- How a table under construction came to be. -/
inductive Origin where
  /-- Named by a header inside it only. -/
  | implied
  /-- Named by a dotted key. -/
  | dotted
  /-- Named by a header of its own. -/
  | declared
  deriving DecidableEq, Repr

/-- A field under construction. -/
inductive Node where
  /-- A finished value. -/
  | value (v : Toml)
  /-- A table that more pieces can be added to. -/
  | table (origin : Origin) (fields : List (String × Node))
  /-- An array of tables whose last one can be added to. -/
  | tables (closed : List (List (String × Node))) (last : List (String × Node))

/-- Named fields under construction, in order. -/
abbrev Fields := List (String × Node)

/-- One key and its value. -/
structure Assignment where
  /-- The parts of the dotted key. -/
  path : List String
  value : Toml

/-- What a header opens. -/
inductive Mark where
  | table
  /-- One more table of an array. -/
  | item
  deriving DecidableEq, Repr

/-- A header and the assignments under it. -/
structure Section where
  mark : Mark
  path : List String
  assignments : List Assignment

/-- The pieces of a document. -/
structure Pieces where
  /-- The assignments before the first header. -/
  top : List Assignment := []
  sections : List Section := []

namespace Fields

/-- The field of a name. -/
def get? (name : String) (fields : Fields) : Option Node :=
  (fields.find? (·.1 = name)).map (·.2)

/-- Replaces the field of a name, or appends it. -/
def set (name : String) (node : Node) : Fields → Fields
  | [] => [(name, node)]
  | (n, old) :: rest => if n = name then (n, node) :: rest else (n, old) :: set name node rest

/-- Puts a value at the end of a path. Tables named by the path are made where they are missing. A
table with a header of its own is closed to dotted keys, and one implied by headers does not take
the value itself. -/
def assign (v : Toml) : List String → Fields → Option Fields
  | [], _ => none
  | [name], fields =>
    match fields.get? name with
    | none => some (fields.set name (.value v))
    | some _ => none
  | name :: next :: path, fields =>
    match fields.get? name with
    | none =>
      (assign v (next :: path) []).map fun inner => fields.set name (.table .dotted inner)
    | some (.table .declared _) => none
    | some (.table .implied inner) =>
      if path.isEmpty then none
      else (assign v (next :: path) inner).map fun inner =>
        fields.set name (.table .implied inner)
    | some (.table .dotted inner) =>
      (assign v (next :: path) inner).map fun inner => fields.set name (.table .dotted inner)
    | some (.tables closed last) =>
      if path.isEmpty then none
      else (assign v (next :: path) last).map fun last => fields.set name (.tables closed last)
    | some (.value _) => none

/-- The fields that assignments give, one after the other. -/
def assignAll (assignments : List Assignment) (fields : Fields) : Option Fields :=
  assignments.foldlM (fun fields a => assign a.value a.path fields) fields

/-- Opens the table that a header names and fills it. A table is declared once; one that other
headers implied keeps its fields. A path leads through the last table of an array. -/
def enter (mark : Mark) (fill : Fields → Option Fields) : List String → Fields → Option Fields
  | [], _ => none
  | [name], fields =>
    match mark, fields.get? name with
    | .table, none => (fill []).map fun inner => fields.set name (.table .declared inner)
    | .table, some (.table .implied inner) =>
      (fill inner).map fun inner => fields.set name (.table .declared inner)
    | .item, none => (fill []).map fun inner => fields.set name (.tables [] inner)
    | .item, some (.tables closed last) =>
      (fill []).map fun inner => fields.set name (.tables (closed ++ [last]) inner)
    | _, _ => none
  | name :: next :: path, fields =>
    match fields.get? name with
    | none =>
      (enter mark fill (next :: path) []).map fun inner =>
        fields.set name (.table .implied inner)
    | some (.table origin inner) =>
      (enter mark fill (next :: path) inner).map fun inner =>
        fields.set name (.table origin inner)
    | some (.tables closed last) =>
      (enter mark fill (next :: path) last).map fun last => fields.set name (.tables closed last)
    | some (.value _) => none

/-- Adds a section. -/
def addSection (fields : Fields) (s : Section) : Option Fields :=
  enter s.mark (assignAll s.assignments) s.path fields

end Fields

mutual

/-- The finished value of a field. -/
def Node.close : Node → Toml
  | .value v => v
  | .table _ fields => .table (closeFields fields)
  | .tables closed last => .array (closeTables closed ++ [.table (closeFields last)])

/-- The finished fields of a table. -/
def closeFields : List (String × Node) → List (String × Toml)
  | [] => []
  | (name, node) :: rest => (name, node.close) :: closeFields rest

/-- The finished tables of an array. -/
def closeTables : List (List (String × Node)) → List Toml
  | [] => []
  | fields :: rest => .table (closeFields fields) :: closeTables rest

end

/-- The table that assignments alone give. -/
def ofAssignments? (assignments : List Assignment) : Option Toml :=
  (Fields.assignAll assignments []).map fun fields => .table (closeFields fields)

/-- The fields of a document. -/
def ofPieces? (pieces : Pieces) : Option (List (String × Toml)) := do
  let fields ← Fields.assignAll pieces.top []
  let fields ← pieces.sections.foldlM Fields.addSection fields
  return closeFields fields

end HumidifierBridge.Toml
