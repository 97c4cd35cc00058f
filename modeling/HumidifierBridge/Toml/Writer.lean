import HumidifierBridge.Toml.Quoted
import HumidifierBridge.Toml.Table

/-!
# Writing TOML

A `Sheet` is a document of plain values: fields of the outermost table, and blocks under headers of
their own. Each field takes a line, and an empty line stands before each header but a first one.
-/

namespace HumidifierBridge.Toml

/-- A value that is written on the line of its key. -/
inductive Plain where
  | string (s : String)
  | integer (n : Int)
  | boolean (b : Bool)
  deriving DecidableEq

/-- A table under a header. -/
structure Block where
  path : List String
  fields : List (String × Plain)
  deriving DecidableEq

/-- A document of plain values. -/
structure Sheet where
  top : List (String × Plain) := []
  blocks : List Block := []
  deriving DecidableEq

/-- The value that is read back. -/
def Plain.toToml : Plain → Toml
  | .string s => .string s
  | .integer n => .integer n
  | .boolean b => .boolean b

/-- The decimal text of an integer. -/
def writeInteger (n : Int) : List Char :=
  if n < 0 then '-' :: Nat.toDigits 10 n.natAbs else Nat.toDigits 10 n.natAbs

/-- The written form of a value. -/
def Plain.write : Plain → List Char
  | .string s => writeString s
  | .integer n => writeInteger n
  | .boolean true => ['t', 'r', 'u', 'e']
  | .boolean false => ['f', 'a', 'l', 's', 'e']

/-- The line of a field. -/
def writeField (field : String × Plain) : List Char :=
  writeKey field.1 ++ [' ', '=', ' '] ++ field.2.write ++ ['\n']

/-- A dotted key. -/
def writePath : List String → List Char
  | [] => []
  | [name] => writeKey name
  | name :: names => writeKey name ++ '.' :: writePath names

/-- A header and the fields under it. -/
def Block.write (b : Block) : List Char :=
  '[' :: writePath b.path ++ [']', '\n'] ++ b.fields.flatMap writeField

/-- Parts with an empty line between them. -/
def joinParts : List (List Char) → List Char
  | [] => []
  | [part] => part
  | part :: parts => part ++ '\n' :: joinParts parts

/-- The text of a document. -/
def Sheet.write (s : Sheet) : List Char :=
  joinParts ((if s.top.isEmpty then [] else [s.top.flatMap writeField]) ++
    s.blocks.map Block.write)

/-- The assignments that fields make. -/
def assignmentsOf (fields : List (String × Plain)) : List Assignment :=
  fields.map fun f => ⟨[f.1], f.2.toToml⟩

/-- The pieces that a document of plain values is made of. -/
def Sheet.pieces (s : Sheet) : Pieces where
  top := assignmentsOf s.top
  sections := s.blocks.map fun b => ⟨.table, b.path, assignmentsOf b.fields⟩

end HumidifierBridge.Toml
