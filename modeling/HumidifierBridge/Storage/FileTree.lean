import HumidifierBridge.Error

/-!
# Files and directories

A `FileTree` holds the files and directories below the working directory by their place, a list of
names. A path is a text: names between slashes, where an empty name and `.` mean nothing and `..`
leads to the parent. `walk` follows a path to a place; every directory on the way must be there, the
last name need not. Nothing lies above the working directory, which is its own parent.

Writing and renaming can fail for reasons outside the tree. The `fault` of each operation says how;
none means that nothing but the tree decides.
-/

namespace HumidifierBridge

/-- A file with its contents, or a directory. -/
inductive Entry where
  | file (contents : ByteArray)
  | directory

/-- The place of an entry: the names from the working directory on. -/
abbrev Place := List String

/-- Files and directories by place. The working directory itself is not listed. -/
structure FileTree where
  entries : List (Place × Entry) := []

/-- How a write fails for reasons outside the tree. -/
inductive WriteFault where
  /-- Before anything is written. -/
  | refused
  /-- After that; `left` is what the file then holds, if there still is one. -/
  | brokenOff (left : Option ByteArray)

/-- How a move fails for reasons outside the tree. -/
structure RenameFault where
  failure : FileFailure
  /-- What the file that was to be moved then holds, if there still is one. -/
  left : Option ByteArray

/-- The names of a path. -/
def pathNames (path : String) : List String :=
  ((path.toList.splitOn '/').map String.ofList).filter fun name => name ≠ "" ∧ name ≠ "."

/-- Does the path only make sense for a directory? -/
def meansDirectory (path : String) : Bool :=
  match (path.toList.splitOn '/').getLast? with
  | some name => name = [] || name = ['.'] || name = ['.', '.']
  | none => true

/-- The greatest size of a name in octets. -/
def maxNameSize : Nat := 255

/-- The size in octets at which a path is too long. -/
def pathSizeLimit : Nat := 4096

namespace FileTree

/-- The tree without entries. -/
def empty : FileTree := {}

/-- The entry at a place. -/
def get? (t : FileTree) (place : Place) : Option Entry :=
  if place = [] then some .directory else (t.entries.find? (·.1 = place)).map (·.2)

/-- The tree without the entry at a place. -/
def erase (t : FileTree) (place : Place) : FileTree := ⟨t.entries.filter (·.1 ≠ place)⟩

/-- The tree with an entry put at a place. -/
def set (t : FileTree) (place : Place) (entry : Entry) : FileTree :=
  ⟨(place, entry) :: (t.erase place).entries⟩

/-- The tree with what a failure left of a file at a place. -/
def leave (t : FileTree) (place : Place) : Option ByteArray → FileTree
  | some contents => t.set place (.file contents)
  | none => t.erase place

/-- Follows names from a place on. -/
def walk (t : FileTree) : (start : Place) → List String → Except FileFailure Place
  | start, [] => .ok start
  | start, name :: rest =>
    if name = ".." then t.walk start.dropLast rest
    else if maxNameSize < name.utf8ByteSize then .error .nameTooLong
    else if rest = [] then .ok (start ++ [name])
    else match t.get? (start ++ [name]) with
      | none => .error .missing
      | some (.file _) => .error .notADirectory
      | some .directory => t.walk (start ++ [name]) rest

/-- The place of a path. -/
def resolve (t : FileTree) (path : String) : Except FileFailure Place :=
  if path = "" then .error .missing
  else if '\x00' ∈ path.toList then .error .invalidName
  else if pathSizeLimit ≤ path.utf8ByteSize then .error .nameTooLong
  else t.walk [] (pathNames path)

/-- The entry at a path. -/
def entry (t : FileTree) (path : String) : Except FileFailure Entry := do
  match t.get? (← t.resolve path) with
  | none => .error .missing
  | some .directory => .ok .directory
  | some (.file contents) =>
    if meansDirectory path then .error .notADirectory else .ok (.file contents)

/-- Writes a file. An earlier file at the path is replaced. -/
def write (t : FileTree) (path : String) (contents : ByteArray) (fault : Option WriteFault) :
    Except FileFailure Unit × FileTree :=
  match t.resolve path with
  | .error e => (.error e, t)
  | .ok place =>
    if meansDirectory path then (.error .isADirectory, t)
    else match t.get? place, fault with
      | some .directory, _ => (.error .isADirectory, t)
      | _, none => (.ok (), t.set place (.file contents))
      | _, some .refused => (.error .refused, t)
      | _, some (.brokenOff left) => (.error .noSpace, t.leave place left)

/-- Moves a file to another path. An earlier file at that path is replaced. -/
def rename (t : FileTree) (source target : String) (fault : Option RenameFault) :
    Except FileFailure Unit × FileTree :=
  match t.entry source, t.resolve source, t.resolve target with
  | .error e, _, _ => (.error e, t)
  | .ok .directory, _, _ => (.error .isADirectory, t)
  | .ok (.file _), .error e, _ => (.error e, t)
  | .ok (.file _), .ok _, .error e => (.error e, t)
  | .ok (.file contents), .ok old, .ok new =>
    if meansDirectory target then (.error .notADirectory, t)
    else match t.get? new, fault with
      | some .directory, _ => (.error .isADirectory, t)
      | _, some fault => (.error fault.failure, t.leave old fault.left)
      | _, none => (.ok (), (t.erase old).set new (.file contents))

/-- Removes a file. -/
def removeFile (t : FileTree) (path : String) : Except FileFailure Unit × FileTree :=
  match t.entry path, t.resolve path with
  | .error e, _ => (.error e, t)
  | .ok .directory, _ => (.error .isADirectory, t)
  | .ok (.file _), .error e => (.error e, t)
  | .ok (.file _), .ok place => (.ok (), t.erase place)

/-- Makes the directories that names lead through, where they are missing. -/
def makeDirectories (t : FileTree) : (start : Place) → List String → FileTree
  | _, [] => t
  | start, name :: rest =>
    if name = ".." then t.makeDirectories start.dropLast rest
    else
      let place := start ++ [name]
      let t := if (t.get? place).isNone then t.set place .directory else t
      t.makeDirectories place rest

/-- Makes a directory and those above it. -/
def makeDirectory (t : FileTree) (path : String) : FileTree :=
  t.makeDirectories [] (pathNames path)

/-- Removes what is at a path, a directory with all it holds. -/
def remove (t : FileTree) (path : String) : FileTree :=
  match t.resolve path with
  | .ok place => ⟨t.entries.filter fun e => !place.isPrefixOf e.1⟩
  | .error _ => t

/-- How an entry is listed: its names with slashes between them, and one after a directory. -/
def listing (e : Place × Entry) : String :=
  "/".intercalate e.1 ++ (match e.2 with | .directory => "/" | .file _ => "")

/-- All entries as listed, in ascending order. -/
def list (t : FileTree) : List String :=
  (t.entries.map listing).mergeSort fun a b => !decide (b < a)

end FileTree

end HumidifierBridge
