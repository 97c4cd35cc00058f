import HumidifierBridge.Config.Load
import HumidifierBridge.Config.Text
import HumidifierBridge.Storage.FileTree

/-!
# The configuration store

A `ConfigStore` keeps the configuration in one file. Saving writes a new file beside it and moves
that over the old one, so that a save that fails leaves the old file as it was.
-/

namespace HumidifierBridge

/-- The configuration file at a path. -/
structure ConfigStore where
  path : String
  deriving DecidableEq

/-- How the steps of a save fail for reasons outside the tree. -/
structure SaveFaults where
  write : Option WriteFault := none
  rename : Option RenameFault := none

namespace ConfigStore

/-- The path of the file that is written first. -/
def newPath (s : ConfigStore) : String := s.path ++ ".new"

/-- Reads the file without checking what it says. -/
def read (s : ConfigStore) (files : FileTree) : Except ConfigError ConfigFile :=
  match files.entry s.path with
  | .error .missing => .error (.notFound s.path)
  | .error e => .error (.io e)
  | .ok .directory => .error (.notARegularFile s.path)
  | .ok (.file contents) =>
    match String.fromUTF8? contents with
    | none => .error (.io .notText)
    | some text =>
      match ConfigFile.ofText? text.toList with
      | none => .error .malformed
      | some file => .ok file

/-- Reads and checks the file. -/
def load (s : ConfigStore) (files : FileTree) (loadedAt : Time) :
    Except ConfigError LoadedConfig := do
  (← s.read files).load loadedAt

/-- Replaces the file. When a step fails, what it left of the new file is removed. -/
def save (s : ConfigStore) (file : ConfigFile) (files : FileTree) (faults : SaveFaults := {}) :
    Except ConfigError Unit × FileTree :=
  match files.write s.newPath file.toText.toUTF8 faults.write with
  | (.error e, written) => (.error (.io e), (written.removeFile s.newPath).2)
  | (.ok (), written) =>
    match written.rename s.newPath s.path faults.rename with
    | (.error e, left) => (.error (.io e), (left.removeFile s.newPath).2)
    | (.ok (), renamed) => (.ok (), renamed)

/-- Writes the file to start from. -/
def writeTemplate (s : ConfigStore) (files : FileTree) : Except ConfigError Unit × FileTree :=
  s.save .template files

end ConfigStore

end HumidifierBridge
