import HumidifierBridge.Appliance.FanSpeed

/-!
# Scenes

A scene is a preset that the bus calls by number. Each of its settings is optional: an unset one is
left alone when the scene is called. The table holds scenes in the order in which their numbers were
first accepted, up to a fixed capacity, and the set of these numbers.
-/

namespace HumidifierBridge

/-- The settings of a scene. -/
structure SceneSpec where
  fan : Option FanSpeed := none
  sleep : Option Bool := none
  auto : Option Bool := none
  deriving DecidableEq, Inhabited

/-- A scene that sets nothing. -/
def SceneSpec.isEmpty (s : SceneSpec) : Bool := s.fan.isNone && s.sleep.isNone && s.auto.isNone

/-- A scene number and its settings. -/
structure SceneSlot where
  number : Int32
  spec : SceneSpec
  deriving DecidableEq, Inhabited

/-- What became of a request to store a scene. -/
inductive SaveOutcome where
  /-- The number was in the table. -/
  | updated
  /-- The number took a new slot. -/
  | added
  /-- The table is full; nothing was stored. -/
  | full
  deriving DecidableEq, Repr

/-- Scenes in order of acceptance. -/
structure SceneTable where
  capacity : Nat := 128
  slots : List SceneSlot := []
  /-- The set of the numbers in the slots. It is kept beside them, so that a number is looked for
  in it first and the slots are not gone through for nothing. -/
  configured : List Int32 := slots.map (·.number)
  deriving DecidableEq, Inhabited

namespace SceneTable

/-- The scene numbers of the slots, in order. -/
def numbers (t : SceneTable) : List Int32 := t.slots.map (·.number)

/-- Is the number in the table? -/
def isConfigured (t : SceneTable) (number : Int32) : Bool := number ∈ t.configured

/-- The settings in the first slot of a number. -/
def lookup? (number : Int32) (slots : List SceneSlot) : Option SceneSpec :=
  (slots.find? (·.number = number)).map (·.spec)

/-- The settings of a scene. -/
def get? (t : SceneTable) (number : Int32) : Option SceneSpec :=
  if t.isConfigured number then lookup? number t.slots else none

/-- Replaces the settings in the first slot of a number. -/
def replaceFirst (number : Int32) (spec : SceneSpec) : List SceneSlot → List SceneSlot
  | [] => []
  | slot :: rest =>
    if slot.number = number then { slot with spec := spec } :: rest
    else slot :: replaceFirst number spec rest

/-- A set of numbers and one more. -/
def addNumber (number : Int32) (numbers : List Int32) : List Int32 :=
  if number ∈ numbers then numbers else numbers ++ [number]

/-- Stores the settings of a scene, in its slot if there is one. -/
def insert (t : SceneTable) (number : Int32) (spec : SceneSpec) : SceneTable × SaveOutcome :=
  if number ∈ t.numbers then
    ({ t with slots := replaceFirst number spec t.slots }, .updated)
  else if t.slots.length ≥ t.capacity then (t, .full)
  else
    ({ t with
        slots := t.slots ++ [⟨number, spec⟩]
        configured := addNumber number t.configured }, .added)

/-- Makes sure that a scene is in the table; one that is there keeps its settings, a new one has
none. -/
def save (t : SceneTable) (number : Int32) : SceneTable × SaveOutcome :=
  if t.isConfigured number then (t, .updated) else t.insert number {}

end SceneTable

end HumidifierBridge
