import HumidifierBridge.Appliance.Address
import HumidifierBridge.Appliance.Button
import HumidifierBridge.Appliance.Report
import HumidifierBridge.Text.Utf8

/-!
# Talking to the appliance

Every request is a POST of its own. A `Line σ` says how an appliance in state `σ` answers one, so
that a request is a function from that state to the answer and the next state. `Line.post` sorts the
answers into bodies and errors, `Line.fetchReport` reads the data document, and `Line.press` presses
a button.
-/

namespace HumidifierBridge

/-- A request. -/
structure Request where
  url : String
  /-- A JSON document, if there is anything to say. -/
  body : Option String
  deriving DecidableEq, Repr

/-- What comes back. -/
inductive Answer where
  /-- The appliance cannot be reached, or hangs up. -/
  | none
  /-- A status and a body, which may be shorter than announced. -/
  | response (status : Nat) (body : List UInt8) (complete : Bool)
  deriving DecidableEq

/-- The way to an appliance whose state is a `σ`. -/
structure Line (σ : Type) where
  base : String
  answer : Request → σ → Answer × σ

/-- Where the data document is. -/
def dataPath : String := "/api/data"

/-- Where button presses go. -/
def buttonPath : String := "/api/btn"

/-- The body of a button press. -/
def Button.body (b : Button) : String := "\x7b\"btn\":" ++ toString b.code ++ "\x7d"

/-- The use of an answer: the body of a success, or why there is none. -/
def Answer.result : Answer → Except ProtocolError (List Char)
  | .none => .error (.http .noAnswer)
  | .response status body complete =>
    if status = 403 ∨ status = 404 ∨ status = 503 then .error (.ignoredStatus status)
    else if status < 200 ∨ 299 < status then .error (.status status)
    else if complete then .ok (Text.decodeLossy body)
    else .error (.http .cutShort)

/-- Makes the body of an answer into a report. -/
def Answer.report (a : Answer) : Except BridgeError DataReport :=
  match a.result with
  | .error e => .error (.protocol e)
  | .ok body =>
    match DataReport.parse body with
    | .error e => .error (.parse e)
    | .ok report => .ok report

/-- Has a press with this answer reached the appliance? An unexpected status says that it has. -/
def Answer.delivered (button : Button) (a : Answer) : Except BridgeError Unit :=
  match a.result with
  | .ok _ => .ok ()
  | .error (.status _) => .ok ()
  | .error e => .error (.commandFailed button e)

namespace Line

variable {σ : Type}

/-- Posts to a path. -/
def post (line : Line σ) (path : String) (body : Option String) (appliance : σ) :
    Except ProtocolError (List Char) × σ :=
  let (answer, appliance) := line.answer ⟨ApplianceAddress.url line.base path, body⟩ appliance
  (answer.result, appliance)

/-- Reads the data document. -/
def fetchReport (line : Line σ) (appliance : σ) : Except BridgeError DataReport × σ :=
  let (answer, appliance) :=
    line.answer ⟨ApplianceAddress.url line.base dataPath, none⟩ appliance
  (answer.report, appliance)

/-- Presses a button. -/
def press (line : Line σ) (button : Button) (appliance : σ) : Except BridgeError Unit × σ :=
  let (answer, appliance) :=
    line.answer ⟨ApplianceAddress.url line.base buttonPath, some button.body⟩ appliance
  (answer.delivered button, appliance)

/-- Presses buttons in order, up to the first press that does not reach the appliance. -/
def pressAll (line : Line σ) : List Button → σ → Except BridgeError Unit × σ
  | [], appliance => (.ok (), appliance)
  | button :: rest, appliance =>
    match line.press button appliance with
    | (.ok (), appliance) => line.pressAll rest appliance
    | (.error e, appliance) => (.error e, appliance)

end Line

end HumidifierBridge
