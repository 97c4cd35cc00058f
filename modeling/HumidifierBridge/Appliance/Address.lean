import HumidifierBridge.Error
import HumidifierBridge.Text.Blank

/-!
# Where the appliance is reached

An `ApplianceAddress` is what the user writes: a host, or a base URL of their own. `baseUrl` brings
it into the form that request URLs are made of, without slashes at its end; `url` joins that with a
path by exactly one slash.
-/

namespace HumidifierBridge

/-- Where and how patiently the appliance is asked. -/
structure ApplianceAddress where
  /-- A host name, a network address, or a base URL. -/
  host : String
  /-- The port, which a base URL does without. -/
  port : UInt16 := 80
  /-- How long an answer may take, in milliseconds. -/
  timeout : Nat := 42000
  deriving DecidableEq

/-- The port where none is given. -/
def defaultPort : UInt16 := 80

namespace ApplianceAddress

/-- Does the text start with the scheme of a web address? -/
def hasScheme (text : List Char) : Bool :=
  "http://".toList.isPrefixOf text || "https://".toList.isPrefixOf text

/-- A text without the slashes at its end. -/
def dropSlashes (text : List Char) : List Char := (text.reverse.dropWhile (· = '/')).reverse

/-- The base URL. A base URL that is given as the host stays, and its port is not looked at. -/
def baseUrl (a : ApplianceAddress) : String :=
  let host := dropSlashes a.host.toList
  if hasScheme host then String.ofList host
  else if a.port = defaultPort then "http://" ++ String.ofList host
  else "http://" ++ String.ofList host ++ ":" ++ toString a.port

/-- The base URL, unless the host is blank. -/
def checkedBaseUrl (a : ApplianceAddress) : Except ProtocolError String :=
  if Text.isBlankText a.host then .error (.invalidAddress "appliance address is empty")
  else .ok a.baseUrl

/-- The URL of a path below a base URL. -/
def url (base path : String) : String :=
  if path.toList.head? = some '/' then base ++ path else base ++ "/" ++ path

end ApplianceAddress

end HumidifierBridge
