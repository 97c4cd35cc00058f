import HumidifierBridge.Appliance.Button

/-!
# Errors

Errors are causes, grouped by what the bridge does about them: failures of the appliance line and
of its answers lead to a later retry, a press that was not delivered is reported to the caller,
configuration errors end the program at its start, and refusals of the bus are only noted.
`BridgeError` joins them, `BridgeError.kind` classifies them, and each has one `message`.
-/

namespace HumidifierBridge

/-- How an exchange with the appliance broke off. -/
inductive LineFailure where
  | noAnswer
  | cutShort
  deriving DecidableEq, Repr

/-- A failure to exchange a request and its answer. -/
inductive ProtocolError where
  | http (failure : LineFailure)
  /-- A status whose answer is never used. -/
  | ignoredStatus (code : Nat)
  /-- Any other status that is no success. -/
  | status (code : Nat)
  | invalidAddress (text : String)
  deriving DecidableEq, Repr

/-- An answer that cannot be decoded. -/
inductive ParseError where
  | json
  | unexpectedFormat (text : String)
  deriving DecidableEq, Repr

/-- A failed operation on files. -/
inductive FileFailure where
  | missing
  | notADirectory
  | isADirectory
  | nameTooLong
  | invalidName
  | notText
  | refused
  | noSpace
  deriving DecidableEq, Repr

/-- A configuration that cannot be used or stored. -/
inductive ConfigError where
  | notFound (path : String)
  | notARegularFile (path : String)
  | io (failure : FileFailure)
  | malformed
  | missingField (field : String)
  | invalidValue (field message : String)
  | duplicateSensor (name : String)
  deriving DecidableEq, Repr

/-- A refusal of the bus transport. -/
inductive BusError where
  | noSession
  | rejected (text : String)
  deriving DecidableEq, Repr

/-- Any failure of the bridge. -/
inductive BridgeError where
  | value (e : ValueError)
  | protocol (e : ProtocolError)
  | parse (e : ParseError)
  | commandFailed (button : Button) (source : ProtocolError)
  | config (e : ConfigError)
  | bus (e : BusError)
  deriving DecidableEq, Repr

/-- What an error means for the bridge. -/
inductive ErrorKind where
  | connect
  | parse
  | configChange
  | badConfig
  | bus
  deriving DecidableEq, Repr

/-- The text of a broken exchange. -/
def LineFailure.message : LineFailure → String
  | .noAnswer => "no answer from the appliance"
  | .cutShort => "the answer was cut short"

/-- The text of a protocol error. -/
def ProtocolError.message : ProtocolError → String
  | .http failure => "HTTP request failed: " ++ failure.message
  | .ignoredStatus code => "appliance answered HTTP " ++ toString code ++ ", ignoring response"
  | .status code => "appliance answered HTTP " ++ toString code
  | .invalidAddress text => "invalid address: " ++ text

/-- The text of a decoding error. -/
def ParseError.message : ParseError → String
  | .json => "JSON parse error: malformed document"
  | .unexpectedFormat text => "unexpected response format: " ++ text

/-- The text of a failed file operation. -/
def FileFailure.message : FileFailure → String
  | .missing => "no such file or directory"
  | .notADirectory => "not a directory"
  | .isADirectory => "is a directory"
  | .nameTooLong => "name too long"
  | .invalidName => "invalid name"
  | .notText => "not valid UTF-8"
  | .refused => "operation refused"
  | .noSpace => "no space left"

/-- The text of a configuration error. -/
def ConfigError.message : ConfigError → String
  | .notFound path => "configuration file " ++ path ++ " not found"
  | .notARegularFile path => "configuration file " ++ path ++ " is not a regular file"
  | .io failure => "configuration I/O error: " ++ failure.message
  | .malformed => "configuration syntax error: malformed file"
  | .missingField field => "mandatory parameter '" ++ field ++ "' is not set"
  | .invalidValue field message => "invalid value for " ++ field ++ ": " ++ message
  | .duplicateSensor name => "sensor name '" ++ name ++ "' is configured more than once"

/-- The text of a bus error. -/
def BusError.message : BusError → String
  | .noSession => "no bus session"
  | .rejected text => "rejected by transport: " ++ text

namespace BridgeError

/-- The text of an error, which names its group first. -/
def message : BridgeError → String
  | .value e => "value error: " ++ e.message
  | .protocol e => "protocol error: " ++ e.message
  | .parse e => "parse error: " ++ e.message
  | .commandFailed button source =>
    "sending button " ++ button.describe ++ " failed: " ++ source.message
  | .config e => "configuration error: " ++ e.message
  | .bus e => "bus error: " ++ e.message

/-- What an error means for the bridge. -/
def kind : BridgeError → ErrorKind
  | .value _ => .badConfig
  | .protocol _ => .connect
  | .parse _ => .parse
  | .commandFailed _ _ => .configChange
  | .config _ => .badConfig
  | .bus _ => .bus

/-- Errors after which the program must not go on. -/
def isFatal (e : BridgeError) : Bool := e.kind = .badConfig

end BridgeError

end HumidifierBridge
