import HumidifierBridge.Appliance.Line
import HumidifierBridge.Text.Ascii
import HumidifierBridge.Text.Decimal

/-!
# HTTP messages

A `Target` is where a URL leads. `post` is the message of a request, and `answer?` reads the octets
that have come back so far: it is none while more of them are needed. The end of a body is given by
the message, by its length or in chunks, or else by the end of the connection.
-/

namespace HumidifierBridge.Http

/-- Where a URL leads. -/
structure Target where
  host : String
  port : UInt16 := defaultPort
  path : String
  deriving DecidableEq, Repr

/-- Does a character end the part of a URL that names the host? -/
def endsAuthority (c : Char) : Bool := c = '/' || c = '?' || c = '#'

/-- Characters that a message may hold in its first line and in its header. -/
def isVisible (c : Char) : Bool := 0x21 ≤ c.toNat && c.toNat ≤ 0x7E

/-- An octet as two upper-case hexadecimal digits after a percent sign. -/
def percent (b : UInt8) : List Char := '%' :: (Ascii.octetDigits b).map Ascii.hexUpper

/-- The part of a URL after the host, as it is asked for. -/
def pathText (text : List Char) : List Char :=
  let sent := text.takeWhile (· ≠ '#')
  let sent := if sent.head? = some '/' then sent else '/' :: sent
  sent.flatMap fun c =>
    if isVisible c then [c] else c.toString.toUTF8.toList.flatMap percent

/-- Splits a port off the name of a host. A name in brackets keeps the colons it holds. -/
def splitPort (text : List Char) : List Char × List Char :=
  match text with
  | '[' :: _ =>
    let host := text.takeWhile (· ≠ ']')
    (host.drop 1, (text.drop (host.length + 1)).drop 1)
  | _ => (text.takeWhile (· ≠ ':'), (text.dropWhile (· ≠ ':')).drop 1)

/-- The port of its text; an empty text stands for the default. -/
def port? (text : List Char) : Option UInt16 :=
  if text.isEmpty then some defaultPort
  else (Decimal.natural? text).bind fun n => if n < 65536 then some (UInt16.ofNat n) else none

/-- The target of a URL, none where the URL is not one of plain HTTP. -/
def Target.ofUrl? (url : String) : Option Target := do
  let scheme := "http://".toList
  if !scheme.isPrefixOf url.toList then none
  let text := url.toList.drop scheme.length
  let authority := text.takeWhile (!endsAuthority ·)
  let (host, port) := splitPort (authority.reverse.takeWhile (· ≠ '@')).reverse
  if host.isEmpty || !host.all isVisible then none
  return {
    host := String.ofList host
    port := ← port? port
    path := String.ofList (pathText (text.dropWhile (!endsAuthority ·))) }

/-- The host as a URL names it. -/
def Target.hostText (t : Target) : String :=
  if ':' ∈ t.host.toList then "[" ++ t.host ++ "]" else t.host

/-- The octets of a POST to a target. -/
def post (t : Target) (body : Option String) : ByteArray :=
  let contents := (body.getD "").toUTF8
  let lines := [
    "POST " ++ t.path ++ " HTTP/1.1",
    "Host: " ++ t.hostText ++ (if t.port = defaultPort then "" else ":" ++ toString t.port),
    "Accept: */*",
    "Connection: close"] ++
    (if body.isSome then ["Content-Type: application/json"] else []) ++
    ["Content-Length: " ++ toString contents.size, "", ""]
  ("\r\n".intercalate lines).toUTF8 ++ contents

/-- The first line, without the line feed and a carriage return before it, and what follows; none
while its end is missing. -/
def line? : List UInt8 → Option (List Char × List UInt8)
  | [] => none
  | b :: rest =>
    if b = 10 then some ([], rest)
    else match line? rest with
      | none => none
      | some (text, rest) =>
        if b = 13 ∧ text = [] then some ([], rest) else some (Char.ofNat b.toNat :: text, rest)

theorem length_of_line? {octets rest : List UInt8} {text : List Char}
    (h : line? octets = some (text, rest)) : rest.length < octets.length := by
  induction octets generalizing text with
  | nil => simp [line?] at h
  | cons b octets ih =>
    rw [line?] at h
    split at h
    · grind
    · split at h
      · simp at h
      · next read => grind

/-- Lines up to an empty one, and what follows that; none while its end is missing. -/
def header? (octets : List UInt8) : Option (List (List Char) × List UInt8) :=
  match h : line? octets with
  | none => none
  | some ([], rest) => some ([], rest)
  | some (text, rest) =>
    have := length_of_line? h
    (header? rest).map fun (more, rest) => (text :: more, rest)
termination_by octets.length

/-- The value of a field of the header, in lower case and without the blanks around it. -/
def field? (lines : List (List Char)) (name : String) : Option (List Char) :=
  lines.findSome? fun text =>
    if (text.takeWhile (· ≠ ':')).map Char.toLower = name.toList then
      let value := ((text.dropWhile (· ≠ ':')).drop 1).map Char.toLower
      some ((value.dropWhile Char.isWhitespace).reverse.dropWhile Char.isWhitespace).reverse
    else none

/-- The status of the first line of an answer. -/
def status? (text : List Char) : Option Nat :=
  if "HTTP/1.".toList.isPrefixOf text then
    Decimal.natural? (((text.dropWhile (· ≠ ' ')).drop 1).takeWhile (· ≠ ' '))
  else none

/-- The size that a chunk starts with. -/
def chunkSize? (text : List Char) : Option Nat :=
  match text.takeWhile fun c => (Ascii.hexValue? c).isSome with
  | [] => none
  | digits => some (Decimal.ofDigits 16 ((digits.filterMap Ascii.hexValue?).map Fin.val))

/-- The octets of a body in chunks, and whether its end is there. -/
def chunks (octets : List UInt8) : List UInt8 × Bool :=
  match h : line? octets with
  | none => ([], false)
  | some (text, rest) =>
    match chunkSize? text with
    | none => ([], false)
    | some 0 => ([], (header? rest).isSome)
    | some (size + 1) =>
      have := length_of_line? h
      match h' : line? (rest.drop (size + 1)) with
      | none => (rest.take (size + 1), false)
      | some (_, later) =>
        have := length_of_line? h'
        have : (rest.drop (size + 1)).length ≤ rest.length := by simp
        let (body, complete) := chunks later
        (rest.take (size + 1) ++ body, complete)
termination_by octets.length
decreasing_by omega

/-- The octets of a body, given the header before it, and whether its end is there. `ended` says
that the connection is at its end. -/
def body (status : Nat) (lines : List (List Char)) (rest : List UInt8) (ended : Bool) :
    List UInt8 × Bool :=
  if status = 204 ∨ status = 304 then ([], true)
  else if (field? lines "transfer-encoding").isSome then chunks rest
  else match (field? lines "content-length").bind Decimal.natural? with
    | some size => (rest.take size, size ≤ rest.length)
    | none => (rest, ended)

/-- The answer in the octets of a connection. What is no answer counts as none at all. -/
def answer? (octets : List UInt8) (ended : Bool) : Option Answer :=
  let missing := if ended then some .none else none
  match line? octets with
  | none => missing
  | some (first, afterFirst) =>
    match status? first with
    | none => some .none
    | some status =>
      match header? afterFirst with
      | none => missing
      | some (lines, rest) =>
        let (contents, complete) := body status lines rest ended
        if complete || ended then some (.response status contents complete) else none

end HumidifierBridge.Http
