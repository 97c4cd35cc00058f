import HumidifierBridge.Text.Ascii
import HumidifierBridge.Text.Decimal
import HumidifierBridge.Toml.Basic

/-!
# Strings and keys

A string has four written forms: basic, with escapes; literal, without; and a block form of each,
which holds newlines and, where it does, starts on a line of its own. `quoted?` reads any of them.
`Quoting.ofText` chooses the form for a text, preferring one that needs no escapes, and
`Quoting.write` writes it. A key is written without quotes where it can be.
-/

namespace HumidifierBridge.Toml

/-- The characters of a string, and the text after its closing mark. -/
abbrev Body := Option (List Char × List Char)

/-- Puts a character before those that are read; no character makes no string. -/
def Body.push : Option Char → Body → Body
  | some c, some (cs, rest) => some (c :: cs, rest)
  | _, _ => none

/-- The character with the code point that hexadecimal digits write. -/
def codePoint? (digits : List Char) : Option Char := do
  let values ← digits.mapM Ascii.hexValue?
  let n := Decimal.ofDigits 16 (values.map (·.val))
  if n.isValidChar then some (Char.ofNat n) else none

/-- The character of a one-letter escape. -/
def escaped? (c : Char) : Option Char :=
  match c with
  | 'b' => some '\x08'
  | 't' => some '\t'
  | 'n' => some '\n'
  | 'f' => some '\x0c'
  | 'r' => some '\r'
  | 'e' => some '\x1b'
  | '"' => some '"'
  | '\\' => some '\\'
  | _ => none

/-- The rest of a basic string after its opening quote. -/
def basicBody? : List Char → Body
  | [] => none
  | '"' :: rest => some ([], rest)
  | '\\' :: 'x' :: a :: b :: rest => .push (codePoint? [a, b]) (basicBody? rest)
  | '\\' :: 'u' :: a :: b :: c :: d :: rest => .push (codePoint? [a, b, c, d]) (basicBody? rest)
  | '\\' :: 'U' :: a :: b :: c :: d :: e :: f :: g :: h :: rest =>
    .push (codePoint? [a, b, c, d, e, f, g, h]) (basicBody? rest)
  | '\\' :: c :: rest => .push (escaped? c) (basicBody? rest)
  | c :: rest => if isText c ∧ c ≠ '\\' then .push (some c) (basicBody? rest) else none

/-- The rest of a literal string after its opening quote. -/
def literalBody? : List Char → Body
  | [] => none
  | '\'' :: rest => some ([], rest)
  | c :: rest => if isText c then .push (some c) (literalBody? rest) else none

/-- The end of a block, after three quotes in a row: up to two more quotes belong to the text, and
the last three close it. -/
def closeBlock (quote : Char) : List Char → List Char × List Char
  | a :: b :: rest =>
    if a = quote then
      if b = quote then ([quote, quote], rest) else ([quote], b :: rest)
    else ([], a :: b :: rest)
  | [a] => if a = quote then ([quote], []) else ([], [a])
  | [] => ([], [])

/-- Does nothing but blanks come before the end of the line? -/
def endsLine (text : List Char) : Bool :=
  match text.dropWhile isSpace with
  | '\n' :: _ => true
  | '\r' :: '\n' :: _ => true
  | _ => false

/-- The rest of a basic block. A backslash at the end of a line makes the text go on at the next
character that is neither a blank nor a newline; while such a character is looked for, `folding`
is true. -/
def blockBody? (folding : Bool) : List Char → Body
  | [] => none
  | '"' :: '"' :: '"' :: rest => some (closeBlock '"' rest)
  | '\\' :: rest =>
    if endsLine rest then blockBody? true rest
    else match rest with
      | 'x' :: a :: b :: rest => .push (codePoint? [a, b]) (blockBody? false rest)
      | 'u' :: a :: b :: c :: d :: rest =>
        .push (codePoint? [a, b, c, d]) (blockBody? false rest)
      | 'U' :: a :: b :: c :: d :: e :: f :: g :: h :: rest =>
        .push (codePoint? [a, b, c, d, e, f, g, h]) (blockBody? false rest)
      | c :: rest => .push (escaped? c) (blockBody? false rest)
      | [] => none
  | '\r' :: '\n' :: rest =>
    if folding then blockBody? true rest
    else .push (some '\r') (.push (some '\n') (blockBody? false rest))
  | c :: rest =>
    if folding ∧ (isSpace c ∨ c = '\n') then blockBody? true rest
    else if isText c ∨ c = '\n' then .push (some c) (blockBody? false rest)
    else none

/-- The rest of a literal block. -/
def literalBlockBody? : List Char → Body
  | [] => none
  | '\'' :: '\'' :: '\'' :: rest => some (closeBlock '\'' rest)
  | '\r' :: '\n' :: rest => .push (some '\r') (.push (some '\n') (literalBlockBody? rest))
  | c :: rest => if isText c ∨ c = '\n' then .push (some c) (literalBlockBody? rest) else none

/-- A text without the newline it starts with, if it does. -/
def dropNewline : List Char → List Char
  | '\n' :: rest => rest
  | '\r' :: '\n' :: rest => rest
  | rest => rest

/-- A string in any of its written forms, and the text after it. -/
def quoted? : List Char → Body
  | '"' :: '"' :: '"' :: rest => blockBody? false (dropNewline rest)
  | '"' :: rest => basicBody? rest
  | '\'' :: '\'' :: '\'' :: rest => literalBlockBody? (dropNewline rest)
  | '\'' :: rest => literalBody? rest
  | _ => none

/-- A key, quoted on one line or bare, and the text after it. -/
def key? : List Char → Body
  | '"' :: rest => basicBody? rest
  | '\'' :: rest => literalBody? rest
  | text =>
    match text.takeWhile isBareKey with
    | [] => none
    | name => some (name, text.dropWhile isBareKey)

/-- The written forms of a text. -/
inductive Quoting where
  | bare
  | basic
  | literal
  | basicBlock
  | literalBlock
  deriving DecidableEq, Repr

/-- The escape of a control character that has no letter of its own. -/
def hexEscape (c : Char) : List Char :=
  ['\\', 'u', '0', '0', Ascii.hexUpper (Fin.ofNat 16 (c.toNat / 16)),
    Ascii.hexUpper (Fin.ofNat 16 c.toNat)]

/-- The escape of a character that neither form of basic string holds as it is. -/
def escapeControl (c : Char) : List Char :=
  if c = '\x08' then ['\\', 'b']
  else if c = '\t' then ['\\', 't']
  else if c = '\x0c' then ['\\', 'f']
  else if c = '\r' then ['\\', 'r']
  else if c = '\\' then ['\\', '\\']
  else if isControl c then hexEscape c
  else [c]

/-- The characters of a basic string. -/
def escapeBasic : List Char → List Char
  | [] => []
  | c :: rest =>
    (if c = '"' then ['\\', '"'] else if c = '\n' then ['\\', 'n'] else escapeControl c) ++
      escapeBasic rest

/-- The characters of a basic block. Two quotes in a row stand as they are and the third is
escaped; `quotes` counts those that stand right before. -/
def escapeBlock (quotes : Nat) : List Char → List Char
  | [] => []
  | c :: rest =>
    if c = '"' then
      if quotes = 2 then '\\' :: '"' :: escapeBlock 0 rest
      else '"' :: escapeBlock (quotes + 1) rest
    else if c = '\n' then '\n' :: escapeBlock 0 rest
    else escapeControl c ++ escapeBlock 0 rest

/-- Does a character stand three times in a row? `before` counts how often it stands right
before. -/
def hasTriple (quote : Char) (before : Nat) : List Char → Bool
  | [] => false
  | c :: rest =>
    if c = quote then before = 2 || hasTriple quote (before + 1) rest
    else hasTriple quote 0 rest

/-- The newline after the opening of a block, which only a text of several lines has. -/
def openingNewline (text : List Char) : List Char := if '\n' ∈ text then ['\n'] else []

namespace Quoting

/-- Does the form hold the text without escapes? -/
def fits : Quoting → List Char → Bool
  | .bare, text => !text.isEmpty && text.all isBareKey
  | .basic, text => text.all fun c => isText c && c != '\\' && c != '"'
  | .literal, text => text.all fun c => isText c && c != '\''
  | .basicBlock, text =>
    text.all (fun c => (isText c || c == '\n') && c != '\\') && !hasTriple '"' 0 text
  | .literalBlock, text =>
    text.all (fun c => isText c || c == '\n') && !hasTriple '\'' 0 text

/-- The form for a string: the first that holds it without escapes, or else a basic one. -/
def ofText (text : List Char) : Quoting :=
  if fits .basic text then .basic
  else if fits .literal text then .literal
  else if fits .basicBlock text then .basicBlock
  else if fits .literalBlock text then .literalBlock
  else if '\n' ∈ text then .basicBlock
  else .basic

/-- The form for a key, which stays on one line. -/
def ofKey (text : List Char) : Quoting :=
  if fits .bare text then .bare
  else if fits .basic text then .basic
  else if fits .literal text then .literal
  else .basic

/-- Writes a text in a form. -/
def write : Quoting → List Char → List Char
  | .bare, text => text
  | .basic, text => '"' :: escapeBasic text ++ ['"']
  | .literal, text => '\'' :: text ++ ['\'']
  | .basicBlock, text =>
    ['"', '"', '"'] ++ openingNewline text ++ escapeBlock 0 text ++ ['"', '"', '"']
  | .literalBlock, text =>
    ['\'', '\'', '\''] ++ openingNewline text ++ text ++ ['\'', '\'', '\'']

end Quoting

/-- The written form of a string. -/
def writeString (s : String) : List Char := (Quoting.ofText s.toList).write s.toList

/-- The written form of a key. -/
def writeKey (s : String) : List Char := (Quoting.ofKey s.toList).write s.toList

end HumidifierBridge.Toml
