import HumidifierBridge.Json.Literal
import HumidifierBridge.Text.Ascii

/-!
# Reading JSON

`Json.parse?` accepts exactly one document, surrounded by blanks at most: no byte-order mark, no
text after it, no lone surrogate escape, no number that overflows a double, and at most `maxNesting`
arrays and objects inside one another. The nesting bound is also what the recursion runs on: an
array or object reads its items with one level less.
-/

namespace HumidifierBridge.Json

/-- The deepest nesting of arrays and objects that is read. -/
def maxNesting : Nat := 127

/-- The four blanks of the format. -/
def isSpace (c : Char) : Bool := c = ' ' || c = '\t' || c = '\n' || c = '\r'

/-- A text without its leading blanks. -/
def skipSpaces (text : List Char) : List Char := text.dropWhile isSpace

/-- The number of four hexadecimal digits. -/
def hexQuad? (a b c d : Char) : Option Nat := do
  let a ← Ascii.hexValue? a
  let b ← Ascii.hexValue? b
  let c ← Ascii.hexValue? c
  let d ← Ascii.hexValue? d
  return a * 4096 + b * 256 + c * 16 + d

/-- The character of a one-letter escape. -/
def escaped? (c : Char) : Option Char :=
  match c with
  | '"' => some '"'
  | '\\' => some '\\'
  | '/' => some '/'
  | 'b' => some '\x08'
  | 'f' => some '\x0c'
  | 'n' => some '\n'
  | 'r' => some '\r'
  | 't' => some '\t'
  | _ => none

/-- The rest of a string after its opening quote: the characters up to the closing quote, and the
text after that. A character beyond the basic plane is a pair of escapes, its high half first. -/
def stringBody? : List Char → Option (List Char × List Char)
  | [] => none
  | '"' :: rest => some ([], rest)
  | '\\' :: 'u' :: a :: b :: c :: d :: rest =>
    match hexQuad? a b c d with
    | none => none
    | some n =>
      if n < 0xD800 ∨ 0xDFFF < n then
        (stringBody? rest).map fun (cs, rest) => (Char.ofNat n :: cs, rest)
      else if 0xDBFF < n then none
      else
        match rest with
        | '\\' :: 'u' :: a :: b :: c :: d :: rest =>
          match hexQuad? a b c d with
          | none => none
          | some m =>
            if 0xDC00 ≤ m ∧ m ≤ 0xDFFF then
              (stringBody? rest).map fun (cs, rest) =>
                (Char.ofNat (0x10000 + (n - 0xD800) * 1024 + (m - 0xDC00)) :: cs, rest)
            else none
        | _ => none
  | '\\' :: c :: rest =>
    match escaped? c with
    | none => none
    | some e => (stringBody? rest).map fun (cs, rest) => (e :: cs, rest)
  | c :: rest =>
    if c.toNat < 0x20 ∨ c = '\\' then none
    else (stringBody? rest).map fun (cs, rest) => (c :: cs, rest)

/-- A reader of one item: the item and the text after it. -/
abbrev ItemReader (α : Type) := List Char → Option (α × List Char)

/-- Items separated by commas, up to and with the closing mark. The first argument bounds the
number of items. -/
def separated? {α : Type} (item : ItemReader α) (closing : Char) :
    Nat → List Char → Option (List α × List Char)
  | 0, _ => none
  | n + 1, text => do
    let (a, rest) ← item text
    match skipSpaces rest with
    | ',' :: rest =>
      let (as, rest) ← separated? item closing n rest
      return (a :: as, rest)
    | c :: rest => if c = closing then some ([a], rest) else none
    | [] => none

/-- No item, or items separated by commas, after the opening mark. -/
def items? {α : Type} (item : ItemReader α) (closing : Char) (text : List Char) :
    Option (List α × List Char) :=
  match skipSpaces text with
  | [] => none
  | c :: rest => if c = closing then some ([], rest) else separated? item closing text.length text

/-- A member of an object: a name, a colon and a value. -/
def member {α : Type} (value : ItemReader α) : ItemReader (String × α) := fun text =>
  match skipSpaces text with
  | '"' :: rest => do
    let (name, rest) ← stringBody? rest
    match skipSpaces rest with
    | ':' :: rest =>
      let (v, rest) ← value rest
      return ((String.ofList name, v), rest)
    | _ => none
  | _ => none

/-- A fixed word at the start of a text. -/
def word? (word : String) (text : List Char) : Option (List Char) :=
  let w := word.toList
  if w.isPrefixOf text then some (text.drop w.length) else none

/-- A value without nesting: a word, a string or a number. -/
def plainValue? (text : List Char) : Option (Json × List Char) :=
  match text with
  | '"' :: rest => (stringBody? rest).map fun (s, rest) => (.string (String.ofList s), rest)
  | 'n' :: _ => (word? "null" text).map fun rest => (.null, rest)
  | 't' :: _ => (word? "true" text).map fun rest => (.bool true, rest)
  | 'f' :: _ => (word? "false" text).map fun rest => (.bool false, rest)
  | _ => do
    let (literal, rest) ← Literal.scan? text
    let n ← literal.value?
    return (.number n, rest)

/-- A value with at most the given nesting, after blanks. -/
def value? : Nat → ItemReader Json
  | 0, text =>
    match skipSpaces text with
    | '[' :: _ => none
    | '{' :: _ => none
    | text => plainValue? text
  | depth + 1, text =>
    match skipSpaces text with
    | '[' :: rest => (items? (value? depth) ']' rest).map fun (vs, rest) => (.array vs, rest)
    | '{' :: rest =>
      (items? (member (value? depth)) '}' rest).map fun (ms, rest) =>
        (.object (KeyMap.sortEntries ms), rest)
    | text => plainValue? text

/-- Reads a document. -/
def parse? (text : List Char) : Option Json :=
  match value? maxNesting text with
  | some (v, rest) => if (skipSpaces rest).isEmpty then some v else none
  | none => none

end HumidifierBridge.Json
