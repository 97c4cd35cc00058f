import HumidifierBridge.Toml.Quoted
import HumidifierBridge.Toml.Table
import HumidifierBridge.Toml.Unquoted

/-!
# Reading TOML

`Toml.parse?` reads a document into the fields of its outermost table. `pieces?` splits the text
into assignments and sections, which `ofPieces?` then joins. Arrays and inline tables may be spread
over lines, with comments and a comma after the last item; only a dotted key stays on one line. They
nest at most `maxNesting` deep, and a dotted key has at most `maxParts` parts; both bounds are also
what the recursion runs on.
-/

namespace HumidifierBridge.Toml

/-- The deepest nesting of arrays and inline tables that is read. -/
def maxNesting : Nat := 80

/-- The most parts of a dotted key that are read. -/
def maxParts : Nat := 80

/-- A reader of one item: the item and the text after it. -/
abbrev Reader (α : Type) := List Char → Option (α × List Char)

/-- A text without its leading blanks. -/
def skipSpaces (text : List Char) : List Char := text.dropWhile isSpace

/-- A text without leading blanks, newlines and comments. A comment that holds a control character
ends at it, where nothing can be read. -/
def skipTrivia (inComment : Bool) : List Char → List Char
  | [] => []
  | '\n' :: rest => skipTrivia false rest
  | '\r' :: '\n' :: rest => skipTrivia false rest
  | c :: rest =>
    if inComment then if isText c then skipTrivia true rest else c :: rest
    else if isSpace c then skipTrivia false rest
    else if c = '#' then skipTrivia true rest
    else c :: rest

/-- The text after the end of a line, which only blanks and a comment may come before. -/
def endLine? (text : List Char) : Option (List Char) :=
  let afterComment := match skipSpaces text with
    | '#' :: rest => rest.dropWhile isText
    | rest => rest
  match afterComment with
  | [] => some []
  | '\n' :: rest => some rest
  | '\r' :: '\n' :: rest => some rest
  | _ => none

/-- A dotted key of at most the given number of parts, with blanks around each part. -/
def path? : (parts : Nat) → Reader (List String)
  | 0, _ => none
  | parts + 1, text => do
    let (name, rest) ← key? (skipSpaces text)
    match skipSpaces rest with
    | '.' :: rest =>
      let (names, rest) ← path? parts rest
      return (String.ofList name :: names, rest)
    | rest => return ([String.ofList name], rest)

/-- Characters of a value without quotes: all but blanks, newlines and what structures a
document. -/
def isUnquoted (c : Char) : Bool :=
  !(isSpace c || ['\n', '\r', '#', '=', ',', '[', ']', '\x7b', '\x7d'].contains c)

/-- A value without quotes. A blank may stand between a date and a time. -/
def unquoted? (text : List Char) : Option (Toml × List Char) :=
  let word := text.takeWhile isUnquoted
  let rest := text.dropWhile isUnquoted
  match rest with
  | ' ' :: c :: _ =>
    if takeDate? word = some [] ∧ Decimal.isDigit c then
      let time := (rest.drop 1).takeWhile isUnquoted
      (ofUnquoted? (word ++ ' ' :: time)).map (·, (rest.drop 1).dropWhile isUnquoted)
    else (ofUnquoted? word).map (·, rest)
  | _ => (ofUnquoted? word).map (·, rest)

/-- Items up to and with the closing mark, separated by commas, perhaps one after the last. The
number bounds how many there are. -/
def items? {α : Type} (item : Reader α) (closing : Char) : Nat → Reader (List α)
  | 0, _ => none
  | n + 1, text =>
    match skipTrivia false text with
    | [] => none
    | c :: rest =>
      if c = closing then some ([], rest)
      else do
        let (a, rest) ← item (c :: rest)
        match skipTrivia false rest with
        | ',' :: rest =>
          let (as, rest) ← items? item closing n rest
          return (a :: as, rest)
        | c :: rest => if c = closing then some ([a], rest) else none
        | [] => none

/-- An assignment: a dotted key, an equals sign and a value, after blanks. What `skip` passes over
may stand on either side of the equals sign. -/
def assignment? (skip : List Char → List Char) (value : Reader Toml) : Reader Assignment :=
  fun text => do
    let (path, rest) ← path? maxParts text
    match skip rest with
    | '=' :: rest =>
      let (v, rest) ← value (skip rest)
      return (⟨path, v⟩, rest)
    | _ => none

/-- A value without nesting. -/
def plain? : Reader Toml := fun text =>
  match text with
  | '"' :: _ => (quoted? text).map fun (s, rest) => (.string (String.ofList s), rest)
  | '\'' :: _ => (quoted? text).map fun (s, rest) => (.string (String.ofList s), rest)
  | _ => unquoted? text

/-- A value with at most the given nesting. -/
def value? : (nesting : Nat) → Reader Toml
  | 0, text => plain? text
  | nesting + 1, text =>
    match text with
    | '[' :: rest =>
      (items? (value? nesting) ']' (rest.length + 1) rest).map fun (vs, rest) => (.array vs, rest)
    | '\x7b' :: rest => do
      let assignment := assignment? (skipTrivia false) (value? nesting)
      let (assignments, rest) ← items? assignment '\x7d' (rest.length + 1) rest
      let table ← ofAssignments? assignments
      return (table, rest)
    | _ => plain? text

/-- A header, without what is assigned under it. -/
def header? (text : List Char) : Option ((Mark × List String) × List Char) :=
  match text with
  | '[' :: '[' :: rest =>
    match path? maxParts rest with
    | some (path, ']' :: ']' :: rest) => some ((.item, path), rest)
    | _ => none
  | '[' :: rest =>
    match path? maxParts rest with
    | some (path, ']' :: rest) => some ((.table, path), rest)
    | _ => none
  | _ => none

/-- One line of meaning: an assignment or a header. -/
inductive Line where
  | assignment (a : Assignment)
  | header (mark : Mark) (path : List String)

/-- A line, up to its end. -/
def line? : Reader Line := fun text =>
  match text with
  | '[' :: _ => do
    let ((mark, path), rest) ← header? text
    let rest ← endLine? rest
    return (.header mark path, rest)
  | _ => do
    let (a, rest) ← assignment? skipSpaces (value? maxNesting) text
    let rest ← endLine? rest
    return (.assignment a, rest)

/-- The lines of a text. The number bounds how many there are. -/
def lines? : Nat → List Char → Option (List Line)
  | 0, _ => none
  | n + 1, text =>
    match skipTrivia false text with
    | [] => some []
    | text => do
      let (line, rest) ← line? text
      let lines ← lines? n rest
      return line :: lines

/-- Puts a line before the pieces of the lines that follow it. -/
def Pieces.push : Line → Pieces → Pieces
  | .assignment a, p => { p with top := a :: p.top }
  | .header mark path, p => ⟨[], ⟨mark, path, p.top⟩ :: p.sections⟩

/-- The pieces that lines make: each assignment belongs to the header before it. -/
def Pieces.ofLines (lines : List Line) : Pieces := lines.foldr Pieces.push {}

/-- The pieces of a text, which may start with a byte-order mark. -/
def pieces? (text : List Char) : Option Pieces :=
  let text := match text with
    | '\uFEFF' :: rest => rest
    | _ => text
  (lines? (text.length + 1) text).map Pieces.ofLines

/-- Reads a document into the fields of its outermost table. -/
def parse? (text : List Char) : Option (List (String × Toml)) :=
  (pieces? text).bind ofPieces?

end HumidifierBridge.Toml
