import HumidifierBridge.Proofs.PlainValues

/-!
# Documents are read as they were written

A document of plain values is written line by line: fields, headers, and an empty line before a
header. `HasLines` says which lines a text is read as. Every written field and header is one of
them, whatever follows it, and so a whole document is read as the pieces that it was made of.
-/

namespace HumidifierBridge.Toml

/-! ### Keys and paths -/

/-- The first characters of keys. -/
def StartsKey (c : Char) : Prop := c = '"' ∨ c = '\'' ∨ isBareKey c = true

instance (c : Char) : Decidable (StartsKey c) := inferInstanceAs (Decidable (_ ∨ _ ∨ _))

theorem writeKey_eq_cons (name : String) : ∃ c body, writeKey name = c :: body ∧ StartsKey c := by
  rw [writeKey]
  rcases Quoting.ofKey_spec name.toList with hform | ⟨hform, -⟩ | ⟨hform, hfits⟩
  · exact ⟨'"', _, by rw [hform]; rfl, .inl rfl⟩
  · exact ⟨'\'', _, by rw [hform]; rfl, .inr (.inl rfl)⟩
  · simp only [Quoting.fits, Bool.and_eq_true, Bool.not_eq_true',
      List.isEmpty_eq_false_iff] at hfits
    obtain ⟨c, body, hbody⟩ := List.exists_cons_of_ne_nil hfits.1
    refine ⟨c, body, by rw [hform, Quoting.write, hbody], .inr (.inr ?_)⟩
    exact List.all_eq_true.1 hfits.2 c (by simp [hbody])

/-- No key starts with what separates keys. -/
theorem StartsKey.ne {c d : Char} (h : StartsKey c) (hd : ¬ StartsKey d) : c ≠ d :=
  fun hcd => hd (hcd ▸ h)

theorem StartsKey.not_isSpace {c : Char} (h : StartsKey c) : isSpace c = false := by
  simp [isSpace, h.ne (show ¬ StartsKey ' ' by decide), h.ne (show ¬ StartsKey '\t' by decide)]

theorem writePath_eq_cons {path : List String} (h : path ≠ []) :
    ∃ c body, writePath path = c :: body ∧ StartsKey c := by
  obtain ⟨name, names, rfl⟩ := List.exists_cons_of_ne_nil h
  obtain ⟨c, body, hbody, hc⟩ := writeKey_eq_cons name
  cases names with
  | nil => exact ⟨c, body, hbody, hc⟩
  | cons next names =>
    exact ⟨c, body ++ '.' :: writePath (next :: names), by simp [writePath, hbody], hc⟩

theorem skipSpaces_of_head? {text : List Char} (h : ∀ c ∈ text.head?, isSpace c = false) :
    skipSpaces text = text := by
  cases text with
  | nil => rfl
  | cons c text => simp [skipSpaces, h c rfl]

/-- A dotted key is read as it was written, up to the blanks behind it. -/
theorem path?_writePath {path : List String} (hpath : path ≠ []) {parts : Nat}
    (hparts : path.length ≤ parts) {rest : List Char}
    (hkey : ∀ c ∈ rest.head?, isBareKey c = false) (hdot : (skipSpaces rest).head? ≠ some '.') :
    path? parts (writePath path ++ rest) = some (path, skipSpaces rest) := by
  induction path generalizing parts with
  | nil => exact absurd rfl hpath
  | cons name names ih =>
    obtain ⟨parts, rfl⟩ : ∃ n, parts = n + 1 := ⟨parts - 1, by simp at hparts; omega⟩
    obtain ⟨c, body, hbody, hc⟩ := writeKey_eq_cons name
    have hskip : ∀ tail, skipSpaces (writeKey name ++ tail) = writeKey name ++ tail :=
      fun tail => skipSpaces_of_head? (by simp [hbody, hc.not_isSpace])
    cases names with
    | nil =>
      have hread := key?_writeKey name hkey
      simp only [writePath, path?, hskip, hread, Option.bind_eq_bind, Option.bind_some]
      split
      · rename_i hrest
        simp [hrest] at hdot
      · simp
    | cons next names =>
      have hread : key? (writeKey name ++ '.' :: (writePath (next :: names) ++ rest)) =
          some (name.toList, '.' :: (writePath (next :: names) ++ rest)) :=
        key?_writeKey name (by simp [isBareKey])
      have hrest := ih (by simp) (Nat.le_of_succ_le_succ hparts)
      have hpoint : skipSpaces ('.' :: (writePath (next :: names) ++ rest)) =
          '.' :: (writePath (next :: names) ++ rest) := skipSpaces_of_head? (by simp [isSpace])
      simp [writePath, path?, hskip, hread, hpoint, hrest]

/-! ### Lines -/

theorem endLine?_newline (rest : List Char) : endLine? ('\n' :: rest) = some rest := by
  simp [endLine?, skipSpaces, isSpace]

theorem Plain.write_eq_cons (v : Plain) : ∃ c body, v.write = c :: body ∧ isSpace c = false := by
  cases v with
  | string s =>
    obtain ⟨c, body, hbody, rfl | rfl⟩ := writeString_eq_cons s
    · exact ⟨_, body, hbody, by decide⟩
    · exact ⟨_, body, hbody, by decide⟩
  | integer n =>
    obtain ⟨c, body, hbody⟩ := List.exists_cons_of_ne_nil (writeInteger_ne_nil n)
    have hspace : ' ' ∉ writeInteger n := notMem_writeInteger n (by decide) (by decide)
    have htab : '\t' ∉ writeInteger n := notMem_writeInteger n (by decide) (by decide)
    simp only [hbody, List.mem_cons, not_or] at hspace htab
    exact ⟨c, body, hbody, by simp [isSpace, Ne.symm hspace.1, Ne.symm htab.1]⟩
  | boolean b => cases b <;> exact ⟨_, _, rfl, by decide⟩

/-- The line of a field is read as its assignment. -/
theorem line?_writeField {field : String × Plain} (h : field.2.IsWritable) (rest : List Char) :
    line? (writeField field ++ rest) =
      some (.assignment ⟨[field.1], field.2.toToml⟩, rest) := by
  obtain ⟨name, v⟩ := field
  have hpath : path? maxParts
      (writePath [name] ++ ' ' :: '=' :: ' ' :: (v.write ++ '\n' :: rest)) =
        some ([name], '=' :: ' ' :: (v.write ++ '\n' :: rest)) :=
    path?_writePath (by simp) (show 1 ≤ maxParts by decide) (by simp [isBareKey])
      (by simp [skipSpaces, isSpace])
  have hequals : skipSpaces ('=' :: ' ' :: (v.write ++ '\n' :: rest)) =
      '=' :: ' ' :: (v.write ++ '\n' :: rest) := skipSpaces_of_head? (by simp [isSpace])
  have hvalue : skipSpaces (' ' :: (v.write ++ '\n' :: rest)) = v.write ++ '\n' :: rest := by
    obtain ⟨d, value, hv, hd⟩ := v.write_eq_cons
    have hblank : isSpace ' ' = true := by decide
    simp [skipSpaces, hv, hd, hblank]
  have hassignment : assignment? skipSpaces (value? maxNesting)
      (writePath [name] ++ ' ' :: '=' :: ' ' :: (v.write ++ '\n' :: rest)) =
        some (⟨[name], v.toToml⟩, '\n' :: rest) := by
    simp [assignment?, hpath, hequals, hvalue, value?_write h]
  obtain ⟨c, body, hbody, hc⟩ := writeKey_eq_cons name
  have hbracket : c ≠ '[' := hc.ne (by decide)
  simp only [writePath, hbody, List.cons_append] at hassignment
  simp [line?, writeField, hbody, hbracket, hassignment, endLine?_newline]

/-- A header is read as its path. -/
theorem line?_header {path : List String} (hpath : path ≠ []) (hparts : path.length ≤ maxParts)
    (rest : List Char) :
    line? ('[' :: writePath path ++ ']' :: '\n' :: rest) = some (.header .table path, rest) := by
  have hread : path? maxParts (writePath path ++ ']' :: '\n' :: rest) =
      some (path, ']' :: '\n' :: rest) := by
    have hbracket : skipSpaces (']' :: '\n' :: rest) = ']' :: '\n' :: rest :=
      skipSpaces_of_head? (by simp [isSpace])
    rw [path?_writePath hpath hparts (by simp [isBareKey]) (by simp [hbracket]), hbracket]
  obtain ⟨c, body, hbody, hc⟩ := writePath_eq_cons hpath
  have hbracket : c ≠ '[' := hc.ne (by decide)
  rw [hbody, List.cons_append] at hread
  simp [line?, header?, hbody, hbracket, hread, endLine?_newline]

/-! ### Documents -/

/-- The text is read as the lines. -/
def HasLines (text : List Char) (lines : List Line) : Prop :=
  ∀ n, text.length < n → lines? n text = some lines

theorem HasLines.nil : HasLines [] [] := by
  intro n hn
  obtain ⟨n, rfl⟩ : ∃ m, n = m + 1 := ⟨n - 1, by omega⟩
  simp [lines?, skipTrivia]

/-- Empty lines are passed over. -/
theorem HasLines.newline {text : List Char} {lines : List Line} (h : HasLines text lines) :
    HasLines ('\n' :: text) lines := by
  intro n hn
  obtain ⟨n, rfl⟩ : ∃ m, n = m + 1 := ⟨n - 1, by omega⟩
  have hlines := h (n + 1) (by simp at hn; omega)
  simpa [lines?, skipTrivia] using hlines

/-- What is read as one line, from its first character on, comes before the lines of the rest. -/
theorem HasLines.cons {c : Char} {text rest : List Char} {line : Line} {lines : List Line}
    (hskip : skipTrivia false (c :: text) = c :: text)
    (hline : line? (c :: text) = some (line, rest))
    (hlength : rest.length ≤ text.length) (h : HasLines rest lines) :
    HasLines (c :: text) (line :: lines) := by
  intro n hn
  obtain ⟨n, rfl⟩ : ∃ m, n = m + 1 := ⟨n - 1, by omega⟩
  have hrest : lines? n rest = some lines := h n (by simp at hn; omega)
  simp [lines?, hskip, hline, hrest]

/-- A text that starts with a byte-order mark has no lines. -/
theorem not_hasLines_mark (text : List Char) (lines : List Line) :
    ¬ HasLines ('\uFEFF' :: text) lines := by
  intro h
  have hspace : isSpace '\uFEFF' = false := by decide
  have hbare : isBareKey '\uFEFF' = false := by decide
  have hkey : key? ('\uFEFF' :: text) = none := by simp [key?, hbare]
  have hpath : ∀ parts, path? parts ('\uFEFF' :: text) = none := by
    intro parts
    cases parts with
    | zero => rfl
    | succ parts => simp [path?, skipSpaces, hspace, hkey]
  have hline : line? ('\uFEFF' :: text) = none := by simp [line?, assignment?, hpath]
  have hlines := h (text.length + 2) (by simp)
  simp [lines?, skipTrivia, hspace, hline] at hlines

theorem StartsKey.skipTrivia {c : Char} (h : StartsKey c) (text : List Char) :
    skipTrivia false (c :: text) = c :: text := by
  have hnewline : c ≠ '\n' := h.ne (by decide)
  have hreturn : c ≠ '\r' := h.ne (by decide)
  have hcomment : c ≠ '#' := h.ne (by decide)
  simp [Toml.skipTrivia, hreturn, hcomment, h.not_isSpace]

/-- The text is read as the lines, whatever stands behind it. -/
def IsPart (text : List Char) (lines : List Line) : Prop :=
  ∀ ⦃rest others⦄, HasLines rest others → HasLines (text ++ rest) (lines ++ others)

theorem IsPart.nil : IsPart [] [] := fun _ _ h => h

theorem IsPart.append {text text' : List Char} {lines lines' : List Line} (h : IsPart text lines)
    (h' : IsPart text' lines') : IsPart (text ++ text') (lines ++ lines') := by
  intro rest others hrest
  rw [List.append_assoc, List.append_assoc]
  exact h (h' hrest)

/-- The lines that fields are read as. -/
def fieldLines (fields : List (String × Plain)) : List Line :=
  (assignmentsOf fields).map .assignment

theorem isPart_writeField {field : String × Plain} (h : field.2.IsWritable) :
    IsPart (writeField field) [.assignment ⟨[field.1], field.2.toToml⟩] := by
  intro rest others hrest
  have hline := line?_writeField h rest
  obtain ⟨c, body, hbody, hc⟩ := writeKey_eq_cons field.1
  simp only [writeField, hbody, List.cons_append] at hline ⊢
  refine .cons (hc.skipTrivia _) hline ?_ hrest
  simp only [List.length_append]
  omega

theorem isPart_fields {fields : List (String × Plain)} (h : ∀ f ∈ fields, f.2.IsWritable) :
    IsPart (fields.flatMap writeField) (fieldLines fields) := by
  induction fields with
  | nil => exact .nil
  | cons field fields ih =>
    have hfirst := isPart_writeField (h field List.mem_cons_self)
    exact hfirst.append (ih fun f hf => h f (List.mem_cons_of_mem _ hf))

/-- The lines that a block is read as. -/
def Block.lines (b : Block) : List Line := .header .table b.path :: fieldLines b.fields

/-- Can the block be read again? Its header needs a path, not too long, and its values have to be
readable. -/
structure Block.IsWritable (b : Block) : Prop where
  path_ne_nil : b.path ≠ []
  length_path_le : b.path.length ≤ maxParts
  fields : ∀ f ∈ b.fields, f.2.IsWritable

theorem isPart_block {b : Block} (h : b.IsWritable) : IsPart b.write b.lines := by
  intro rest others hrest
  have hfields := isPart_fields h.fields hrest
  have hskip : ∀ text, skipTrivia false ('[' :: text) = '[' :: text := by
    intro text
    simp [skipTrivia, isSpace]
  have hline := line?_header h.path_ne_nil h.length_path_le (b.fields.flatMap writeField ++ rest)
  simp only [Block.write, List.cons_append, List.append_assoc, List.nil_append] at hline ⊢
  refine .cons (hskip _) hline ?_ hfields
  simp only [List.length_append, List.length_cons]
  omega

/-- The empty lines between parts leave no trace. -/
theorem hasLines_joinParts {parts : List (List Char × List Line)}
    (h : ∀ p ∈ parts, IsPart p.1 p.2) :
    HasLines (joinParts (parts.map Prod.fst)) (parts.flatMap Prod.snd) := by
  induction parts with
  | nil => exact .nil
  | cons part parts ih =>
    have hpart := h part List.mem_cons_self
    have hrest := ih fun p hp => h p (List.mem_cons_of_mem _ hp)
    cases parts with
    | nil => simpa [joinParts] using hpart .nil
    | cons next parts => exact hpart hrest.newline

/-- Can the document be read again? -/
structure Sheet.IsWritable (s : Sheet) : Prop where
  top : ∀ f ∈ s.top, f.2.IsWritable
  blocks : ∀ b ∈ s.blocks, b.IsWritable

/-- The lines that a document is read as. -/
def Sheet.lines (s : Sheet) : List Line := fieldLines s.top ++ s.blocks.flatMap Block.lines

theorem hasLines_write {s : Sheet} (h : s.IsWritable) : HasLines s.write s.lines := by
  have hblocks : ∀ p ∈ s.blocks.map fun b => (b.write, b.lines), IsPart p.1 p.2 := by
    simp only [List.mem_map]
    rintro p ⟨b, hb, rfl⟩
    exact isPart_block (h.blocks b hb)
  cases htop : s.top with
  | nil =>
    have hlines := hasLines_joinParts hblocks
    simpa [Sheet.write, Sheet.lines, htop, fieldLines, assignmentsOf, Function.comp_def,
      List.flatMap_map] using hlines
  | cons field fields =>
    have hparts : ∀ p ∈ (s.top.flatMap writeField, fieldLines s.top) ::
        s.blocks.map fun b => (b.write, b.lines), IsPart p.1 p.2 :=
      List.forall_mem_cons.2 ⟨isPart_fields h.top, hblocks⟩
    have hlines := hasLines_joinParts hparts
    simpa [Sheet.write, Sheet.lines, htop, Function.comp_def, List.flatMap_map] using hlines

theorem ofLines_fieldLines (fields : List (String × Plain)) (lines : List Line) :
    Pieces.ofLines (fieldLines fields ++ lines) =
      { Pieces.ofLines lines with
        top := assignmentsOf fields ++ (Pieces.ofLines lines).top } := by
  induction fields with
  | nil => rfl
  | cons field fields ih =>
    simp only [Pieces.ofLines, fieldLines, assignmentsOf] at ih
    simp only [Pieces.ofLines, fieldLines, assignmentsOf, List.map_cons, List.cons_append,
      List.foldr_cons, ih, Pieces.push]

theorem ofLines_blocks (blocks : List Block) :
    Pieces.ofLines (blocks.flatMap Block.lines) =
      ⟨[], blocks.map fun b => ⟨.table, b.path, assignmentsOf b.fields⟩⟩ := by
  induction blocks with
  | nil => rfl
  | cons b blocks ih =>
    have hfields := ofLines_fieldLines b.fields (blocks.flatMap Block.lines)
    rw [ih] at hfields
    simp only [Pieces.ofLines] at hfields
    simp [Pieces.ofLines, Block.lines, Pieces.push, hfields]

/-- **A document is read as it was written**: as the pieces that it was made of. -/
theorem pieces?_write {s : Sheet} (h : s.IsWritable) : pieces? s.write = some s.pieces := by
  have hlines := hasLines_write h
  have hmark : ∀ rest, s.write ≠ '\uFEFF' :: rest := by
    intro rest hrest
    exact not_hasLines_mark rest s.lines (hrest ▸ hlines)
  have hpieces : Pieces.ofLines s.lines = s.pieces := by
    rw [Sheet.lines, ofLines_fieldLines, ofLines_blocks]
    simp [Sheet.pieces]
  simp only [pieces?]
  rw [hlines _ (Nat.lt_succ_self _), Option.map_some, hpieces]

end HumidifierBridge.Toml
