import HumidifierBridge.Toml.Quoted

/-!
# Strings and keys are read as they were written

Whatever form a text is written in, `quoted?` and `key?` give the text back, with what stands after
it. Each reader is followed character by character: what a character is written as is read as that
character, whatever comes next. In a block the quotes need more: up to two in a row may stand as
they are, and with the three that close the block they may be five, so that the run of quotes just
before is carried along until it ends.
-/

namespace HumidifierBridge.Toml

@[simp] theorem Body.push_some (c : Char) (text rest : List Char) :
    Body.push (some c) (some (text, rest)) = some (c :: text, rest) := rfl

/-! ### Escapes -/

/-- A control character is one of the first 128. -/
theorem toNat_lt_of_isControl {c : Char} (h : isControl c = true) : c.toNat < 128 := by
  simp only [isControl, Bool.or_eq_true, decide_eq_true_eq] at h
  omega

/-- The digits of an escape write the code point of the character. -/
theorem codePoint?_hexEscape {c : Char} (h : c.toNat < 256) :
    codePoint? ['0', '0', Ascii.hexUpper (Fin.ofNat 16 (c.toNat / 16)),
      Ascii.hexUpper (Fin.ofNat 16 c.toNat)] = some c := by
  have hzero : Ascii.hexValue? '0' = some 0 := by decide
  have hvalue : ((0 * 16 + 0) * 16 + c.toNat / 16 % 16) * 16 + c.toNat % 16 = c.toNat := by omega
  have hvalid : c.toNat.isValidChar := .inl (by omega)
  simp only [Nat.zero_mul, Nat.zero_add, Nat.add_zero] at hvalue
  simp [codePoint?, hzero, Decimal.ofDigits, hvalue, hvalid]

/-- A character is written as it is, by a letter, or by its digits. -/
theorem escapeControl_cases (c : Char) :
    (∃ letter, escaped? letter = some c ∧ escapeControl c = ['\\', letter]) ∨
      (∃ high low, codePoint? ['0', '0', high, low] = some c ∧
        escapeControl c = ['\\', 'u', '0', '0', high, low]) ∨
      (isText c = true ∧ c ≠ '\\' ∧ escapeControl c = [c]) := by
  by_cases hb : c = '\x08'
  · exact .inl ⟨'b', by simp [escaped?, hb], by simp [escapeControl, hb]⟩
  by_cases ht : c = '\t'
  · exact .inl ⟨'t', by simp [escaped?, ht], by simp [escapeControl, ht]⟩
  by_cases hf : c = '\x0c'
  · exact .inl ⟨'f', by simp [escaped?, hf], by simp [escapeControl, hf]⟩
  by_cases hr : c = '\r'
  · exact .inl ⟨'r', by simp [escaped?, hr], by simp [escapeControl, hr]⟩
  by_cases hslash : c = '\\'
  · exact .inl ⟨'\\', by simp [escaped?, hslash], by simp [escapeControl, hslash]⟩
  by_cases hcontrol : isControl c = true
  · have hlt := toNat_lt_of_isControl hcontrol
    exact .inr (.inl ⟨_, _, codePoint?_hexEscape (by omega),
      by simp [escapeControl, hb, ht, hf, hr, hslash, hcontrol, hexEscape]⟩)
  · exact .inr (.inr ⟨by simp [isText, hcontrol], hslash,
      by simp [escapeControl, hb, ht, hf, hr, hslash, hcontrol]⟩)

/-- The letters of escapes are not those that digits follow, nor blanks. -/
theorem of_escaped? {letter c : Char} (h : escaped? letter = some c) :
    letter ≠ 'x' ∧ letter ≠ 'u' ∧ letter ≠ 'U' ∧ isSpace letter = false ∧ letter ≠ '\n' ∧
      letter ≠ '\r' := by
  simp only [escaped?] at h
  split at h <;> first | decide | cases h

/-! ### Basic strings -/

/-- What a character is written as in a basic string is read as that character. -/
theorem basicBody?_escape {c : Char} {tail text rest : List Char}
    (h : basicBody? tail = some (text, rest)) :
    basicBody? ((if c = '"' then ['\\', '"'] else if c = '\n' then ['\\', 'n']
      else escapeControl c) ++ tail) = some (c :: text, rest) := by
  split
  · rename_i hquote
    simp [basicBody?, escaped?, h, hquote]
  split
  · rename_i hnewline
    simp [basicBody?, escaped?, h, hnewline]
  rename_i hquote hnewline
  rcases escapeControl_cases c with ⟨letter, hletter, hc⟩ | ⟨high, low, hdigits, hc⟩ |
    ⟨htext, hslash, hc⟩
  · obtain ⟨hx, hu, hU, -⟩ := of_escaped? hletter
    simp [hc, basicBody?, hx, hu, hU, hletter, h]
  · simp [hc, basicBody?, hdigits, h]
  · simp [hc, basicBody?, hslash, htext, h]

theorem basicBody?_escapeBasic (text rest : List Char) :
    basicBody? (escapeBasic text ++ '"' :: rest) = some (text, rest) := by
  induction text with
  | nil => simp [escapeBasic, basicBody?]
  | cons c text ih =>
    rw [escapeBasic, List.append_assoc]
    exact basicBody?_escape ih

/-! ### Literal strings -/

theorem literalBody?_append {text : List Char} (h : Quoting.fits .literal text = true)
    (rest : List Char) : literalBody? (text ++ '\'' :: rest) = some (text, rest) := by
  induction text with
  | nil => simp [literalBody?]
  | cons c text ih =>
    simp only [Quoting.fits, List.all_cons, Bool.and_eq_true, bne_iff_ne] at h ih
    obtain ⟨⟨htext, hquote⟩, hrest⟩ := h
    have ih := ih (by simpa using hrest)
    simp [literalBody?, htext, ih]

/-! ### Blocks -/

/-- Up to two quotes before the three that close a block belong to the text. -/
theorem closeBlock_replicate {quote : Char} {count : Nat} (hcount : count ≤ 2) {rest : List Char}
    (h : rest.head? ≠ some quote) :
    closeBlock quote (List.replicate count quote ++ rest) =
      (List.replicate count quote, rest) := by
  obtain rfl | rfl | rfl : count = 0 ∨ count = 1 ∨ count = 2 := by omega
  · rcases rest with _ | ⟨a, _ | ⟨b, rest⟩⟩ <;> simp_all [closeBlock]
  · rcases rest with _ | ⟨a, rest⟩ <;> simp_all [closeBlock]
  · simp [closeBlock, List.replicate_succ]

/-- The quotes before a closing mark can as well stand behind it. -/
theorem replicate_append_close (quote : Char) (count : Nat) (rest : List Char) :
    List.replicate count quote ++ quote :: quote :: quote :: rest =
      quote :: quote :: quote :: (List.replicate count quote ++ rest) := by
  induction count with
  | zero => rfl
  | succ count ih => simp [List.replicate_succ, ih]

theorem blockBody?_close {count : Nat} (hcount : count ≤ 2) {rest : List Char}
    (h : rest.head? ≠ some '"') :
    blockBody? false (List.replicate count '"' ++ '"' :: '"' :: '"' :: rest) =
      some (List.replicate count '"', rest) := by
  rw [replicate_append_close]
  simp [blockBody?, closeBlock_replicate hcount h]

/-- Up to two quotes that something else follows are read as they are. -/
theorem blockBody?_quotes {count : Nat} (hcount : count ≤ 2) {tail text rest : List Char}
    (htail : tail.head? ≠ some '"') (h : blockBody? false tail = some (text, rest)) :
    blockBody? false (List.replicate count '"' ++ tail) =
      some (List.replicate count '"' ++ text, rest) := by
  have hisText : isText '"' = true := by decide
  cases tail with
  | nil => simp [blockBody?] at h
  | cons c tail =>
    have hc : c ≠ '"' := by simpa using htail
    obtain rfl | rfl | rfl : count = 0 ∨ count = 1 ∨ count = 2 := by omega
    · exact h
    · simp [blockBody?, hc, h, hisText]
    · simp [List.replicate_succ, blockBody?, hc, h, hisText]

/-- What a character other than a quote is written as in a basic block is read as that
character. -/
theorem blockBody?_escape {c : Char} (hquote : c ≠ '"') {tail text rest : List Char}
    (h : blockBody? false tail = some (text, rest)) :
    blockBody? false ((if c = '\n' then ['\n'] else escapeControl c) ++ tail) =
      some (c :: text, rest) := by
  split
  · rename_i hnewline
    simp [blockBody?, h, hnewline]
  rename_i hnewline
  rcases escapeControl_cases c with ⟨letter, hletter, hc⟩ | ⟨high, low, hdigits, hc⟩ |
    ⟨htext, hslash, hc⟩
  · obtain ⟨hx, hu, hU, hspace, hn, hr⟩ := of_escaped? hletter
    simp [hc, blockBody?, endsLine, hx, hu, hU, hspace, hn, hr, hletter, h]
  · simp [hc, blockBody?, endsLine, hdigits, h, isSpace]
  · have hreturn : c ≠ '\r' := by
      rintro rfl
      exact absurd htext (by decide)
    simp [hc, blockBody?, hreturn, hquote, htext, h]

/-- No character other than a quote is written as something that starts with one. -/
theorem head?_escape {c : Char} (hquote : c ≠ '"') (tail : List Char) :
    ((if c = '\n' then ['\n'] else escapeControl c) ++ tail).head? ≠ some '"' := by
  split
  · simp
  rcases escapeControl_cases c with ⟨letter, -, hc⟩ | ⟨high, low, -, hc⟩ | ⟨-, -, hc⟩
  · simp [hc]
  · simp [hc]
  · simpa [hc] using hquote

/-- A basic block is read as its text. The `count` quotes are those right before, which may yet
turn out to belong to the mark that closes the block. -/
theorem blockBody?_escapeBlock {count : Nat} (hcount : count ≤ 2) (text : List Char)
    {rest : List Char} (h : rest.head? ≠ some '"') :
    blockBody? false
        (List.replicate count '"' ++ (escapeBlock count text ++ '"' :: '"' :: '"' :: rest)) =
      some (List.replicate count '"' ++ text, rest) := by
  induction text generalizing count with
  | nil => simpa [escapeBlock] using blockBody?_close hcount h
  | cons c text ih =>
    have hfresh := ih (Nat.zero_le 2)
    simp only [List.replicate_zero, List.nil_append] at hfresh
    by_cases hc : c = '"'
    · subst hc
      by_cases htwo : count = 2
      · -- The third quote is escaped, which ends the run.
        have hread : blockBody? false ('\\' :: '"' :: (escapeBlock 0 text ++
            '"' :: '"' :: '"' :: rest)) = some ('"' :: text, rest) := by
          simp [blockBody?, endsLine, isSpace, escaped?, hfresh]
        simpa [escapeBlock, htwo] using blockBody?_quotes hcount (by simp) hread
      · have hnext := ih (show count + 1 ≤ 2 by omega)
        simpa [escapeBlock, htwo, List.replicate_succ'] using hnext
    · have hwritten : escapeBlock count (c :: text) =
          (if c = '\n' then ['\n'] else escapeControl c) ++ escapeBlock 0 text := by
        simp only [escapeBlock, hc, if_false]
        split <;> rfl
      rw [hwritten, List.append_assoc]
      exact blockBody?_quotes hcount (head?_escape hc _) (blockBody?_escape hc hfresh)

/-! ### Literal blocks -/

/-- A literal block without three quotes in a row is read as it stands. The `count` quotes are those
right before. -/
theorem literalBlockBody?_append {count : Nat} (hcount : count ≤ 2) {text : List Char}
    (htext : text.all (fun c => isText c || c == '\n') = true)
    (htriple : hasTriple '\'' count text = false) {rest : List Char}
    (h : rest.head? ≠ some '\'') :
    literalBlockBody?
        (List.replicate count '\'' ++ (text ++ '\'' :: '\'' :: '\'' :: rest)) =
      some (List.replicate count '\'' ++ text, rest) := by
  have hisText : isText '\'' = true := by decide
  induction text generalizing count with
  | nil =>
    rw [List.nil_append, replicate_append_close]
    simp [literalBlockBody?, closeBlock_replicate hcount h]
  | cons c text ih =>
    simp only [List.all_cons, Bool.and_eq_true] at htext
    by_cases hc : c = '\''
    · subst hc
      simp only [hasTriple, if_true, Bool.or_eq_false_iff, decide_eq_false_iff_not] at htriple
      have hnext := ih (show count + 1 ≤ 2 by omega) htext.2 htriple.2
      simpa [List.replicate_succ'] using hnext
    · simp only [hasTriple, hc, if_false] at htriple
      have hfresh := ih (Nat.zero_le 2) htext.2 htriple
      simp only [List.replicate_zero, List.nil_append] at hfresh
      have hreturn : c ≠ '\r' := by
        rintro rfl
        exact absurd htext.1 (by decide)
      have hplain : isText c = true ∨ c = '\n' := by simpa using htext.1
      obtain rfl | rfl | rfl : count = 0 ∨ count = 1 ∨ count = 2 := by omega
      · simp [literalBlockBody?, hc, hreturn, hplain, hfresh]
      · simp [literalBlockBody?, hc, hreturn, hplain, hfresh, hisText]
      · simp [List.replicate_succ, literalBlockBody?, hc, hreturn, hplain, hfresh, hisText]

/-! ### Any form -/

/-- The newline after the opening of a block is dropped, and no other. -/
theorem dropNewline_openingNewline (text body : List Char)
    (h : '\n' ∉ text → body.head? ≠ some '\n' ∧ body.head? ≠ some '\r') :
    dropNewline (openingNewline text ++ body) = body := by
  by_cases hnewline : '\n' ∈ text
  · simp [openingNewline, hnewline, dropNewline]
  · obtain ⟨hn, hr⟩ := h hnewline
    rcases body with _ | ⟨c, body⟩
    · simp [openingNewline, hnewline, dropNewline]
    · simp only [List.head?_cons, ne_eq, Option.some.injEq] at hn hr
      simp [openingNewline, hnewline, dropNewline, hn, hr]

/-- What is written for a text of one line does not start with a newline. -/
theorem head?_escapeBlock {text : List Char} (h : '\n' ∉ text) (tail : List Char) :
    (escapeBlock 0 text ++ '"' :: tail).head? ≠ some '\n' ∧
      (escapeBlock 0 text ++ '"' :: tail).head? ≠ some '\r' := by
  cases text with
  | nil => simp [escapeBlock]
  | cons c text =>
    by_cases hquote : c = '"'
    · simp [escapeBlock, hquote]
    have hnewline : c ≠ '\n' := fun hc => h (hc ▸ List.mem_cons_self)
    rcases escapeControl_cases c with ⟨letter, -, hc⟩ | ⟨high, low, -, hc⟩ | ⟨htext, -, hc⟩
    · simp [escapeBlock, hquote, hnewline, hc]
    · simp [escapeBlock, hquote, hnewline, hc]
    · have hreturn : c ≠ '\r' := by
        rintro rfl
        exact absurd htext (by decide)
      simp [escapeBlock, hquote, hnewline, hreturn, hc]

namespace Quoting

/-- The form that is chosen for a string has quotes, and a literal one holds the text. -/
theorem ofText_spec (text : List Char) :
    (ofText text = .basic ∨ ofText text = .basicBlock) ∨
      (ofText text = .literal ∧ fits .literal text = true) ∨
      (ofText text = .literalBlock ∧ fits .literalBlock text = true) := by
  simp only [ofText]
  split
  · simp
  split
  · simp_all
  split
  · simp
  split
  · simp_all
  split <;> simp

/-- The form that is chosen for a key stays on one line and, unless it is basic, holds the text. -/
theorem ofKey_spec (text : List Char) :
    ofKey text = .basic ∨ (ofKey text = .literal ∧ fits .literal text = true) ∨
      (ofKey text = .bare ∧ fits .bare text = true) := by
  simp only [ofKey]
  split
  · simp_all
  split
  · simp
  split <;> simp_all

end Quoting

/-- A basic string that is not empty does not start like a block. -/
theorem escapeBasic_cons (c : Char) (text : List Char) :
    ∃ d body, escapeBasic (c :: text) = d :: body ∧ d ≠ '"' := by
  by_cases hquote : c = '"'
  · exact ⟨'\\', '"' :: escapeBasic text, by simp [escapeBasic, hquote], by decide⟩
  by_cases hnewline : c = '\n'
  · exact ⟨'\\', 'n' :: escapeBasic text, by simp [escapeBasic, hnewline], by decide⟩
  rcases escapeControl_cases c with ⟨letter, -, hc⟩ | ⟨high, low, -, hc⟩ | ⟨-, -, hc⟩
  · simp [escapeBasic, hquote, hnewline, hc]
  · simp [escapeBasic, hquote, hnewline, hc]
  · simp [escapeBasic, hquote, hnewline, hc]

theorem quoted?_basic (text : List Char) {rest : List Char} (h : rest.head? ≠ some '"') :
    quoted? (Quoting.write .basic text ++ rest) = some (text, rest) := by
  have hread := basicBody?_escapeBasic text rest
  cases text with
  | nil => rcases rest with _ | ⟨d, rest⟩ <;> simp_all [Quoting.write, escapeBasic, quoted?]
  | cons c text =>
    obtain ⟨d, body, hbody, hd⟩ := escapeBasic_cons c text
    rw [hbody] at hread
    simpa [Quoting.write, quoted?, hbody, hd] using hread

theorem quoted?_literal {text : List Char} (htext : Quoting.fits .literal text = true)
    {rest : List Char} (h : rest.head? ≠ some '\'') :
    quoted? (Quoting.write .literal text ++ rest) = some (text, rest) := by
  have hread := literalBody?_append htext rest
  cases text with
  | nil => rcases rest with _ | ⟨d, rest⟩ <;> simp_all [Quoting.write, quoted?]
  | cons c text =>
    have hc : c ≠ '\'' := by
      rintro rfl
      simp [Quoting.fits] at htext
    simpa [Quoting.write, quoted?, hc] using hread

theorem quoted?_basicBlock (text : List Char) {rest : List Char} (h : rest.head? ≠ some '"') :
    quoted? (Quoting.write .basicBlock text ++ rest) = some (text, rest) := by
  have hdrop := dropNewline_openingNewline text
    (escapeBlock 0 text ++ '"' :: '"' :: '"' :: rest) fun hn => head?_escapeBlock hn _
  have hread := blockBody?_escapeBlock (Nat.zero_le 2) text h
  simpa [Quoting.write, quoted?, hdrop] using hread

theorem quoted?_literalBlock {text : List Char} (htext : Quoting.fits .literalBlock text = true)
    {rest : List Char} (h : rest.head? ≠ some '\'') :
    quoted? (Quoting.write .literalBlock text ++ rest) = some (text, rest) := by
  simp only [Quoting.fits, Bool.and_eq_true, Bool.not_eq_true'] at htext
  have hreturn : '\r' ∉ text := fun hmem =>
    absurd (List.all_eq_true.1 htext.1 _ hmem) (by decide)
  have hdrop := dropNewline_openingNewline text
    (text ++ '\'' :: '\'' :: '\'' :: rest) fun hnewline => by
      cases text with
      | nil => simp
      | cons c text =>
        simp only [List.mem_cons, not_or] at hnewline hreturn
        exact ⟨by simpa using Ne.symm hnewline.1, by simpa using Ne.symm hreturn.1⟩
  have hread := literalBlockBody?_append (Nat.zero_le 2) htext.1 htext.2 h
  simpa [Quoting.write, quoted?, hdrop] using hread

/-- A string is read as it was written, whatever its characters. -/
theorem quoted?_writeString (s : String) {rest : List Char} (hbasic : rest.head? ≠ some '"')
    (hliteral : rest.head? ≠ some '\'') :
    quoted? (writeString s ++ rest) = some (s.toList, rest) := by
  rw [writeString]
  rcases Quoting.ofText_spec s.toList with (hform | hform) | ⟨hform, hfits⟩ | ⟨hform, hfits⟩
  · exact hform ▸ quoted?_basic s.toList hbasic
  · exact hform ▸ quoted?_basicBlock s.toList hbasic
  · exact hform ▸ quoted?_literal hfits hliteral
  · exact hform ▸ quoted?_literalBlock hfits hliteral

/-- A run of characters is taken up to the first that is not of its kind. -/
theorem takeWhile_append {test : Char → Bool} {word rest : List Char} (hword : word.all test = true)
    (hrest : ∀ c ∈ rest.head?, test c = false) :
    (word ++ rest).takeWhile test = word ∧ (word ++ rest).dropWhile test = rest := by
  rw [List.all_eq_true] at hword
  rw [List.takeWhile_append_of_pos hword, List.dropWhile_append_of_pos hword]
  cases rest with
  | nil => simp
  | cons c rest => simp [hrest c rfl]

/-- A key is read as it was written, whatever its characters. -/
theorem key?_writeKey (s : String) {rest : List Char}
    (h : ∀ c ∈ rest.head?, isBareKey c = false) :
    key? (writeKey s ++ rest) = some (s.toList, rest) := by
  rw [writeKey]
  rcases Quoting.ofKey_spec s.toList with hform | ⟨hform, hfits⟩ | ⟨hform, hfits⟩
  · simpa [hform, Quoting.write, key?] using basicBody?_escapeBasic s.toList rest
  · simpa [hform, Quoting.write, key?] using literalBody?_append hfits rest
  · simp only [Quoting.fits, Bool.and_eq_true, Bool.not_eq_true',
      List.isEmpty_eq_false_iff] at hfits
    obtain ⟨hne, hbare⟩ := hfits
    obtain ⟨htake, hdrop⟩ := takeWhile_append hbare h
    obtain ⟨c, name, hname⟩ := List.exists_cons_of_ne_nil hne
    have hc : isBareKey c = true := List.all_eq_true.1 hbare c (by simp [hname])
    have hbasic : c ≠ '"' := by
      rintro rfl
      exact absurd hc (by decide)
    have hliteral : c ≠ '\'' := by
      rintro rfl
      exact absurd hc (by decide)
    rw [hname, List.cons_append] at htake hdrop
    rw [hform, Quoting.write, hname]
    simp [key?, hbasic, hliteral, htake, hdrop]

end HumidifierBridge.Toml
