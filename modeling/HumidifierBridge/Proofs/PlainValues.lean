import HumidifierBridge.Proofs.QuotedTexts
import HumidifierBridge.Toml.Reader
import HumidifierBridge.Toml.Writer

/-!
# Plain values are read as they were written

The decimal text of an integer has digits only, apart from a sign. It is therefore no date, no
number of another base and no float, and what is left of the reader of integers gives the number
back. With strings and booleans, which start differently, `value?` reads every plain value that a
document holds up to the end of its line.
-/

namespace HumidifierBridge

namespace Decimal

theorem digit?_digitChar {d : Nat} (h : d < 10) : digit? d.digitChar = some d := by
  have hall : ∀ d < 10, digit? (Nat.digitChar d) = some d := by decide
  exact hall d h

/-- The digits of a number have values that make the number. -/
theorem mapM_digit?_toDigits (n : Nat) :
    ∃ values, (Nat.toDigits 10 n).mapM digit? = some values ∧ ofDigits 10 values = n := by
  induction n using Nat.strongRecOn with
  | ind n ih =>
    by_cases h : n < 10
    · exact ⟨[n], by simp [Nat.toDigits_of_lt_base h, digit?_digitChar h], by simp [ofDigits]⟩
    · obtain ⟨values, hvalues, hnumber⟩ := ih (n / 10) (by omega)
      refine ⟨values ++ [n % 10], ?_, ?_⟩
      · rw [Nat.toDigits_of_base_le (by decide) (Nat.not_lt.1 h)]
        simp [hvalues, digit?_digitChar (Nat.mod_lt n (by decide : 0 < 10))]
      · simp only [ofDigits, List.foldl_append, List.foldl_cons, List.foldl_nil] at hnumber ⊢
        omega

/-- The decimal text of a number is read as that number. -/
@[simp] theorem natural?_toDigits (n : Nat) : natural? (Nat.toDigits 10 n) = some n := by
  obtain ⟨values, hvalues, hnumber⟩ := mapM_digit?_toDigits n
  obtain ⟨c, rest, hdigits⟩ := List.exists_cons_of_ne_nil (Nat.toDigits_ne_nil (n := n) (b := 10))
  rw [hdigits] at hvalues ⊢
  simp [natural?, hvalues, hnumber]

/-- The decimal text of a number has digits only. -/
theorem isDigit_of_mem_toDigits {n : Nat} {c : Char} (h : c ∈ Nat.toDigits 10 n) :
    '0' ≤ c ∧ c ≤ '9' := by
  have hdigit := Nat.isDigit_of_mem_toDigits (by decide) (by decide) h
  simpa [Char.isDigit, Char.le_def] using hdigit

end Decimal

namespace Toml

/-- A number of several digits does not start with zero. -/
theorem hasNoLeadingZero_toDigits (n : Nat) : hasNoLeadingZero (Nat.toDigits 10 n) = true := by
  by_cases hzero : n = 0
  · simp [hzero, hasNoLeadingZero]
  have hhead : (Nat.toDigits 10 n).head? ≠ some '0' := by
    induction n using Nat.strongRecOn with
    | ind n ih =>
      by_cases h : n < 10
      · simpa [Nat.toDigits_of_lt_base h] using hzero
      · have hfirst := ih (n / 10) (by omega) (by omega)
        obtain ⟨c, rest, hdigits⟩ :=
          List.exists_cons_of_ne_nil (Nat.toDigits_ne_nil (n := n / 10) (b := 10))
        rw [Nat.toDigits_of_base_le (by decide) (Nat.not_lt.1 h), hdigits]
        simpa [hdigits] using hfirst
  simp [hasNoLeadingZero, hhead]

theorem isGrouped_of_notMem {isDigit : Char → Bool} {text : List Char} (h : '_' ∉ text)
    (afterDigit : Bool) : isGrouped isDigit afterDigit text = true := by
  induction text generalizing afterDigit with
  | nil => rfl
  | cons c text ih =>
    simp only [List.mem_cons, not_or] at h
    simp [isGrouped, Ne.symm h.1, ih h.2]

theorem ungrouped_of_notMem {text : List Char} (h : '_' ∉ text) : ungrouped text = text := by
  refine List.filter_eq_self.2 fun c hc => ?_
  simpa using fun heq : c = '_' => h (heq ▸ hc)

/-- The characters of a number are those of its digits. -/
theorem notMem_toDigits (n : Nat) {c : Char} (h : ¬ ('0' ≤ c ∧ c ≤ '9')) :
    c ∉ Nat.toDigits 10 n := fun hmem => h (Decimal.isDigit_of_mem_toDigits hmem)

/-- The digits of a number, behind a sign or not, are an integer. -/
theorem decimal?_toDigits {text : List Char} {minus : Bool} {n : Nat}
    (h : takeSign text = (minus, Nat.toDigits 10 n)) :
    decimal? text = some (ofInteger (if minus then -(n : Int) else n)) := by
  have hunderscore : '_' ∉ Nat.toDigits 10 n := notMem_toDigits n (by decide)
  have hgroups : (Nat.toDigits 10 n ++ []).dropWhile Decimal.isDigit = [] := by
    refine List.dropWhile_append_of_pos fun c hc => ?_
    simp [Decimal.isDigit, Decimal.digit?, Decimal.isDigit_of_mem_toDigits hc]
  rw [List.append_nil] at hgroups
  simp [decimal?, h, hgroups, hasNoLeadingZero_toDigits, isGrouped_of_notMem hunderscore,
    ungrouped_of_notMem hunderscore]

theorem mem_of_twoDigits? {text rest : List Char} {n : Nat}
    (h : twoDigits? text = some (n, rest)) {c : Char} (hc : c ∈ rest) : c ∈ text := by
  rcases text with _ | ⟨a, _ | ⟨b, text⟩⟩
  · cases h
  · cases h
  · simp only [twoDigits?, Option.pure_def, Option.bind_eq_bind, Option.bind_eq_some_iff] at h
    obtain ⟨_, -, _, -, h⟩ := h
    cases h
    simp [hc]

/-- A date has dashes. -/
theorem takeDate?_of_notMem {text : List Char} (h : '-' ∉ text) : takeDate? text = none := by
  rw [Option.eq_none_iff_forall_not_mem]
  intro rest hrest
  simp only [takeDate?, Option.bind_eq_bind, Option.mem_def, Option.bind_eq_some_iff] at hrest
  obtain ⟨⟨century, afterCentury⟩, hcentury, ⟨year, afterYear⟩, hyear, hmonth⟩ := hrest
  simp only at hyear hmonth
  split at hmonth
  · exact h (mem_of_twoDigits? hcentury (mem_of_twoDigits? hyear List.mem_cons_self))
  · cases hmonth

/-- A time has a colon. -/
theorem takeTime?_of_notMem {text : List Char} (h : ':' ∉ text) : takeTime? text = none := by
  rw [Option.eq_none_iff_forall_not_mem]
  intro rest hrest
  simp only [takeTime?, Option.bind_eq_bind, Option.mem_def, Option.bind_eq_some_iff] at hrest
  obtain ⟨⟨hour, afterHour⟩, hhour, hminute⟩ := hrest
  simp only at hminute
  split at hminute
  · cases hminute
  · split at hminute
    · exact h (mem_of_twoDigits? hhour List.mem_cons_self)
    · cases hminute

/-- The characters of an integer are digits and a dash. -/
theorem notMem_writeInteger (n : Int) {c : Char} (hdash : c ≠ '-')
    (hdigit : ¬ ('0' ≤ c ∧ c ≤ '9')) : c ∉ writeInteger n := by
  simp only [writeInteger]
  split
  · simp [hdash, notMem_toDigits n.natAbs hdigit]
  · exact notMem_toDigits n.natAbs hdigit

/-- The decimal text of an integer is no date and no time. -/
theorem isDateTime_writeInteger (n : Int) : isDateTime (writeInteger n) = false := by
  have hdate : takeDate? (writeInteger n) = none := by
    simp only [writeInteger]
    split
    · obtain ⟨c, rest, hdigits⟩ :=
        List.exists_cons_of_ne_nil (Nat.toDigits_ne_nil (n := n.natAbs) (b := 10))
      simp [hdigits, takeDate?, twoDigits?, Decimal.digit?]
    · exact takeDate?_of_notMem (notMem_toDigits n.natAbs (by decide))
  have htime : takeTime? (writeInteger n) = none :=
    takeTime?_of_notMem (notMem_writeInteger n (by decide) (by decide))
  simp [isDateTime, hdate, htime]

theorem takeSign_writeInteger (n : Int) :
    takeSign (writeInteger n) = (decide (n < 0), Nat.toDigits 10 n.natAbs) := by
  by_cases hn : n < 0
  · simp [writeInteger, hn, takeSign]
  · have hdash : '-' ∉ Nat.toDigits 10 n.natAbs := notMem_toDigits n.natAbs (by decide)
    have hplus : '+' ∉ Nat.toDigits 10 n.natAbs := notMem_toDigits n.natAbs (by decide)
    simp only [writeInteger, hn, if_false, decide_false, takeSign.eq_def]
    split <;> simp_all

/-- The decimal text of an integer is read as that integer. -/
theorem ofUnquoted?_writeInteger (n : Int) :
    ofUnquoted? (writeInteger n) = some (ofInteger n) := by
  have hletter : ∀ c ∈ ['t', 'f', 'x', 'o', 'b'], c ∉ writeInteger n := by
    intro c hc
    simp only [List.mem_cons, List.not_mem_nil, or_false] at hc
    rcases hc with rfl | rfl | rfl | rfl | rfl <;>
      exact notMem_writeInteger n (by decide) (by decide)
  have hsign : (if decide (n < 0) = true then -(n.natAbs : Int) else n.natAbs) = n := by
    by_cases hn : n < 0
    · simp only [hn, decide_true, if_true]
      omega
    · simp only [hn, decide_false, Bool.false_eq_true, if_false]
      omega
  have hdecimal := decimal?_toDigits (takeSign_writeInteger n)
  rw [hsign] at hdecimal
  have htrue : writeInteger n ≠ ['t', 'r', 'u', 'e'] := fun h => hletter 't' (by simp) (by simp [h])
  have hfalse : writeInteger n ≠ ['f', 'a', 'l', 's', 'e'] :=
    fun h => hletter 'f' (by simp) (by simp [h])
  simp only [ofUnquoted?, htrue, hfalse, isDateTime_writeInteger, if_false, Bool.false_eq_true]
  split
  · rename_i h
    exact absurd (by simp [h]) (hletter 'x' (by simp))
  · rename_i h
    exact absurd (by simp [h]) (hletter 'o' (by simp))
  · rename_i h
    exact absurd (by simp [h]) (hletter 'b' (by simp))
  · simp [hdecimal]

/-- A value without quotes ends where its line does. -/
theorem value?_unquoted {word : List Char} (hne : word ≠ []) (hword : word.all isUnquoted = true)
    (hbasic : '"' ∉ word) (hliteral : '\'' ∉ word) (nesting : Nat) (rest : List Char) :
    value? nesting (word ++ '\n' :: rest) = (ofUnquoted? word).map (·, '\n' :: rest) := by
  have hnewline : ∀ c ∈ ('\n' :: rest).head?, isUnquoted c = false := by simp [isUnquoted]
  obtain ⟨htake, hdrop⟩ := takeWhile_append hword hnewline
  obtain ⟨c, word, rfl⟩ := List.exists_cons_of_ne_nil hne
  have hc : isUnquoted c = true := List.all_eq_true.1 hword c List.mem_cons_self
  have hbracket : c ≠ '[' := by
    rintro rfl
    exact absurd hc (by decide)
  have hbrace : c ≠ '\x7b' := by
    rintro rfl
    exact absurd hc (by decide)
  simp only [List.mem_cons, not_or] at hbasic hliteral
  have hplain : plain? (c :: (word ++ '\n' :: rest)) =
      (ofUnquoted? (c :: word)).map (·, '\n' :: rest) := by
    rw [List.cons_append] at htake hdrop
    simp [plain?, Ne.symm hbasic.1, Ne.symm hliteral.1, unquoted?, htake, hdrop]
  cases nesting with
  | zero => exact hplain
  | succ nesting => simpa [value?, hbracket, hbrace] using hplain

theorem all_isUnquoted_writeInteger (n : Int) : (writeInteger n).all isUnquoted = true := by
  refine List.all_eq_true.2 fun c hc => ?_
  refine Classical.byContradiction fun hmark => ?_
  simp only [isUnquoted, isSpace, Bool.not_eq_true, Bool.not_eq_false', Bool.or_eq_true,
    decide_eq_true_eq, List.contains_iff_mem, List.mem_cons, List.not_mem_nil, or_false] at hmark
  rcases hmark with (rfl | rfl) | rfl | rfl | rfl | rfl | rfl | rfl | rfl | rfl | rfl <;>
    exact absurd hc (notMem_writeInteger n (by decide) (by decide))

theorem writeInteger_ne_nil (n : Int) : writeInteger n ≠ [] := by
  simp only [writeInteger]
  split
  · simp
  · exact Nat.toDigits_ne_nil

/-- Can the value be read again? Integers of more than 128 bits cannot. -/
def Plain.IsWritable : Plain → Prop
  | .integer n => integerFits n = true
  | _ => True

/-- A string starts with a quote of either kind. -/
theorem writeString_eq_cons (s : String) :
    ∃ c body, writeString s = c :: body ∧ (c = '"' ∨ c = '\'') := by
  rw [writeString]
  rcases Quoting.ofText_spec s.toList with (hform | hform) | ⟨hform, -⟩ | ⟨hform, -⟩ <;>
    simp [hform, Quoting.write]

theorem value?_writeString (s : String) (nesting : Nat) (rest : List Char) :
    value? nesting (writeString s ++ '\n' :: rest) = some (.string s, '\n' :: rest) := by
  have hread : quoted? (writeString s ++ '\n' :: rest) = some (s.toList, '\n' :: rest) :=
    quoted?_writeString s (by simp) (by simp)
  obtain ⟨c, body, hbody, hc⟩ := writeString_eq_cons s
  have hplain : plain? (writeString s ++ '\n' :: rest) = some (.string s, '\n' :: rest) := by
    rw [hbody, List.cons_append] at hread ⊢
    rcases hc with rfl | rfl <;> simp [plain?, hread]
  cases nesting with
  | zero => exact hplain
  | succ nesting => rcases hc with rfl | rfl <;> simpa [value?, hbody] using hplain

/-- Every plain value is read as it was written, up to the end of its line. -/
theorem value?_write {v : Plain} (h : v.IsWritable) (nesting : Nat) (rest : List Char) :
    value? nesting (v.write ++ '\n' :: rest) = some (v.toToml, '\n' :: rest) := by
  cases v with
  | string s => exact value?_writeString s nesting rest
  | integer n =>
    have hvalue : ofInteger n = .integer n := by simp [ofInteger, show integerFits n = true from h]
    rw [Plain.write, value?_unquoted (writeInteger_ne_nil n) (all_isUnquoted_writeInteger n)
      (notMem_writeInteger n (by decide) (by decide))
      (notMem_writeInteger n (by decide) (by decide)), ofUnquoted?_writeInteger, hvalue]
    rfl
  | boolean b =>
    have hread : value? nesting ((Plain.boolean b).write ++ '\n' :: rest) =
        (ofUnquoted? (Plain.boolean b).write).map (·, '\n' :: rest) := by
      refine value?_unquoted ?_ ?_ ?_ ?_ nesting rest <;> cases b <;> decide
    rw [hread]
    cases b <;> rfl

end Toml

end HumidifierBridge
