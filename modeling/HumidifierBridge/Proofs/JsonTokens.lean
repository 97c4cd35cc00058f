import HumidifierBridge.Json.Reader

/-!
# How strings and numbers of a document are written

`Json.SpellsString` and `Json.SpellsNumber` relate what a string or a number is to the ways of
writing it. A string is a sequence of characters, so that an escape for one half of a surrogate pair
is none without the other. How a number is written leaves open what its value is, and whether it has
one that is not too great.

The readers of strings and of numbers are shown to read what is written and nothing else. A string
ends with its quote. A number ends where it cannot go on, and so a reader reads all of it only where
something else follows (`Json.StopsNumber`).
-/

namespace HumidifierBridge.Json

/-! ### Blanks -/

/-- Nothing but blanks. -/
def Blank (w : List Char) : Prop := ∀ c ∈ w, isSpace c = true

theorem blank_nil : Blank [] := fun _ h => nomatch h

theorem exists_blank_append_skipSpaces (text : List Char) :
    ∃ b, Blank b ∧ text = b ++ skipSpaces text :=
  ⟨text.takeWhile isSpace, List.all_eq_true.1 List.all_takeWhile,
    (List.takeWhile_append_dropWhile).symm⟩

theorem skipSpaces_append {b : List Char} (hb : Blank b) (rest : List Char) :
    skipSpaces (b ++ rest) = skipSpaces rest :=
  List.dropWhile_append_of_pos hb

theorem skipSpaces_cons {c : Char} (hc : isSpace c = false) (rest : List Char) :
    skipSpaces (c :: rest) = c :: rest := by
  simp [skipSpaces, hc]

/-! ### Strings -/

/-- The characters of a string are written so between its quotes. -/
inductive SpellsString : List Char → List Char → Prop where
  | nil : SpellsString [] []
  /-- A character as it is. -/
  | plain {c : Char} {cs w : List Char} (hcontrol : 0x20 ≤ c.toNat) (hquote : c ≠ '"')
      (hescape : c ≠ '\\') (h : SpellsString cs w) : SpellsString (c :: cs) (c :: w)
  /-- One of the one-letter escapes. -/
  | escape {c e : Char} {cs w : List Char} (he : escaped? c = some e) (h : SpellsString cs w) :
      SpellsString (e :: cs) ('\\' :: c :: w)
  /-- A character by its number. -/
  | code {a b c d : Char} {n : Nat} {cs w : List Char} (hn : hexQuad? a b c d = some n)
      (hplane : n < 0xD800 ∨ 0xDFFF < n) (h : SpellsString cs w) :
      SpellsString (Char.ofNat n :: cs) ('\\' :: 'u' :: a :: b :: c :: d :: w)
  /-- A character by the numbers of two halves, the high one first. -/
  | pair {a b c d a' b' c' d' : Char} {n m : Nat} {cs w : List Char}
      (hn : hexQuad? a b c d = some n) (hm : hexQuad? a' b' c' d' = some m)
      (hhigh : 0xD800 ≤ n ∧ n ≤ 0xDBFF) (hlow : 0xDC00 ≤ m ∧ m ≤ 0xDFFF)
      (h : SpellsString cs w) :
      SpellsString (Char.ofNat (0x10000 + (n - 0xD800) * 1024 + (m - 0xDC00)) :: cs)
        ('\\' :: 'u' :: a :: b :: c :: d :: '\\' :: 'u' :: a' :: b' :: c' :: d' :: w)

/-- A character that needs no escape. -/
def isBare (c : Char) : Bool := decide (0x20 ≤ c.toNat ∧ c ≠ '"' ∧ c ≠ '\\')

/-- Characters that need no escape may stand as they are. -/
theorem spellsString_self {cs : List Char} (h : cs.all isBare = true) : SpellsString cs cs := by
  induction cs with
  | nil => exact .nil
  | cons c cs ih =>
    rw [List.all_cons, Bool.and_eq_true] at h
    obtain ⟨hcontrol, hquote, hescape⟩ := of_decide_eq_true h.1
    exact .plain hcontrol hquote hescape (ih h.2)

/-- What is read as a string is written so. -/
theorem spellsString_of_stringBody? {text cs rest : List Char}
    (h : stringBody? text = some (cs, rest)) :
    ∃ w, text = w ++ '"' :: rest ∧ SpellsString cs w := by
  fun_induction stringBody? text generalizing cs rest with
  | case2 =>
    cases h
    exact ⟨[], rfl, .nil⟩
  | case4 a b c d text n hn hplane ih =>
    obtain ⟨⟨cs, rest⟩, hrest, h⟩ := Option.map_eq_some_iff.1 h
    cases h
    obtain ⟨w, rfl, hw⟩ := ih hrest
    exact ⟨_, rfl, .code hn hplane hw⟩
  | case7 a b c d n hn hplane hhigh a' b' c' d' text m hm hlow ih =>
    obtain ⟨⟨cs, rest⟩, hrest, h⟩ := Option.map_eq_some_iff.1 h
    cases h
    obtain ⟨w, rfl, hw⟩ := ih hrest
    exact ⟨_, rfl, .pair hn hm ⟨by omega, by omega⟩ hlow hw⟩
  | case11 c text hcode e he ih =>
    obtain ⟨⟨cs, rest⟩, hrest, h⟩ := Option.map_eq_some_iff.1 h
    cases h
    obtain ⟨w, rfl, hw⟩ := ih hrest
    exact ⟨_, rfl, .escape he hw⟩
  | case13 c text hquote hcode hescape hplain ih =>
    obtain ⟨⟨cs, rest⟩, hrest, h⟩ := Option.map_eq_some_iff.1 h
    cases h
    obtain ⟨w, rfl, hw⟩ := ih hrest
    rw [not_or, Nat.not_lt] at hplain
    exact ⟨_, rfl, .plain hplain.1 hquote hplain.2 hw⟩
  | _ => cases h

/-- No one-letter escape looks like the number of a character. -/
theorem ne_u_of_escaped? {c e : Char} (h : escaped? c = some e) : c ≠ 'u' := by
  rintro rfl
  cases h

/-- What is written as a string is read so. -/
theorem stringBody?_append {cs w : List Char} (h : SpellsString cs w) (rest : List Char) :
    stringBody? (w ++ '"' :: rest) = some (cs, rest) := by
  induction h with
  | nil => simp [stringBody?]
  | plain hcontrol hquote hescape _ ih =>
    simp [stringBody?, hescape, Nat.not_lt.2 hcontrol, ih]
  | escape he _ ih => simp [stringBody?, ne_u_of_escaped? he, he, ih]
  | code hn hplane _ ih => simp [stringBody?, hn, hplane, ih]
  | @pair _ _ _ _ _ _ _ _ n _ _ _ hn hm hhigh hlow _ ih =>
    have hplane : ¬ (n < 0xD800 ∨ 0xDFFF < n) := by omega
    simp [stringBody?, hn, hm, hplane, Nat.not_lt.2 hhigh.2, hlow, ih]

/-! ### Numbers -/

/-- The digits are written so. -/
def SpellsDigits (ds : List Nat) (w : List Char) : Prop := w.map Decimal.digit? = ds.map some

/-- The fraction is written so, with its point. -/
inductive SpellsFraction : Option (List Nat) → List Char → Prop where
  | none : SpellsFraction none []
  | some {ds : List Nat} {w : List Char} (hds : ds ≠ []) (h : SpellsDigits ds w) :
      SpellsFraction (some ds) ('.' :: w)

/-- The exponent is written so, with its letter and its sign. -/
inductive SpellsExponent : Option (Bool × List Nat) → List Char → Prop where
  | none : SpellsExponent none []
  | unsigned {e : Char} {ds : List Nat} {w : List Char} (he : e = 'e' ∨ e = 'E') (hds : ds ≠ [])
      (h : SpellsDigits ds w) : SpellsExponent (some (false, ds)) (e :: w)
  | plus {e : Char} {ds : List Nat} {w : List Char} (he : e = 'e' ∨ e = 'E') (hds : ds ≠ [])
      (h : SpellsDigits ds w) : SpellsExponent (some (false, ds)) (e :: '+' :: w)
  | minus {e : Char} {ds : List Nat} {w : List Char} (he : e = 'e' ∨ e = 'E') (hds : ds ≠ [])
      (h : SpellsDigits ds w) : SpellsExponent (some (true, ds)) (e :: '-' :: w)

/-- The number is written so. A zero at the start stands alone before the point. -/
structure SpellsNumber (l : Literal) (w : List Char) : Prop where
  whole_ne_nil : l.whole ≠ []
  zero_alone : ∀ ds, l.whole = 0 :: ds → ds = []
  spelled : ∃ whole fraction exponent, SpellsDigits l.whole whole ∧
    SpellsFraction l.fraction fraction ∧ SpellsExponent l.exponent exponent ∧
      w = (if l.negative then ['-'] else []) ++ whole ++ fraction ++ exponent

namespace Literal

/-- A digit does not follow. -/
def StopsDigits (rest : List Char) : Prop := ∀ c ∈ rest.head?, Decimal.digit? c = none

/-- Nothing follows that a number could go on with. -/
def StopsNumber (rest : List Char) : Prop :=
  ∀ c ∈ rest.head?, Decimal.digit? c = none ∧ c ≠ '.' ∧ c ≠ 'e' ∧ c ≠ 'E'

theorem StopsNumber.stopsDigits {rest : List Char} (h : StopsNumber rest) : StopsDigits rest :=
  fun c hc => (h c hc).1

theorem spellsDigits_digits (text : List Char) :
    ∃ w, text = w ++ (digits text).2 ∧ SpellsDigits (digits text).1 w := by
  induction text with
  | nil => exact ⟨[], rfl, rfl⟩
  | cons c text ih =>
    cases hc : Decimal.digit? c with
    | none => exact ⟨[], by simp [digits, hc], by simp [digits, hc, SpellsDigits]⟩
    | some d =>
      obtain ⟨w, htext, hw⟩ := ih
      refine ⟨c :: w, ?_, ?_⟩
      · simpa [digits, hc] using htext
      · simpa [digits, hc, SpellsDigits] using hw

theorem digits_append {ds : List Nat} {w rest : List Char} (h : SpellsDigits ds w)
    (hrest : StopsDigits rest) : digits (w ++ rest) = (ds, rest) := by
  induction w generalizing ds with
  | nil =>
    obtain rfl : ds = [] := by simpa [SpellsDigits] using h.symm
    cases rest with
    | nil => rfl
    | cons c rest =>
      have hc : Decimal.digit? c = none := hrest c rfl
      simp [digits, hc]
  | cons c w ih =>
    cases ds with
    | nil => simp [SpellsDigits] at h
    | cons d ds =>
      obtain ⟨hc, hw⟩ : Decimal.digit? c = some d ∧ w.map Decimal.digit? = ds.map some := by
        simpa [SpellsDigits] using h
      simp [digits, hc, ih hw]

theorem spellsFraction_of_scanFraction? {text rest : List Char} {fraction : Option (List Nat)}
    (h : scanFraction? text = some (fraction, rest)) :
    ∃ w, text = w ++ rest ∧ SpellsFraction fraction w := by
  simp only [scanFraction?] at h
  split at h
  · rename_i text
    obtain ⟨w, htext, hw⟩ := spellsDigits_digits text
    split at h
    · cases h
    · rename_i ds rest' hne hdigits
      cases h
      rw [hdigits] at htext hw
      exact ⟨'.' :: w, congrArg ('.' :: ·) htext, .some hne hw⟩
  · cases h
    exact ⟨[], rfl, .none⟩

theorem scanFraction?_append {fraction : Option (List Nat)} {w rest : List Char}
    (h : SpellsFraction fraction w) (hrest : StopsDigits rest) (hpoint : '.' ∉ rest.head?) :
    scanFraction? (w ++ rest) = some (fraction, rest) := by
  cases h with
  | none =>
    cases rest with
    | nil => rfl
    | cons c rest =>
      have hc : c ≠ '.' := fun h => hpoint (by simp [h])
      simp [scanFraction?, hc]
  | some hds h =>
    rename_i ds w
    obtain ⟨d, ds, rfl⟩ := List.exists_cons_of_ne_nil hds
    simp [scanFraction?, digits_append h hrest]

theorem spellsExponent_of_scanExponent? {text rest : List Char}
    {exponent : Option (Bool × List Nat)} (h : scanExponent? text = some (exponent, rest)) :
    ∃ w, text = w ++ rest ∧ SpellsExponent exponent w := by
  cases text with
  | nil =>
    cases h
    exact ⟨[], rfl, .none⟩
  | cons e text =>
    simp only [scanExponent?] at h
    split at h
    · rename_i he
      obtain ⟨w, htext, hw⟩ := spellsDigits_digits (scanSign text).2
      split at h
      · cases h
      · rename_i ds rest' hne hdigits
        cases h
        rw [hdigits] at htext hw
        simp only at htext hw
        unfold scanSign at htext ⊢
        split at htext
        · exact ⟨e :: '-' :: w, congrArg (e :: '-' :: ·) htext, .minus he hne hw⟩
        · exact ⟨e :: '+' :: w, congrArg (e :: '+' :: ·) htext, .plus he hne hw⟩
        · exact ⟨e :: w, congrArg (e :: ·) htext, .unsigned he hne hw⟩
    · cases h
      exact ⟨[], rfl, .none⟩

theorem scanExponent?_append {exponent : Option (Bool × List Nat)} {w rest : List Char}
    (h : SpellsExponent exponent w) (hrest : StopsNumber rest) :
    scanExponent? (w ++ rest) = some (exponent, rest) := by
  have hdigits : ∀ {ds : List Nat} {w : List Char}, SpellsDigits ds w →
      digits (w ++ rest) = (ds, rest) := fun h => digits_append h hrest.stopsDigits
  cases h with
  | none =>
    cases rest with
    | nil => rfl
    | cons c rest =>
      obtain ⟨-, -, he, hE⟩ := hrest c rfl
      simp [scanExponent?, he, hE]
  | @unsigned e ds w he hds h =>
    obtain ⟨d, ds, rfl⟩ := List.exists_cons_of_ne_nil hds
    -- What starts with a digit starts with no sign.
    have hsign : scanSign (w ++ rest) = (false, w ++ rest) := by
      cases w with
      | nil => simp [SpellsDigits] at h
      | cons c w =>
        have hc : Decimal.digit? c = some d := (List.cons.inj h).1
        have hminus : c ≠ '-' := by rintro rfl; cases hc
        have hplus : c ≠ '+' := by rintro rfl; cases hc
        simp [scanSign, hminus, hplus]
    simp [scanExponent?, he, hsign, hdigits h]
  | @plus e ds w he hds h =>
    obtain ⟨d, ds, rfl⟩ := List.exists_cons_of_ne_nil hds
    simp [scanExponent?, he, scanSign, hdigits h]
  | @minus e ds w he hds h =>
    obtain ⟨d, ds, rfl⟩ := List.exists_cons_of_ne_nil hds
    simp [scanExponent?, he, scanSign, hdigits h]

/-- The digits before the point. -/
def scanWhole? (text : List Char) : Option (List Nat × List Char) :=
  match digits text with
  | ([], _) => none
  | (0 :: _ :: _, _) => none
  | read => some read

/-- A number after its sign. -/
def scanUnsigned? (negative : Bool) (text : List Char) : Option (Literal × List Char) :=
  (scanWhole? text).bind fun whole => (scanFraction? whole.2).bind fun fraction =>
    (scanExponent? fraction.2).map fun exponent =>
      (⟨negative, whole.1, fraction.1, exponent.1⟩, exponent.2)

theorem scanWhole?_eq_some_iff {text rest : List Char} {ds : List Nat} :
    scanWhole? text = some (ds, rest) ↔
      digits text = (ds, rest) ∧ ds ≠ [] ∧ ∀ ds', ds = 0 :: ds' → ds' = [] := by
  rcases hdigits : digits text with ⟨_ | ⟨_ | d, _ | ⟨d', ds'⟩⟩, rest'⟩ <;>
    simp only [scanWhole?, hdigits, Prod.mk.injEq, Option.some.injEq, reduceCtorEq, false_iff]
  all_goals grind

theorem scan?_minus (text : List Char) : scan? ('-' :: text) = scanUnsigned? true text := by
  rcases hdigits : digits text with ⟨_ | ⟨_ | d, _ | ⟨d', ds⟩⟩, rest⟩ <;>
    simp only [scan?, scanUnsigned?, scanWhole?, hdigits, Option.map_eq_bind] <;> rfl

theorem scan?_of_ne_minus {text : List Char} (h : '-' ∉ text.head?) :
    scan? text = scanUnsigned? false text := by
  have hsign : ∀ rest, text ≠ '-' :: rest := by
    rintro rest rfl
    exact h rfl
  rcases hdigits : digits text with ⟨_ | ⟨_ | d, _ | ⟨d', ds⟩⟩, rest⟩ <;>
    simp only [scan?, scanUnsigned?, scanWhole?, hdigits, Option.map_eq_bind] <;> rfl

theorem exists_head_of_spellsDigits {ds : List Nat} {w : List Char} (h : SpellsDigits ds w)
    (hds : ds ≠ []) : ∃ c d rest, w = c :: rest ∧ Decimal.digit? c = some d := by
  obtain ⟨d, ds, rfl⟩ := List.exists_cons_of_ne_nil hds
  cases w with
  | nil => simp [SpellsDigits] at h
  | cons c w => exact ⟨c, d, w, rfl, (List.cons.inj h).1⟩

theorem spells_of_scanUnsigned? {negative : Bool} {text rest : List Char} {l : Literal}
    (h : scanUnsigned? negative text = some (l, rest)) :
    ∃ w, text = w ++ rest ∧ SpellsNumber l ((if negative then ['-'] else []) ++ w) := by
  simp only [scanUnsigned?, Option.bind_eq_some_iff, Option.map_eq_some_iff, Prod.exists] at h
  obtain ⟨ds, rest₁, hwhole, fraction, rest₂, hfraction, exponent, rest₃, hexponent, h⟩ := h
  cases h
  obtain ⟨hdigits, hne, hzero⟩ := scanWhole?_eq_some_iff.1 hwhole
  obtain ⟨whole, htext, hwhole⟩ := spellsDigits_digits text
  rw [hdigits] at htext hwhole
  obtain ⟨v, rfl, hv⟩ := spellsFraction_of_scanFraction? hfraction
  obtain ⟨w, rfl, hw⟩ := spellsExponent_of_scanExponent? hexponent
  refine ⟨whole ++ v ++ w, by simpa using htext, hne, hzero, whole, v, w, hwhole, hv, hw, ?_⟩
  simp

/-- What is read as a number is written so. -/
theorem spellsNumber_of_scan? {text rest : List Char} {l : Literal}
    (h : scan? text = some (l, rest)) : ∃ w, text = w ++ rest ∧ SpellsNumber l w := by
  by_cases hminus : '-' ∈ text.head?
  · obtain ⟨text, rfl⟩ := List.head?_eq_some_iff.1 hminus
    rw [scan?_minus] at h
    obtain ⟨w, rfl, hw⟩ := spells_of_scanUnsigned? h
    exact ⟨'-' :: w, rfl, hw⟩
  · rw [scan?_of_ne_minus hminus] at h
    exact spells_of_scanUnsigned? h

/-- Neither a digit nor a point is at the start of an exponent, or of what follows a number. -/
theorem stops_exponent {exponent : Option (Bool × List Nat)} {w rest : List Char}
    (h : SpellsExponent exponent w) (hrest : StopsNumber rest) :
    StopsDigits (w ++ rest) ∧ '.' ∉ (w ++ rest).head? := by
  have hletter : ∀ {e : Char} {more : List Char}, e = 'e' ∨ e = 'E' →
      StopsDigits (e :: more) ∧ '.' ∉ (e :: more).head? := by
    intro e more he
    rcases he with rfl | rfl <;>
      exact ⟨fun c hc => by cases hc; decide, fun hc => by cases hc⟩
  cases h with
  | none => exact ⟨hrest.stopsDigits, fun hpoint => (hrest '.' hpoint).2.1 rfl⟩
  | unsigned he _ _ => exact hletter he
  | plus he _ _ => exact hletter he
  | minus he _ _ => exact hletter he

theorem stopsDigits_fraction {fraction : Option (List Nat)} {w rest : List Char}
    (h : SpellsFraction fraction w) (hrest : StopsDigits rest) : StopsDigits (w ++ rest) := by
  cases h with
  | none => exact hrest
  | some hds h =>
    intro c hc
    cases hc
    decide

theorem scanUnsigned?_append {l : Literal} {w rest : List Char}
    (h : SpellsNumber l ((if l.negative then ['-'] else []) ++ w)) (hrest : StopsNumber rest) :
    scanUnsigned? l.negative (w ++ rest) = some (l, rest) := by
  obtain ⟨hne, hzero, whole, fraction, exponent, hwhole, hfraction, hexponent, hw⟩ := h
  obtain rfl : w = whole ++ fraction ++ exponent := by simpa using hw
  obtain ⟨hstops, hpoint⟩ := stops_exponent hexponent hrest
  have hdigits : digits (whole ++ (fraction ++ (exponent ++ rest))) =
      (l.whole, fraction ++ (exponent ++ rest)) :=
    digits_append hwhole (stopsDigits_fraction hfraction hstops)
  have hscan := scanWhole?_eq_some_iff.2 ⟨hdigits, hne, hzero⟩
  simp only [List.append_assoc, scanUnsigned?, hscan, Option.bind_some,
    scanFraction?_append hfraction hstops hpoint, scanExponent?_append hexponent hrest,
    Option.map_some]

/-- A number starts with its sign or with a digit. -/
theorem exists_head_of_spellsNumber {l : Literal} {w : List Char} (h : SpellsNumber l w) :
    ∃ c rest, w = c :: rest ∧
      if l.negative then c = '-' else (Decimal.digit? c).isSome = true := by
  obtain ⟨hne, -, whole, fraction, exponent, hwhole, -, -, rfl⟩ := h
  obtain ⟨c, d, rest, rfl, hc⟩ := exists_head_of_spellsDigits hwhole hne
  cases l.negative with
  | true => exact ⟨'-', _, rfl, rfl⟩
  | false => exact ⟨c, _, rfl, by simp [hc]⟩

/-- What is written as a number is read so, where it ends. -/
theorem scan?_append {l : Literal} {w rest : List Char} (h : SpellsNumber l w)
    (hrest : StopsNumber rest) : scan? (w ++ rest) = some (l, rest) := by
  obtain ⟨c, w, rfl, hc⟩ := exists_head_of_spellsNumber h
  cases hnegative : l.negative with
  | true =>
    rw [hnegative] at hc
    obtain rfl : c = '-' := hc
    rw [List.cons_append, scan?_minus, ← hnegative]
    exact scanUnsigned?_append (by rwa [hnegative]) hrest
  | false =>
    rw [hnegative] at hc
    have hminus : '-' ∉ (c :: w ++ rest).head? := by
      rintro ⟨⟩
      revert hc
      decide
    rw [scan?_of_ne_minus hminus, ← hnegative]
    exact scanUnsigned?_append (by rwa [hnegative]) hrest

end Literal

end HumidifierBridge.Json
