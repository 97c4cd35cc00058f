import HumidifierBridge.Proofs.JsonDocuments

/-!
# Values that are refused

A text is read from its start to its end, and what stands before a value is settled before the
value is looked at. `Json.Awaits` lists the beginnings of texts after which a value comes next. If
no value can be read there, the text is refused, whatever else stands in it
(`Json.Awaits.parse?_eq_none`).

So a number without a value is refused wherever it stands (`Json.Awaits.parse?_number`). That it
ends before what follows has to be said, since more digits would make another number of it.
-/

namespace HumidifierBridge.Json

/-! ### Before a value -/

section Lists

variable {α β : Type}

/-- Items are written so, with a comma after each. -/
inductive SpellsBefore (item : α → List Char → Prop) : List Char → Prop where
  | nil : SpellsBefore item []
  | cons {a : α} {w b v : List Char} (h : item a w) (hb : Blank b) (hrest : SpellsBefore item v) :
      SpellsBefore item (w ++ (b ++ ',' :: v))

/-- No item starts there, and neither does the end of a list. -/
structure Refuses (item : ItemReader β) (text : List Char) : Prop where
  item_eq_none : item text = none
  not_isClosing : ∀ c ∈ (skipSpaces text).head?, ¬IsClosing c

variable {item : ItemReader β} {f : α → β} {spells : α → List Char → Prop}
  {closing : Char} {w text : List Char}

/-- Items are read up to the one that is refused, and then none of them are. -/
theorem separated?_eq_none (h : Reads item f spells) (hw : SpellsBefore spells w)
    (hnone : item text = none) (n : Nat) : separated? item closing n (w ++ text) = none := by
  induction hw generalizing n with
  | nil => cases n <;> simp [separated?, hnone]
  | @cons a w b v ha hb _ ih =>
    cases n with
    | zero => rfl
    | succ n =>
      have hitem := h.complete ha ((stopsValue_comma (v ++ text)).blank hb)
      have hcomma : isSpace ',' = false := rfl
      simp [separated?, hitem, skipSpaces_append hb, skipSpaces_cons hcomma, ih n]

/-- After items with their commas the list does not end. -/
theorem not_isClosing_before (hstarts : Starts spells) (hw : SpellsBefore (Padded spells) w)
    (htext : ∀ c ∈ (skipSpaces text).head?, ¬IsClosing c) :
    ∀ c ∈ (skipSpaces (w ++ text)).head?, ¬IsClosing c := by
  cases hw with
  | nil => exact htext
  | cons h _ _ =>
    obtain ⟨b, _, hb, hv, rfl⟩ := h
    obtain ⟨c, v, rfl, hspace, hopen⟩ := hstarts hv
    simp [skipSpaces_append hb, skipSpaces_cons hspace, hopen]

theorem items?_eq_none (h : Reads item f (Padded spells)) (hstarts : Starts spells)
    (hclosing : IsClosing closing) (hw : SpellsBefore (Padded spells) w)
    (htext : Refuses item text) : items? item closing (w ++ text) = none := by
  have hhead := not_isClosing_before hstarts hw htext.not_isClosing
  unfold items?
  split
  · rfl
  · rename_i c rest hskip
    have hc : c ≠ closing := fun heq => hhead c (by rw [hskip]; rfl) (heq ▸ hclosing)
    rw [if_neg hc]
    exact separated?_eq_none h hw htext.item_eq_none _

end Lists

/-- After this text a value comes next, in which at most so many arrays and objects may be inside
one another. -/
inductive Awaits : Nat → List Char → Prop where
  | start : Awaits maxNesting []
  | blank {depth : Nat} {before b : List Char} (h : Awaits depth before) (hb : Blank b) :
      Awaits depth (before ++ b)
  /-- In an array, after some items. -/
  | item {depth : Nat} {before items : List Char} (h : Awaits (depth + 1) before)
      (hitems : SpellsBefore (Padded (Spells depth)) items) :
      Awaits depth (before ++ '[' :: items)
  /-- In an object, after some members, a name and a colon. -/
  | member {depth : Nat} {before members b cs name b' : List Char} (h : Awaits (depth + 1) before)
      (hmembers : SpellsBefore (Padded (SpellsMember (Padded (Spells depth)))) members)
      (hb : Blank b) (hname : SpellsString cs name) (hb' : Blank b') :
      Awaits depth (before ++ '\x7b' :: (members ++ (b ++ '"' :: (name ++ '"' :: (b' ++ [':'])))))

/-! ### Refused values -/

theorem value?_blank_append (depth : Nat) {b : List Char} (hb : Blank b) (text : List Char) :
    value? depth (b ++ text) = value? depth text := by
  cases depth <;> simp only [value?, skipSpaces_append hb]

namespace Refuses

variable {depth : Nat} {text : List Char}

theorem blank (h : Refuses (value? depth) text) {b : List Char} (hb : Blank b) :
    Refuses (value? depth) (b ++ text) where
  item_eq_none := (value?_blank_append depth hb text).trans h.item_eq_none
  not_isClosing := by
    rw [skipSpaces_append hb]
    exact h.not_isClosing

theorem array (h : Refuses (value? depth) text) {items : List Char}
    (hitems : SpellsBefore (Padded (Spells depth)) items) :
    Refuses (value? (depth + 1)) ('[' :: (items ++ text)) where
  item_eq_none := by
    have hopen : isSpace '[' = false := rfl
    have hnone := items?_eq_none (reads_value depth) (starts_spells depth) (.inl rfl) hitems h
    simp [value?, skipSpaces_cons hopen, hnone]
  not_isClosing := by simp [skipSpaces, isSpace, IsClosing]

theorem member (h : Refuses (value? depth) text) {b cs name b' : List Char} (hb : Blank b)
    (hname : SpellsString cs name) (hb' : Blank b') :
    Refuses (Json.member (value? depth))
      (b ++ '"' :: (name ++ '"' :: (b' ++ ':' :: text))) where
  item_eq_none := by
    have hquote : isSpace '"' = false := rfl
    have hcolon : isSpace ':' = false := rfl
    simp [Json.member, skipSpaces_append hb, skipSpaces_cons hquote, stringBody?_append hname,
      skipSpaces_append hb', skipSpaces_cons hcolon, h.item_eq_none]
  not_isClosing := by
    have hquote : isSpace '"' = false := rfl
    simp [skipSpaces_append hb, skipSpaces_cons hquote, IsClosing]

theorem object (h : Refuses (Json.member (value? depth)) text) {members : List Char}
    (hmembers : SpellsBefore (Padded (SpellsMember (Padded (Spells depth)))) members) :
    Refuses (value? (depth + 1)) ('\x7b' :: (members ++ text)) where
  item_eq_none := by
    have hopen : isSpace '\x7b' = false := rfl
    have hnone := items?_eq_none (reads_member (reads_value depth)) starts_member (.inr rfl)
      hmembers h
    simp [value?, skipSpaces_cons hopen, hnone]
  not_isClosing := by simp [skipSpaces, isSpace, IsClosing]

/-- A number that has no value is not read. -/
theorem number {l : Literal} {w rest : List Char} (h : SpellsNumber l w) (hvalue : l.value? = none)
    (hrest : Literal.StopsNumber rest) : Refuses (value? depth) (w ++ rest) := by
  have hread := plainValue?_number h hrest
  rw [hvalue, Option.map_none] at hread
  obtain ⟨c, w, rfl, hc⟩ := h.startsPlain
  refine ⟨(value?_eq_plainValue? depth blank_nil hc (w ++ rest)).trans hread, ?_⟩
  simp [skipSpaces_cons hc.isSpace, hc.not_isClosing]

end Refuses

namespace Awaits

variable {depth : Nat} {before : List Char}

/-- A text is refused if no value is read where one is awaited. -/
theorem parse?_eq_none (h : Awaits depth before) {text : List Char}
    (htext : Refuses (value? depth) text) : parse? (before ++ text) = none := by
  induction h generalizing text with
  | start => simp only [List.nil_append, parse?, htext.item_eq_none]
  | blank _ hb ih =>
    rw [List.append_assoc]
    exact ih (htext.blank hb)
  | item _ hitems ih =>
    rw [List.append_assoc]
    exact ih (htext.array hitems)
  | member _ hmembers hb hname hb' ih =>
    have hrefused := (htext.member hb hname hb').object hmembers
    simpa using ih hrefused

/-- A text is refused if a number stands in it that has no value. -/
theorem parse?_number (h : Awaits depth before) {l : Literal} {w rest : List Char}
    (hw : SpellsNumber l w) (hvalue : l.value? = none) (hrest : Literal.StopsNumber rest) :
    parse? (before ++ (w ++ rest)) = none :=
  h.parse?_eq_none (.number hw hvalue hrest)

end Awaits

end HumidifierBridge.Json
