import Mathlib.Data.List.TakeWhile
import HumidifierBridge.Proofs.JsonTokens

/-!
# How documents are written

`Json.Spells` relates a document to the ways of writing it. It says nothing of how a text is read:
the members of an object stand in the order of the text, and a name may be repeated. What is read of
such a document is `Json.settled`, in which the members of every object are in order and the last
one of a name holds.

`Json.parse?_eq_some_iff` says that a text is read if and only if it is a document
(`Json.Document`): one value, with blanks around it, that nests no deeper than is allowed, and whose
numbers all have a value.
-/

namespace HumidifierBridge.Json

/-! ### Values -/

/-- A value without nesting is written so. -/
inductive SpellsPlain : Json → List Char → Prop where
  | null : SpellsPlain .null ['n', 'u', 'l', 'l']
  | true : SpellsPlain (.bool true) ['t', 'r', 'u', 'e']
  | false : SpellsPlain (.bool false) ['f', 'a', 'l', 's', 'e']
  | number {l : Literal} {n : JsonNumber} {w : List Char} (h : SpellsNumber l w)
      (hn : l.value? = some n) : SpellsPlain (.number n) w
  | string {cs w : List Char} (h : SpellsString cs w) :
      SpellsPlain (.string (String.ofList cs)) ('"' :: (w ++ ['"']))

section Lists

variable {α : Type} (item : α → List Char → Prop)

/-- With blanks before it. -/
def Padded (a : α) (w : List Char) : Prop := ∃ b v, Blank b ∧ item a v ∧ w = b ++ v

/-- Items are written so, with commas between them. -/
inductive SpellsItems : List α → List Char → Prop where
  | last {a : α} {w b : List Char} (h : item a w) (hb : Blank b) : SpellsItems [a] (w ++ b)
  | cons {a : α} {as : List α} {w b v : List Char} (h : item a w) (hb : Blank b)
      (hrest : SpellsItems as v) : SpellsItems (a :: as) (w ++ (b ++ ',' :: v))

/-- Items, if any, are written so between the marks that enclose them. -/
inductive SpellsList : List α → List Char → Prop where
  | nil {b : List Char} (hb : Blank b) : SpellsList [] b
  | items {as : List α} {w : List Char} (h : SpellsItems item as w) : SpellsList as w

/-- A member is written so: its name, a colon and its value. -/
def SpellsMember (m : String × α) (w : List Char) : Prop :=
  ∃ cs name b v, SpellsString cs name ∧ String.ofList cs = m.1 ∧ Blank b ∧ item m.2 v ∧
    w = '"' :: (name ++ '"' :: (b ++ ':' :: v))

end Lists

/-- A value is written so, where those in it are written as given. -/
inductive SpellsWith (inner : Json → List Char → Prop) : Json → List Char → Prop where
  | plain {v : Json} {w : List Char} (h : SpellsPlain v w) : SpellsWith inner v w
  | array {vs : List Json} {w : List Char} (h : SpellsList (Padded inner) vs w) :
      SpellsWith inner (.array vs) ('[' :: (w ++ [']']))
  | object {ms : List (String × Json)} {w : List Char}
      (h : SpellsList (Padded (SpellsMember (Padded inner))) ms w) :
      SpellsWith inner (.object ms) ('\x7b' :: (w ++ ['\x7d']))

/-- A value is written so, with at most so many arrays and objects inside one another. -/
def Spells : Nat → Json → List Char → Prop
  | 0 => SpellsPlain
  | depth + 1 => SpellsWith (Spells depth)

theorem SpellsPlain.spells {v : Json} {w : List Char} (h : SpellsPlain v w) (depth : Nat) :
    Spells depth v w := by
  cases depth with
  | zero => exact h
  | succ depth => exact .plain h

/-- A member whose name needs no escapes may stand without blanks. -/
theorem spellsMember_self {α : Type} {item : α → List Char → Prop} (name : String) {a : α}
    {w : List Char} (hname : name.toList.all isBare = true) (h : item a w) :
    Padded (SpellsMember (Padded item)) (name, a) ('"' :: (name.toList ++ '"' :: ':' :: w)) :=
  ⟨[], _, blank_nil, ⟨name.toList, name.toList, [], w, spellsString_self hname,
    String.ofList_toList, blank_nil, ⟨[], w, blank_nil, h, rfl⟩, rfl⟩, rfl⟩

/-- The text is a document. -/
def Document (v : Json) (text : List Char) : Prop :=
  ∃ b w c, Blank b ∧ Spells maxNesting v w ∧ Blank c ∧ text = b ++ (w ++ c)

mutual

/-- What is read of a document. -/
def settled : Json → Json
  | .array items => .array (settledItems items)
  | .object members => .object (KeyMap.sortEntries (settledMembers members))
  | v => v

/-- What is read of items. -/
def settledItems : List Json → List Json
  | [] => []
  | v :: rest => v.settled :: settledItems rest

/-- What is read of members, in the order of the text. -/
def settledMembers : List (String × Json) → List (String × Json)
  | [] => []
  | m :: rest => (m.1, m.2.settled) :: settledMembers rest

end

theorem settledItems_eq (items : List Json) : settledItems items = items.map settled := by
  induction items with
  | nil => rfl
  | cons v rest ih => rw [settledItems, ih, List.map_cons]

theorem settledMembers_eq (members : List (String × Json)) :
    settledMembers members = members.map fun m => (m.1, m.2.settled) := by
  induction members with
  | nil => rfl
  | cons m rest ih => rw [settledMembers, ih, List.map_cons]

theorem SpellsPlain.settled_eq {v : Json} {w : List Char} (h : SpellsPlain v w) :
    v.settled = v := by
  cases h <;> rfl

/-! ### Readers -/

/-- What may follow a value. -/
def StopsValue (rest : List Char) : Prop :=
  ∀ c ∈ rest.head?, isSpace c = true ∨ c = ',' ∨ c = ']' ∨ c = '\x7d'

/-- The marks at the end of arrays and objects. -/
def IsClosing (c : Char) : Prop := c = ']' ∨ c = '\x7d'

theorem IsClosing.isSpace {c : Char} (h : IsClosing c) : isSpace c = false := by
  rcases h with rfl | rfl <;> decide

theorem IsClosing.ne_comma {c : Char} (h : IsClosing c) : c ≠ ',' := by
  rcases h with rfl | rfl <;> decide

/-- Blanks may stand before what may follow a value. -/
theorem StopsValue.blank {b rest : List Char} (hb : Blank b) (h : StopsValue rest) :
    StopsValue (b ++ rest) := by
  cases b with
  | nil => exact h
  | cons c b =>
    rintro _ ⟨⟩
    exact .inl (hb c List.mem_cons_self)

theorem IsClosing.stopsValue {c : Char} (h : IsClosing c) (rest : List Char) :
    StopsValue (c :: rest) := by
  rintro _ ⟨⟩
  exact .inr (.inr h)

theorem stopsValue_comma (rest : List Char) : StopsValue (',' :: rest) := by
  rintro _ ⟨⟩
  exact .inr (.inl rfl)

theorem StopsValue.stopsNumber {rest : List Char} (h : StopsValue rest) :
    Literal.StopsNumber rest := by
  intro c hc
  have hspace : isSpace c = true → c = ' ' ∨ c = '\t' ∨ c = '\n' ∨ c = '\r' := by
    simp [Json.isSpace, or_assoc]
  rcases h c hc with hblank | rfl | rfl | rfl
  · rcases hspace hblank with rfl | rfl | rfl | rfl <;> decide
  all_goals decide

/-- A reader reads what is written in a certain way, and nothing else. What it makes of it is given
by a function. -/
structure Reads {α β : Type} (item : ItemReader β) (f : α → β) (spells : α → List Char → Prop) :
    Prop where
  sound : ∀ {text b rest}, item text = some (b, rest) →
    ∃ a w, f a = b ∧ text = w ++ rest ∧ spells a w
  complete : ∀ {a w rest}, spells a w → StopsValue rest → item (w ++ rest) = some (f a, rest)

section Lists

variable {α β : Type} {item : ItemReader β} {f : α → β} {spells : α → List Char → Prop}
  {closing : Char}

theorem spellsItems_of_separated? (h : Reads item f spells) {n : Nat} {text rest : List Char}
    {bs : List β} (hbs : separated? item closing n text = some (bs, rest)) :
    ∃ as w, as.map f = bs ∧ text = w ++ closing :: rest ∧ SpellsItems spells as w := by
  induction n generalizing text bs with
  | zero => cases hbs
  | succ n ih =>
    simp only [separated?, Option.bind_eq_bind, Option.bind_eq_some_iff] at hbs
    obtain ⟨⟨b, rest₁⟩, hitem, hbs⟩ := hbs
    obtain ⟨a, w, rfl, rfl, hw⟩ := h.sound hitem
    obtain ⟨blank, hblank, hrest₁⟩ := exists_blank_append_skipSpaces rest₁
    simp only at hbs
    split at hbs
    · rename_i rest₂ hcomma
      simp only [Option.bind_eq_some_iff] at hbs
      obtain ⟨⟨bs, rest₃⟩, hmore, hbs⟩ := hbs
      cases hbs
      obtain ⟨as, v, rfl, rfl, hv⟩ := ih hmore
      refine ⟨a :: as, w ++ (blank ++ ',' :: v), rfl, ?_, .cons hw hblank hv⟩
      rw [hrest₁, hcomma]
      simp
    · rename_i c rest₂ hne hclosing
      split at hbs
      · rename_i hc
        cases hbs
        refine ⟨[a], w ++ blank, rfl, ?_, .last hw hblank⟩
        rw [hrest₁, hclosing, hc]
        simp
      · cases hbs
    · cases hbs

theorem separated?_append (h : Reads item f spells) (hclosing : IsClosing closing) {as : List α}
    {w : List Char} (hw : SpellsItems spells as w) (rest : List Char) {n : Nat}
    (hn : w.length < n) :
    separated? item closing n (w ++ closing :: rest) = some (as.map f, rest) := by
  induction hw generalizing n with
  | @last a w b ha hb =>
    obtain ⟨n, rfl⟩ := Nat.exists_eq_succ_of_ne_zero (Nat.ne_zero_of_lt hn)
    have hitem := h.complete ha ((hclosing.stopsValue rest).blank hb)
    simp [separated?, hitem, skipSpaces_append hb, skipSpaces_cons hclosing.isSpace,
      hclosing.ne_comma]
  | @cons a as w b v ha hb _ ih =>
    obtain ⟨n, rfl⟩ := Nat.exists_eq_succ_of_ne_zero (Nat.ne_zero_of_lt hn)
    have hitem := h.complete ha ((stopsValue_comma (v ++ closing :: rest)).blank hb)
    have hmore := ih (n := n) (by simp at hn; omega)
    have hcomma : isSpace ',' = false := rfl
    simp [separated?, hitem, skipSpaces_append hb, skipSpaces_cons hcomma, hmore]

/-- What is written so starts with something else than a blank or a mark at an end. -/
def Starts (spells : α → List Char → Prop) : Prop :=
  ∀ {a w}, spells a w → ∃ c v, w = c :: v ∧ isSpace c = false ∧ ¬IsClosing c

/-- What is read as a list is written as one. -/
theorem spellsList_of_items? (h : Reads item f spells) {text rest : List Char} {bs : List β}
    (hbs : items? item closing text = some (bs, rest)) :
    ∃ as w, as.map f = bs ∧ text = w ++ closing :: rest ∧ SpellsList spells as w := by
  obtain ⟨b, hb, htext⟩ := exists_blank_append_skipSpaces text
  simp only [items?] at hbs
  split at hbs
  · cases hbs
  · rename_i c rest' hskip
    split at hbs
    · rename_i hc
      cases hbs
      exact ⟨[], b, rfl, by rw [htext, hskip, hc], .nil hb⟩
    · obtain ⟨as, w, has, hw, hitems⟩ := spellsItems_of_separated? h hbs
      exact ⟨as, w, has, hw, .items hitems⟩

/-- What is written as a list is read as one. -/
theorem items?_append (h : Reads item f (Padded spells)) (hstarts : Starts spells)
    (hclosing : IsClosing closing) {as : List α} {w : List Char}
    (hw : SpellsList (Padded spells) as w) (rest : List Char) :
    items? item closing (w ++ closing :: rest) = some (as.map f, rest) := by
  cases hw with
  | nil hb => simp [items?, skipSpaces_append hb, skipSpaces_cons hclosing.isSpace]
  | items hitems =>
    -- The first item is what stands first, so that the list is not read as an empty one.
    have hitem : ∃ a b v u, Blank b ∧ spells a v ∧ w = b ++ (v ++ u) := by
      cases hitems with
      | last h _ | cons h _ _ =>
        obtain ⟨b, v, hb, hv, rfl⟩ := h
        exact ⟨_, b, v, _, hb, hv, List.append_assoc ..⟩
    obtain ⟨a, b, v, u, hb, hv, rfl⟩ := hitem
    obtain ⟨c, v, rfl, hspace, hopen⟩ := hstarts hv
    have hskip : skipSpaces (b ++ (c :: v ++ u) ++ closing :: rest) =
        c :: (v ++ (u ++ closing :: rest)) := by
      simp [skipSpaces_append hb, skipSpaces_cons hspace]
    have hc : c ≠ closing := fun heq => hopen (heq ▸ hclosing)
    simp only [items?, hskip, if_neg hc]
    exact separated?_append h hclosing hitems rest (by simp)

theorem starts_member : Starts (SpellsMember spells) := by
  rintro m w ⟨cs, name, b, v, -, -, -, -, rfl⟩
  exact ⟨'"', _, rfl, rfl, by simp [IsClosing]⟩

/-- A member is read if its value is. -/
theorem reads_member (h : Reads item f spells) :
    Reads (member item) (fun m => (m.1, f m.2)) (Padded (SpellsMember spells)) where
  sound := by
    intro text m rest hm
    obtain ⟨b, hb, htext⟩ := exists_blank_append_skipSpaces text
    simp only [member] at hm
    split at hm
    · rename_i rest₁ hquote
      simp only [Option.bind_eq_bind, Option.bind_eq_some_iff] at hm
      obtain ⟨⟨cs, rest₂⟩, hname, hm⟩ := hm
      obtain ⟨name, rfl, hspelled⟩ := spellsString_of_stringBody? hname
      obtain ⟨b', hb', hrest₂⟩ := exists_blank_append_skipSpaces rest₂
      simp only at hm
      split at hm
      · rename_i rest₃ hcolon
        simp only [Option.bind_eq_some_iff] at hm
        obtain ⟨⟨_, rest₄⟩, hvalue, hm⟩ := hm
        obtain ⟨a, v, rfl, rfl, hv⟩ := h.sound hvalue
        cases hm
        refine ⟨(String.ofList cs, a), _, rfl, ?_, b, _, hb,
          ⟨cs, name, b', v, hspelled, rfl, hb', hv, rfl⟩, rfl⟩
        rw [htext, hquote, hrest₂, hcolon]
        simp
      · cases hm
    · cases hm
  complete := by
    rintro ⟨_, a⟩ _ rest ⟨b, _, hb, ⟨cs, name, b', v, hname, rfl, hb', hv, rfl⟩, rfl⟩ hrest
    have hquote : isSpace '"' = false := rfl
    have hcolon : isSpace ':' = false := rfl
    simp [member, skipSpaces_append hb, skipSpaces_cons hquote, stringBody?_append hname,
      skipSpaces_append hb', skipSpaces_cons hcolon, h.complete hv hrest]

end Lists

/-! ### Values without nesting -/

/-- A value without nesting starts so. -/
def StartsPlain (c : Char) : Prop :=
  c = '"' ∨ c = 'n' ∨ c = 't' ∨ c = 'f' ∨ c = '-' ∨ (Decimal.digit? c).isSome = true

instance (c : Char) : Decidable (StartsPlain c) := inferInstanceAs (Decidable (_ ∨ _))

theorem StartsPlain.isSpace {c : Char} (h : StartsPlain c) : isSpace c = false := by
  rw [← Bool.not_eq_true]
  simp only [Json.isSpace, Bool.or_eq_true, decide_eq_true_eq]
  rintro (((rfl | rfl) | rfl) | rfl) <;> revert h <;> decide

theorem StartsPlain.not_isClosing {c : Char} (h : StartsPlain c) : ¬IsClosing c := by
  rintro (rfl | rfl) <;> revert h <;> decide

theorem StartsPlain.ne_open {c : Char} (h : StartsPlain c) : c ≠ '[' ∧ c ≠ '\x7b' := by
  constructor <;> rintro rfl <;> revert h <;> decide

theorem SpellsNumber.startsPlain {l : Literal} {w : List Char} (h : SpellsNumber l w) :
    ∃ c rest, w = c :: rest ∧ StartsPlain c := by
  obtain ⟨c, rest, rfl, hc⟩ := Literal.exists_head_of_spellsNumber h
  refine ⟨c, rest, rfl, ?_⟩
  split at hc
  · exact hc ▸ by decide
  · simp [StartsPlain, hc]

theorem SpellsPlain.startsPlain {v : Json} {w : List Char} (h : SpellsPlain v w) :
    ∃ c rest, w = c :: rest ∧ StartsPlain c := by
  cases h with
  | number h _ => exact h.startsPlain
  | _ => exact ⟨_, _, rfl, by decide⟩

theorem word?_eq_some_iff {word : String} {text rest : List Char} :
    word? word text = some rest ↔ text = word.toList ++ rest := by
  simp only [word?, Option.ite_none_right_eq_some, List.isPrefixOf_iff_prefix, Option.some.injEq]
  constructor
  · rintro ⟨⟨more, rfl⟩, h⟩
    rw [← h, List.drop_left]
  · rintro rfl
    exact ⟨List.prefix_append _ _, List.drop_left⟩

/-- What is read as a value without nesting is written as one. -/
theorem spellsPlain_of_plainValue? {text rest : List Char} {v : Json}
    (h : plainValue? text = some (v, rest)) : ∃ w, text = w ++ rest ∧ SpellsPlain v w := by
  have hword : ∀ {word : String} {v' : Json}, SpellsPlain v' word.toList →
      (word? word text).map (fun rest => (v', rest)) = some (v, rest) →
        ∃ w, text = w ++ rest ∧ SpellsPlain v w := by
    intro word v' hspells h
    obtain ⟨rest, hword, h⟩ := Option.map_eq_some_iff.1 h
    cases h
    exact ⟨_, word?_eq_some_iff.1 hword, hspells⟩
  simp only [plainValue?] at h
  split at h
  · obtain ⟨⟨cs, rest⟩, hbody, h⟩ := Option.map_eq_some_iff.1 h
    cases h
    obtain ⟨w, rfl, hw⟩ := spellsString_of_stringBody? hbody
    exact ⟨'"' :: (w ++ ['"']), by simp, .string hw⟩
  · exact hword .null h
  · exact hword .true h
  · exact hword .false h
  · simp only [Option.bind_eq_bind, Option.bind_eq_some_iff] at h
    obtain ⟨⟨l, rest⟩, hscan, n, hn, h⟩ := h
    cases h
    obtain ⟨w, rfl, hw⟩ := Literal.spellsNumber_of_scan? hscan
    exact ⟨w, rfl, .number hw hn⟩

/-- What is written as a number is read as its value, if it has one. -/
theorem plainValue?_number {l : Literal} {w rest : List Char} (h : SpellsNumber l w)
    (hrest : Literal.StopsNumber rest) :
    plainValue? (w ++ rest) = l.value?.map fun n => (.number n, rest) := by
  have hscan := Literal.scan?_append h hrest
  obtain ⟨c, w, rfl, hc⟩ := Literal.exists_head_of_spellsNumber h
  have hletter : c ≠ '"' ∧ c ≠ 'n' ∧ c ≠ 't' ∧ c ≠ 'f' := by
    refine ⟨?_, ?_, ?_, ?_⟩ <;> rintro rfl <;> revert hc <;> cases l.negative <;> decide
  rw [List.cons_append] at hscan ⊢
  cases hn : l.value? <;> simp [plainValue?, hletter, hscan, hn]

/-- What is written as a value without nesting is read as one. -/
theorem plainValue?_append {v : Json} {w rest : List Char} (h : SpellsPlain v w)
    (hrest : StopsValue rest) : plainValue? (w ++ rest) = some (v, rest) := by
  cases h with
  | string h => simp [plainValue?, stringBody?_append h]
  | number h hn => rw [plainValue?_number h hrest.stopsNumber, hn, Option.map_some]
  | _ => simp [plainValue?, word?]

/-! ### Values and documents -/

theorem starts_spellsPlain : Starts SpellsPlain := by
  intro v w h
  obtain ⟨c, u, rfl, hc⟩ := h.startsPlain
  exact ⟨c, u, rfl, hc.isSpace, hc.not_isClosing⟩

/-- A value starts with something else than a blank or a mark at an end. -/
theorem starts_spells (depth : Nat) : Starts (Spells depth) := by
  intro v w h
  cases depth with
  | zero => exact starts_spellsPlain h
  | succ depth =>
    cases h with
    | plain h => exact starts_spellsPlain h
    | array _ => exact ⟨'[', _, rfl, rfl, by simp [IsClosing]⟩
    | object _ => exact ⟨'\x7b', _, rfl, rfl, by simp [IsClosing]⟩

/-- Where a value without nesting starts, no other is read. -/
theorem value?_eq_plainValue? (depth : Nat) {b : List Char} {c : Char} (hb : Blank b)
    (hc : StartsPlain c) (rest : List Char) :
    value? depth (b ++ c :: rest) = plainValue? (c :: rest) := by
  obtain ⟨hbracket, hbrace⟩ := hc.ne_open
  cases depth <;>
    simp [value?, skipSpaces_append hb, skipSpaces_cons hc.isSpace, hbracket, hbrace]

/-- A value without nesting is read at any depth. -/
theorem value?_append_plain (depth : Nat) {b w rest : List Char} {v : Json} (hb : Blank b)
    (h : SpellsPlain v w) (hrest : StopsValue rest) :
    value? depth (b ++ w ++ rest) = some (v, rest) := by
  have hread := plainValue?_append h hrest
  obtain ⟨c, u, rfl, hc⟩ := h.startsPlain
  rw [List.append_assoc, List.cons_append, value?_eq_plainValue? depth hb hc]
  exact hread

/-- A value is read if and only if it is written as one. -/
theorem reads_value (depth : Nat) : Reads (value? depth) settled (Padded (Spells depth)) := by
  induction depth with
  | zero =>
    constructor
    · intro text v rest h
      obtain ⟨b, hb, htext⟩ := exists_blank_append_skipSpaces text
      simp only [value?] at h
      split at h
      · cases h
      · cases h
      · obtain ⟨w, hw, hplain⟩ := spellsPlain_of_plainValue? h
        exact ⟨v, b ++ w, hplain.settled_eq, by rw [htext, hw, List.append_assoc],
          b, w, hb, hplain, rfl⟩
    · rintro v _ rest ⟨b, w, hb, h, rfl⟩ hrest
      have hplain : SpellsPlain v w := h
      rw [value?_append_plain 0 hb hplain hrest, hplain.settled_eq]
  | succ depth ih =>
    constructor
    · intro text v rest h
      obtain ⟨b, hb, htext⟩ := exists_blank_append_skipSpaces text
      simp only [value?] at h
      split at h
      · rename_i text' hopen
        obtain ⟨⟨vs, rest⟩, hitems, h⟩ := Option.map_eq_some_iff.1 h
        cases h
        obtain ⟨raw, w, rfl, rfl, hw⟩ := spellsList_of_items? ih hitems
        refine ⟨.array raw, b ++ '[' :: (w ++ [']']), ?_, ?_, b, _, hb, .array hw, rfl⟩
        · rw [settled, settledItems_eq]
        · rw [htext, hopen]
          simp
      · rename_i text' hopen
        obtain ⟨⟨ms, rest⟩, hitems, h⟩ := Option.map_eq_some_iff.1 h
        cases h
        obtain ⟨raw, w, rfl, rfl, hw⟩ := spellsList_of_items? (reads_member ih) hitems
        refine ⟨.object raw, b ++ '\x7b' :: (w ++ ['\x7d']), ?_, ?_, b, _, hb, .object hw, rfl⟩
        · rw [settled, settledMembers_eq]
        · rw [htext, hopen]
          simp
      · obtain ⟨w, hw, hplain⟩ := spellsPlain_of_plainValue? h
        exact ⟨v, b ++ w, hplain.settled_eq, by rw [htext, hw, List.append_assoc],
          b, w, hb, .plain hplain, rfl⟩
    · rintro v _ rest ⟨b, w, hb, h, rfl⟩ hrest
      cases h with
      | plain h => rw [value?_append_plain _ hb h hrest, h.settled_eq]
      | @array vs w h =>
        have hopen : isSpace '[' = false := rfl
        have hitems := items?_append ih (starts_spells depth) (.inl rfl) h rest
        simp [value?, skipSpaces_append hb, skipSpaces_cons hopen, hitems, settled,
          settledItems_eq]
      | @object ms w h =>
        have hopen : isSpace '\x7b' = false := rfl
        have hitems := items?_append (reads_member ih) starts_member (.inr rfl) h rest
        simp [value?, skipSpaces_append hb, skipSpaces_cons hopen, hitems, settled,
          settledMembers_eq]

theorem isEmpty_skipSpaces_iff {text : List Char} :
    (skipSpaces text).isEmpty = true ↔ Blank text := by
  rw [List.isEmpty_iff, skipSpaces, List.dropWhile_eq_nil_iff, Blank]

/-- A text is read if and only if it is a document. -/
theorem parse?_eq_some_iff {text : List Char} {v : Json} :
    parse? text = some v ↔ ∃ raw, Document raw text ∧ raw.settled = v := by
  have hreads := reads_value maxNesting
  constructor
  · intro h
    simp only [parse?] at h
    split at h
    · rename_i v' rest hread
      split at h
      · rename_i hrest
        cases h
        obtain ⟨raw, _, rfl, rfl, b, w, hb, hw, rfl⟩ := hreads.sound hread
        exact ⟨raw, ⟨b, w, rest, hb, hw, isEmpty_skipSpaces_iff.1 hrest,
          List.append_assoc ..⟩, rfl⟩
      · cases h
    · cases h
  · rintro ⟨raw, ⟨b, w, c, hb, hw, hc, rfl⟩, rfl⟩
    have hstops : StopsValue c := fun d hd => .inl (hc d (List.mem_of_mem_head? hd))
    have hread := hreads.complete ⟨b, w, hb, hw, rfl⟩ hstops
    rw [List.append_assoc] at hread
    simp [parse?, hread, isEmpty_skipSpaces_iff.2 hc]

end HumidifierBridge.Json
