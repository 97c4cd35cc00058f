import HumidifierBridge.Appliance.Report
import HumidifierBridge.Proofs.KeyMaps

/-!
# The numbers of a document

A document has no way of writing a NaN, and none comes about while its literals are read: a literal
is a sign and digits, and what is rounded, multiplied or divided on the way to its double is a
fraction each time. So every value of a report is a number, and equals itself.
-/

namespace HumidifierBridge

namespace Binary64

/-- The pattern of a rounded fraction is at most that of infinity. -/
theorem roundRatio_le (num den : Nat) : roundRatio num den ≤ infinityPattern := by
  simp only [roundRatio]
  split
  · exact Nat.zero_le _
  · exact Nat.min_le_right _ _

/-- The sign stands apart from the magnitude. -/
theorem magnitude_ofMagnitude (negative : Bool) {pattern : Nat} (h : pattern < signBit) :
    (ofMagnitude negative pattern).magnitude = pattern := by
  simp only [signBit] at h
  cases negative with
  | false =>
    have hbits : (UInt64.ofNat pattern).toNat = pattern := by
      rw [UInt64.toNat_ofNat']
      omega
    simp only [ofMagnitude, magnitude, signBit, Bool.false_eq_true, if_false, hbits]
    omega
  | true =>
    have hbits : (UInt64.ofNat (signBit + pattern)).toNat = signBit + pattern := by
      rw [UInt64.toNat_ofNat', signBit]
      omega
    simp only [ofMagnitude, magnitude, if_true, hbits]
    simp only [signBit]
    omega

/-- Rounding a fraction gives no NaN. -/
@[simp] theorem isNaN_ofRatio (negative : Bool) (num den : Nat) :
    (ofRatio negative num den).isNaN = false := by
  have hle := roundRatio_le num den
  have hlt : roundRatio num den < signBit := Nat.lt_of_le_of_lt hle (by decide)
  rw [ofRatio, isNaN, magnitude_ofMagnitude negative hlt, decide_eq_false_iff_not]
  omega

@[simp] theorem isNaN_ofInt (n : Int) : (ofInt n).isNaN = false := isNaN_ofRatio _ _ _

@[simp] theorem isNaN_mul (x y : Binary64) : (x.mul y).isNaN = false := isNaN_ofRatio _ _ _

@[simp] theorem isNaN_div (x y : Binary64) : (x.div y).isNaN = false := isNaN_ofRatio _ _ _

@[simp] theorem isNaN_neg (x : Binary64) : x.neg.isNaN = x.isNaN := by
  have hlt : x.magnitude < signBit := Nat.mod_lt _ (by decide)
  rw [neg, isNaN, isNaN, magnitude_ofMagnitude _ hlt]

end Binary64

namespace Json

namespace Literal

theorem isNaN_scaleDown {x : Binary64} (h : x.isNaN = false) (n : Nat) :
    (scaleDown x n).isNaN = false := by
  fun_induction scaleDown x n with
  | case1 x n hn => exact x.isNaN_div _
  | case2 x n hn hzero => exact h
  | case3 x n hn hzero ih => exact ih (x.isNaN_div _)

theorem isNaN_of_scale? {kept : Nat} {exponent : Int} {x : Binary64}
    (h : scale? kept exponent = some x) : x.isNaN = false := by
  simp only [scale?] at h
  split at h
  · cases h
    exact isNaN_scaleDown (Binary64.isNaN_ofRatio _ _ _) _
  · split at h
    · split at h
      · cases h
      · cases h
        exact Binary64.isNaN_mul _ _
    · split at h
      · cases h
        exact Binary64.isNaN_ofRatio _ _ _
      · cases h

theorem isNaN_of_absolute? {l : Literal} {x : Binary64} (h : l.absolute? = some x) :
    x.isNaN = false := by
  simp only [absolute?] at h
  split at h
  · exact isNaN_of_scale? h
  · split at h
    · split at h
      · cases h
      · cases h
        rfl
    · exact isNaN_of_scale? h

/-- No literal stands for a NaN. -/
theorem isNaN_of_value? {l : Literal} {n : JsonNumber} (h : l.value? = some n) :
    n.toBinary64.isNaN = false := by
  have hdouble : ∀ {n : JsonNumber}, (l.absolute?.map fun x => JsonNumber.double
      (if l.negative then x.neg else x)) = some n → n.toBinary64.isNaN = false := by
    intro n hn
    obtain ⟨x, hx, rfl⟩ := Option.map_eq_some_iff.1 hn
    have hnumber := isNaN_of_absolute? hx
    simp only [JsonNumber.toBinary64]
    split
    · rw [x.isNaN_neg, hnumber]
    · exact hnumber
  simp only [value?] at h
  split at h
  · split at h
    · cases h
      exact Binary64.isNaN_ofInt _
    · split at h
      · cases h
        exact Binary64.isNaN_ofInt _
      · exact hdouble h
  · exact hdouble h

end Literal

/-- No number in the document is a NaN. -/
inductive NoNaN : Json → Prop
  | null : NoNaN .null
  | bool (b : Bool) : NoNaN (.bool b)
  | number {n : JsonNumber} (h : n.toBinary64.isNaN = false) : NoNaN (.number n)
  | string (s : String) : NoNaN (.string s)
  | array {items : List Json} (h : ∀ v ∈ items, NoNaN v) : NoNaN (.array items)
  | object {members : List (String × Json)} (h : ∀ m ∈ members, NoNaN m.2) :
    NoNaN (.object members)

/-! ### What a reader of items gives -/

section Items

variable {α : Type} {item : ItemReader α} {closing : Char} {P : α → Prop}

theorem forall_mem_of_separated? (hitem : ∀ {text a rest}, item text = some (a, rest) → P a)
    {n : Nat} {text : List Char} {as : List α} {rest : List Char}
    (h : separated? item closing n text = some (as, rest)) : ∀ a ∈ as, P a := by
  induction n generalizing text as rest with
  | zero => cases h
  | succ n ih =>
    simp only [separated?, Option.bind_eq_bind, Option.bind_eq_some_iff] at h
    obtain ⟨⟨a, after⟩, ha, h⟩ := h
    split at h
    · obtain ⟨⟨others, _⟩, hothers, h⟩ := Option.bind_eq_some_iff.1 h
      cases h
      exact List.forall_mem_cons.2 ⟨hitem ha, ih hothers⟩
    · split at h
      · cases h
        exact List.forall_mem_singleton.2 (hitem ha)
      · cases h
    · cases h

theorem forall_mem_of_items? (hitem : ∀ {text a rest}, item text = some (a, rest) → P a)
    {text : List Char} {as : List α} {rest : List Char}
    (h : items? item closing text = some (as, rest)) : ∀ a ∈ as, P a := by
  simp only [items?] at h
  split at h
  · cases h
  · split at h
    · cases h
      exact List.forall_mem_nil _
    · exact forall_mem_of_separated? hitem h

theorem holds_of_member (hitem : ∀ {text a rest}, item text = some (a, rest) → P a)
    {text : List Char} {m : String × α} {rest : List Char}
    (h : member item text = some (m, rest)) : P m.2 := by
  simp only [member] at h
  split at h
  · simp only [Option.bind_eq_bind, Option.bind_eq_some_iff] at h
    obtain ⟨⟨name, _⟩, -, h⟩ := h
    split at h
    · obtain ⟨⟨v, _⟩, hv, h⟩ := Option.bind_eq_some_iff.1 h
      cases h
      exact hitem hv
    · cases h
  · cases h

end Items

theorem noNaN_of_plainValue? {text rest : List Char} {v : Json}
    (h : plainValue? text = some (v, rest)) : v.NoNaN := by
  simp only [plainValue?] at h
  split at h
  · obtain ⟨_, -, h⟩ := Option.map_eq_some_iff.1 h
    cases h
    exact .string _
  · obtain ⟨_, -, h⟩ := Option.map_eq_some_iff.1 h
    cases h
    exact .null
  · obtain ⟨_, -, h⟩ := Option.map_eq_some_iff.1 h
    cases h
    exact .bool true
  · obtain ⟨_, -, h⟩ := Option.map_eq_some_iff.1 h
    cases h
    exact .bool false
  · simp only [Option.bind_eq_bind, Option.bind_eq_some_iff] at h
    obtain ⟨_, -, n, hn, h⟩ := h
    cases h
    exact .number (Literal.isNaN_of_value? hn)

/-- A value that was read holds no NaN, however deep it nests. -/
theorem noNaN_of_value? {depth : Nat} {text rest : List Char} {v : Json}
    (h : value? depth text = some (v, rest)) : v.NoNaN := by
  induction depth generalizing text v rest with
  | zero =>
    simp only [value?] at h
    split at h
    · cases h
    · cases h
    · exact noNaN_of_plainValue? h
  | succ depth ih =>
    simp only [value?] at h
    split at h
    · obtain ⟨⟨vs, _⟩, hvs, h⟩ := Option.map_eq_some_iff.1 h
      cases h
      exact .array (forall_mem_of_items? ih hvs)
    · obtain ⟨⟨ms, _⟩, hms, h⟩ := Option.map_eq_some_iff.1 h
      cases h
      have hmembers := forall_mem_of_items? (P := fun m => NoNaN m.2) (holds_of_member ih) hms
      exact .object fun m hm => hmembers m (KeyMap.mem_of_mem_sortEntries hm)
    · exact noNaN_of_plainValue? h

theorem noNaN_of_parse? {text : List Char} {v : Json} (h : parse? text = some v) : v.NoNaN := by
  simp only [parse?] at h
  split at h
  · rename_i hvalue
    split at h
    · cases h
      exact noNaN_of_value? hvalue
    · cases h
  · cases h

end Json

namespace DataReport

open Json (NoNaN)

theorem isNaN_of_scalar? {v : Json} (hv : v.NoNaN) {x : Binary64} (h : scalar? v = some x) :
    x.isNaN = false := by
  cases hv with
  | bool b => cases b <;> cases h <;> decide
  | number hn =>
    cases h
    exact hn
  | null => cases h
  | string s => cases h
  | array hitems => cases h
  | object hmembers => cases h

theorem isNaN_of_mem_scalars {members : List (String × Json)} (hmembers : ∀ m ∈ members, m.2.NoNaN)
    {v : String × Binary64} (h : v ∈ scalars members) : v.2.isNaN = false := by
  obtain ⟨m, hm, h⟩ := List.mem_filterMap.1 h
  obtain ⟨x, hx, rfl⟩ := Option.map_eq_some_iff.1 h
  exact isNaN_of_scalar? (hmembers m hm) hx

/-- **Every value of a report is a number.** -/
theorem isNaN_of_parse {body : List Char} {report : DataReport} (h : parse body = .ok report) :
    ∀ v ∈ report.values, v.2.isNaN = false := by
  simp only [parse] at h
  split at h
  · cases h
  · rename_i members hparse
    cases h
    cases Json.noNaN_of_parse? hparse with
    | object hmembers =>
      intro v hv
      obtain ⟨m, hm, hv⟩ := List.mem_flatMap.1 hv
      have hvalue := hmembers m hm
      simp only [memberValues] at hv
      split at hv
      · split at hv
        · rename_i device hdevice
          rw [hdevice] at hvalue
          cases hvalue with
          | object hdevice => exact isNaN_of_mem_scalars hdevice hv
        · cases hv
      · have hsingle : ∀ e ∈ [m], e.2.NoNaN := List.forall_mem_singleton.2 hvalue
        exact isNaN_of_mem_scalars hsingle hv
  · cases h

end DataReport

end HumidifierBridge
