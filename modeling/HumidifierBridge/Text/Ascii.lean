/-!
# ASCII letters and hexadecimal digits

Names and identifiers are compared without regard to the case of ASCII letters; every other
character, accented letters included, stands for itself. Hexadecimal digits are read in either case
and written in upper or lower case.
-/

namespace HumidifierBridge.Ascii

/-- Equality of texts up to the case of ASCII letters. -/
def sameFold (s t : String) : Bool :=
  s.toList.map Char.toLower == t.toList.map Char.toLower

theorem sameFold_iff {s t : String} :
    sameFold s t = true ↔ s.toList.map Char.toLower = t.toList.map Char.toLower := by
  simp [sameFold]

@[simp] theorem sameFold_refl (s : String) : sameFold s s = true := by
  simp [sameFold_iff]

theorem sameFold_comm (s t : String) : sameFold s t = sameFold t s := by
  rw [Bool.eq_iff_iff, sameFold_iff, sameFold_iff]
  exact eq_comm

theorem sameFold_trans {s t u : String} (h₁ : sameFold s t = true) (h₂ : sameFold t u = true) :
    sameFold s u = true := by
  rw [sameFold_iff] at *
  exact h₁.trans h₂

/-- The value of a hexadecimal digit in either case. -/
def hexValue? (c : Char) : Option (Fin 16) :=
  if h : '0' ≤ c ∧ c ≤ '9' then some ⟨(c.toNat - 48) % 16, by omega⟩
  else if 'a' ≤ c ∧ c ≤ 'f' then some ⟨(c.toNat - 87) % 16, by omega⟩
  else if 'A' ≤ c ∧ c ≤ 'F' then some ⟨(c.toNat - 55) % 16, by omega⟩
  else none

/-- The upper-case hexadecimal digit of a value. -/
def hexUpper (d : Fin 16) : Char :=
  Char.ofNat (if d.val < 10 then 48 + d.val else 55 + d.val)

/-- The lower-case hexadecimal digit of a value. -/
def hexLower (d : Fin 16) : Char :=
  Char.ofNat (if d.val < 10 then 48 + d.val else 87 + d.val)

/-- The two digits of an octet, the higher one first. -/
def octetDigits (b : UInt8) : List (Fin 16) :=
  have := b.toNat_lt
  [⟨b.toNat / 16, by omega⟩, ⟨b.toNat % 16, by omega⟩]

/-- The digits of octets, two for each. -/
def hexDigits (bytes : List UInt8) : List (Fin 16) := bytes.flatMap octetDigits

@[simp] theorem length_hexDigits (bytes : List UInt8) :
    (hexDigits bytes).length = 2 * bytes.length := by
  induction bytes with
  | nil => rfl
  | cons b rest ih => simp [hexDigits, octetDigits] at ih ⊢; omega

@[simp] theorem hexValue?_hexUpper (d : Fin 16) : hexValue? (hexUpper d) = some d := by
  revert d; decide

@[simp] theorem hexValue?_hexLower (d : Fin 16) : hexValue? (hexLower d) = some d := by
  revert d; decide

end HumidifierBridge.Ascii
