import HumidifierBridge.Config.Load

/-!
# Written dSUIDs are read again

The written form of a dSUID has 34 upper-case digits and no blanks, so that `DsUid.ofText?` and the
loading of a configuration give the dSUID back.
-/

namespace HumidifierBridge

namespace Text

/-- A text that neither starts nor ends with a blank is left as it is. -/
theorem trim_of_forall_not_blank {s : String} (h : ∀ c ∈ s.toList, isBlank c = false) :
    trim s = s := by
  have hdrop : ∀ l : List Char, (∀ c ∈ l, isBlank c = false) → l.dropWhile isBlank = l := by
    intro l hl
    cases l with
    | nil => rfl
    | cons c rest => simp [hl c List.mem_cons_self]
  have hreverse : ∀ c ∈ s.toList.reverse, isBlank c = false := fun c hc => h c (by simpa using hc)
  rw [trim, hdrop _ h, hdrop _ hreverse, List.reverse_reverse, String.ofList_toList]

end Text

namespace DsUid

/-- Digits are no blanks. -/
theorem not_isBlank_hexUpper (d : Fin 16) : Text.isBlank (Ascii.hexUpper d) = false := by
  revert d; decide

theorem not_isBlank_of_mem_text {d : DsUid} {c : Char} (h : c ∈ d.text.toList) :
    Text.isBlank c = false := by
  simp only [text, String.toList_ofList, List.mem_map] at h
  obtain ⟨digit, -, rfl⟩ := h
  exact not_isBlank_hexUpper digit

@[simp] theorem trim_text (d : DsUid) : Text.trim d.text = d.text :=
  Text.trim_of_forall_not_blank fun _ h => not_isBlank_of_mem_text h

/-- The written form has digits, none of them blank. -/
@[simp] theorem not_isBlankText_text (d : DsUid) : Text.isBlankText d.text = false := by
  obtain ⟨digits, hlength⟩ := d
  cases digits with
  | nil => simp [dsUidDigits] at hlength
  | cons digit rest => simp [Text.isBlankText, text, not_isBlank_hexUpper]

/-- Reading what is written gives the dSUID back. -/
@[simp] theorem ofText?_text (d : DsUid) : ofText? d.text = some d := by
  have hread : ∀ digits : List (Fin 16),
      (digits.map Ascii.hexUpper).mapM Ascii.hexValue? = some digits := by
    intro digits
    induction digits with
    | nil => rfl
    | cons digit rest ih => simp [ih]
  simp [ofText?, text, hread, d.length_digits]

@[simp] theorem ofText_text (d : DsUid) : ofText d.text = .ok d := by
  simp [ofText]

end DsUid

namespace ConfigFile

theorem nonBlank_some {s : String} (h : Text.isBlankText s = false) :
    nonBlank (some s) = some s := by
  simp [nonBlank, Option.filter, h]

/-- A configuration that writes a dSUID is loaded with it. -/
@[simp] theorem loadDsUid_text (field : String) (d : DsUid) :
    loadDsUid field (some d.text) = .ok (some d) := by
  simp [loadDsUid, nonBlank_some]

end ConfigFile

end HumidifierBridge
