import HumidifierBridge.Proofs.PlainValues
import HumidifierBridge.Text.Blank
import Mathlib.Data.List.Induction
import Mathlib.Tactic.IntervalCases

/-!
# How natural numbers are written

A number is read from its decimal digits. `Decimal.Writes` says which texts are read as a number
once their blanks are removed: zeros and one plus sign may stand before the digits.
-/

namespace HumidifierBridge

namespace Text

/-- Only blanks are removed. -/
theorem exists_eq_append_trim (s : String) :
    ∃ before after : List Char, (∀ c ∈ before ++ after, isBlank c = true) ∧
      s.toList = before ++ ((trim s).toList ++ after) := by
  have hsplit : ∀ l : List Char, ∃ before, (∀ c ∈ before, isBlank c = true) ∧
      l = before ++ l.dropWhile isBlank := fun l =>
    ⟨l.takeWhile isBlank, List.all_eq_true.1 List.all_takeWhile,
      List.takeWhile_append_dropWhile.symm⟩
  obtain ⟨before, hbefore, hs⟩ := hsplit s.toList
  obtain ⟨after, hafter, hrest⟩ := hsplit (s.toList.dropWhile isBlank).reverse
  refine ⟨before, after.reverse, ?_, ?_⟩
  · intro c hc
    rcases List.mem_append.1 hc with hc | hc
    · exact hbefore c hc
    · exact hafter c (List.mem_reverse.1 hc)
  · have hlast := congrArg List.reverse hrest
    rw [List.reverse_reverse, List.reverse_append] at hlast
    rw [trim, String.toList_ofList, ← hlast, ← hs]

/-- A word without blanks is what remains of it if blanks stand around it. -/
theorem toList_trim_of_append {s : String} {before word after : List Char}
    (hs : s.toList = before ++ (word ++ after)) (hblank : ∀ c ∈ before ++ after, isBlank c = true)
    (hne : word ≠ []) (hword : ∀ c ∈ word, isBlank c = false) : (trim s).toList = word := by
  have hkeep : ∀ w rest : List Char, w ≠ [] → (∀ c ∈ w, isBlank c = false) →
      (w ++ rest).dropWhile isBlank = w ++ rest := by
    intro w rest hw hnot
    obtain ⟨c, w, rfl⟩ := List.exists_cons_of_ne_nil hw
    simp [hnot c List.mem_cons_self]
  have hbefore : ∀ c ∈ before, isBlank c = true := fun c hc =>
    hblank c (List.mem_append_left _ hc)
  have hafter : ∀ c ∈ after.reverse, isBlank c = true := fun c hc =>
    hblank c (List.mem_append_right _ (List.mem_reverse.1 hc))
  have hreverse := hkeep word.reverse [] (by simpa using hne) (by simpa using hword)
  rw [List.append_nil] at hreverse
  rw [trim, String.toList_ofList, hs, List.dropWhile_append_of_pos hbefore,
    hkeep word after hne hword, List.reverse_append, List.dropWhile_append_of_pos hafter, hreverse,
    List.reverse_reverse]

end Text

namespace Decimal

theorem digit?_eq_some_iff {c : Char} {d : Nat} :
    digit? c = some d ↔ d < 10 ∧ c = d.digitChar := by
  constructor
  · intro h
    obtain ⟨hrange, rfl⟩ : ('0' ≤ c ∧ c ≤ '9') ∧ c.toNat - 48 = d := by
      simpa [digit?] using h
    obtain ⟨hle, hge⟩ : 48 ≤ c.toNat ∧ c.toNat ≤ 57 := hrange
    refine ⟨by omega, ?_⟩
    rw [← Char.toNat_inj]
    interval_cases c.toNat <;> rfl
  · rintro ⟨hd, rfl⟩
    exact digit?_digitChar hd

theorem natural?_of_ne_nil {text : List Char} (hne : text ≠ []) :
    natural? text = (text.mapM digit?).map (ofDigits 10) := by
  cases text with
  | nil => exact absurd rfl hne
  | cons c text => rfl

theorem natural?_zero_cons {text : List Char} (hne : text ≠ []) :
    natural? ('0' :: text) = natural? text := by
  have hzero : digit? '0' = some 0 := rfl
  rw [natural?_of_ne_nil (List.cons_ne_nil _ _), natural?_of_ne_nil hne, List.mapM_cons, hzero]
  cases text.mapM digit? with
  | none => rfl
  | some ds => simp [ofDigits]

/-- The last digit counts once, and those before it tenfold. -/
theorem natural?_concat {text : List Char} (hne : text ≠ []) (c : Char) :
    natural? (text ++ [c]) = (natural? text).bind fun n => (digit? c).map (n * 10 + ·) := by
  rw [natural?_of_ne_nil (by simp), natural?_of_ne_nil hne, List.mapM_append]
  cases text.mapM digit? with
  | none => rfl
  | some ds => cases hc : digit? c <;> simp [hc, ofDigits]

/-- A number is read from its digits and from no other text, save that zeros may stand before
them. -/
theorem natural?_eq_some_iff {text : List Char} {n : Nat} :
    natural? text = some n ↔ ∃ zeros, text = List.replicate zeros '0' ++ Nat.toDigits 10 n := by
  constructor
  · intro h
    induction text using List.reverseRecOn generalizing n with
    | nil => cases h
    | append_singleton text c ih =>
      by_cases hne : text = []
      · obtain ⟨hn, rfl⟩ : n < 10 ∧ c = n.digitChar := by
          rw [← digit?_eq_some_iff]
          simpa [hne, natural?, ofDigits] using h
        exact ⟨0, by simp [hne, Nat.toDigits_of_lt_base hn]⟩
      · rw [natural?_concat hne] at h
        obtain ⟨m, hm, h⟩ := Option.bind_eq_some_iff.1 h
        obtain ⟨d, hd, rfl⟩ := Option.map_eq_some_iff.1 h
        obtain ⟨hlt, rfl⟩ := digit?_eq_some_iff.1 hd
        obtain ⟨zeros, rfl⟩ := ih hm
        by_cases hzero : m = 0
        · -- What was read as zero are zeros before the digit.
          refine ⟨zeros + 1, ?_⟩
          rw [hzero, Nat.toDigits_zero, Nat.zero_mul, Nat.zero_add, Nat.toDigits_of_lt_base hlt,
            List.replicate_succ']
        · have hlong : 10 ≤ m * 10 + d := by omega
          have hdiv : (m * 10 + d) / 10 = m := by omega
          have hmod : (m * 10 + d) % 10 = d := by omega
          refine ⟨zeros, ?_⟩
          rw [Nat.toDigits_of_base_le (by decide) hlong, hdiv, hmod, List.append_assoc]
  · rintro ⟨zeros, rfl⟩
    induction zeros with
    | zero => exact natural?_toDigits n
    | succ zeros ih =>
      rw [List.replicate_succ, List.cons_append, natural?_zero_cons (by simp), ih]

/-- A number is written with its digits where no zero stands before others. -/
theorem eq_toDigits_iff {text : List Char} {n : Nat} :
    text = Nat.toDigits 10 n ↔
      natural? text = some n ∧ ∀ rest, text = '0' :: rest → rest = [] := by
  constructor
  · rintro rfl
    refine ⟨natural?_toDigits n, fun rest hrest => ?_⟩
    by_contra hne
    -- What follows a zero would be read as the same number, and be too short for it.
    have hread := natural?_toDigits n
    rw [hrest, natural?_zero_cons hne, natural?_eq_some_iff] at hread
    obtain ⟨zeros, hzeros⟩ := hread
    have hlength := congrArg List.length hzeros
    rw [hrest] at hlength
    simp at hlength
    omega
  · rintro ⟨hread, hzero⟩
    obtain ⟨zeros, rfl⟩ := natural?_eq_some_iff.1 hread
    cases zeros with
    | zero => rfl
    | succ zeros =>
      have hempty := hzero _ (by rw [List.replicate_succ, List.cons_append])
      simp at hempty

theorem unsigned?_eq_some_iff {text : List Char} {n : Nat} :
    unsigned? text = some n ↔ ∃ (sign : List Char) (zeros : Nat), (sign = [] ∨ sign = ['+']) ∧
      text = sign ++ (List.replicate zeros '0' ++ Nat.toDigits 10 n) := by
  constructor
  · intro h
    unfold unsigned? at h
    split at h
    · obtain ⟨zeros, rfl⟩ := natural?_eq_some_iff.1 h
      exact ⟨['+'], zeros, .inr rfl, rfl⟩
    · obtain ⟨zeros, rfl⟩ := natural?_eq_some_iff.1 h
      exact ⟨[], zeros, .inl rfl, rfl⟩
  · rintro ⟨sign, zeros, hsign, rfl⟩
    have hread : natural? (List.replicate zeros '0' ++ Nat.toDigits 10 n) = some n :=
      natural?_eq_some_iff.2 ⟨zeros, rfl⟩
    rcases hsign with rfl | rfl
    · rw [List.nil_append]
      unfold unsigned?
      split
      · -- A plus sign is no digit.
        rename_i rest hplus
        rw [hplus] at hread
        simp [natural?, digit?] at hread
      · exact hread
    · exact hread

/-- The text writes the number: zeros and one plus sign may stand before its digits, and blanks
around it. -/
def Writes (n : Nat) (text : String) : Prop :=
  ∃ (before sign : List Char) (zeros : Nat) (after : List Char),
    (∀ c ∈ before ++ after, Text.isBlank c = true) ∧ (sign = [] ∨ sign = ['+']) ∧
      text.toList = before ++
        (sign ++ (List.replicate zeros '0' ++ (toString n).toList) ++ after)

/-- Neither a sign nor a digit is a blank. -/
theorem not_isBlank_of_mem {sign : List Char} {zeros n : Nat} (hsign : sign = [] ∨ sign = ['+'])
    {c : Char} (hc : c ∈ sign ++ (List.replicate zeros '0' ++ Nat.toDigits 10 n)) :
    Text.isBlank c = false := by
  have hrange : c = '+' ∨ ('0' ≤ c ∧ c ≤ '9') := by
    rcases List.mem_append.1 hc with hc | hc
    · rcases hsign with rfl | rfl
      · cases hc
      · exact .inl (List.mem_singleton.1 hc)
    · rcases List.mem_append.1 hc with hc | hc
      · rw [List.eq_of_mem_replicate hc]
        exact .inr (by decide)
      · exact .inr (isDigit_of_mem_toDigits hc)
  rcases hrange with rfl | ⟨hle, hge⟩
  · rfl
  · have hle : 48 ≤ c.toNat := hle
    have hge : c.toNat ≤ 57 := hge
    simp [Text.isBlank]
    omega

/-- Without its blanks the text is read as the number that it writes. -/
theorem unsigned?_trim_eq_some_iff {text : String} {n : Nat} :
    unsigned? (Text.trim text).toList = some n ↔ Writes n text := by
  rw [unsigned?_eq_some_iff, Writes, Nat.toString_eq_repr, Nat.toList_repr]
  constructor
  · rintro ⟨sign, zeros, hsign, htrim⟩
    obtain ⟨before, after, hblank, htext⟩ := Text.exists_eq_append_trim text
    rw [htrim] at htext
    exact ⟨before, sign, zeros, after, hblank, hsign, htext⟩
  · rintro ⟨before, sign, zeros, after, hblank, hsign, htext⟩
    refine ⟨sign, zeros, hsign, Text.toList_trim_of_append htext hblank (by simp) ?_⟩
    exact fun c hc => not_isBlank_of_mem hsign hc

end Decimal

end HumidifierBridge
