import HumidifierBridge.Proofs.JsonDocuments
import HumidifierBridge.Proofs.Rounding
import HumidifierBridge.Proofs.WrittenNumbers

/-!
# Integers of any length

A document may carry an integer of any length (`Json.SpellsInteger`). Its first digits, as many as
fit into 64 bits, are multiplied by a power of ten if others follow, and both factors and the
product are rounded. `Json.Literal.Leads.scale?_eq` says what comes of that: integers are refused
from a certain one on, somewhat below the greatest double, and no others.

What is read of an integer is a number that stands for it (`JsonNumber.StandsFor`): a double that
takes its place has its sign, and is beyond the signed 64-bit integers if the integer is.
-/

namespace HumidifierBridge

/-! ### Numbers for integers -/

namespace JsonNumber

/-- The number has the sign of the integer and, as a signed 64-bit integer, is the one nearest to
it. -/
structure StandsFor (m : JsonNumber) (z : ℤ) : Prop where
  toInt64_eq : m.toInt64 = max (-9223372036854775808) (min z 9223372036854775807)
  sign_eq : m.toBinary64.sign = z.sign

theorem standsFor_integer (z : ℤ) : (integer z).StandsFor z :=
  ⟨toInt64_integer z, Binary64.sign_ofInt z⟩

/-- A zero of either sign stands for zero. -/
theorem standsFor_zero {x : Binary64} (h : x.magnitude = 0) : (double x).StandsFor 0 :=
  ⟨Binary64.toInt64_of_magnitude_eq_zero h, Binary64.sign_of_magnitude_eq_zero h⟩

/-- A double beyond the signed 64-bit integers stands for any integer there that has its sign. -/
theorem standsFor_of_le_magnitude {x : Binary64} {z : ℤ} (hnumber : x.isNaN = false)
    (hnegative : x.isNegative = decide (z < 0)) (hx : 0x43E0000000000000 ≤ x.magnitude)
    (hz : 9223372036854775808 ≤ z.natAbs) : (double x).StandsFor z := by
  have hpos : 0 < x.magnitude := by omega
  constructor
  · rw [toInt64, Binary64.toInt64_of_le_magnitude hnumber hx, hnegative]
    simp only [decide_eq_true_eq]
    split <;> omega
  · rw [toBinary64, Binary64.sign_of_magnitude_pos hnumber hpos, hnegative]
    simp only [decide_eq_true_eq]
    split
    · rename_i hz
      rw [Int.sign_eq_neg_one_of_neg hz]
    · rw [Int.sign_eq_one_of_pos (by omega)]

end JsonNumber

namespace Json

namespace Literal

/-! ### Kept digits -/

/-- Of the digits of a number the first ones are kept, as many as fit, and so many follow. -/
structure Leads (kept follow n : ℕ) : Prop where
  fits : kept ≤ maxKept
  below : kept * 10 ^ follow ≤ n
  above : n < (kept + 1) * 10 ^ follow
  /-- One more digit would not fit. -/
  full : 0 < follow → maxKept / 10 ≤ kept

theorem bounds_foldl {ds : List ℕ} (hds : ∀ d ∈ ds, d < 10) (n : ℕ) :
    n * 10 ^ ds.length ≤ ds.foldl (fun n d => n * 10 + d) n ∧
      ds.foldl (fun n d => n * 10 + d) n < (n + 1) * 10 ^ ds.length := by
  induction ds generalizing n with
  | nil => simp
  | cons d ds ih =>
    obtain ⟨hd, hrest⟩ := List.forall_mem_cons.1 hds
    obtain ⟨hlow, hhigh⟩ := ih hrest (n * 10 + d)
    rw [List.foldl_cons, List.length_cons, pow_succ', ← mul_assoc, ← mul_assoc]
    constructor
    · refine le_trans ?_ hlow
      gcongr
      omega
    · refine hhigh.trans_le ?_
      gcongr
      omega

theorem leads_keep {ds : List ℕ} (hds : ∀ d ∈ ds, d < 10) {kept : ℕ} (hkept : kept ≤ maxKept) :
    Leads (keep kept ds).1 (keep kept ds).2.length (ds.foldl (fun n d => n * 10 + d) kept) := by
  induction ds generalizing kept with
  | nil => exact ⟨hkept, by simp [keep], by simp [keep], by simp [keep]⟩
  | cons d ds ih =>
    by_cases hfits : kept * 10 + d ≤ maxKept
    · rw [keep, if_pos hfits]
      exact ih (fun d' hd' => hds d' (List.mem_cons_of_mem _ hd')) hfits
    · obtain ⟨hlow, hhigh⟩ := bounds_foldl hds kept
      have hd := hds d List.mem_cons_self
      rw [keep, if_neg hfits]
      exact ⟨hkept, hlow, hhigh, fun _ => by omega⟩

/-! ### Products -/

/-- The kept digits times a power of ten, with both factors and the product rounded. -/
def product (kept follow : ℕ) : Binary64 := (Binary64.ofRatio false kept 1).mul (powerOfTen follow)

theorem isNaN_product (kept follow : ℕ) : (product kept follow).isNaN = false :=
  Binary64.isNaN_mul _ _

theorem isNegative_product (kept follow : ℕ) : (product kept follow).isNegative = false := by
  rw [product, Binary64.mul, Binary64.isNegative_ofRatio, powerOfTen, Binary64.isNegative_ofRatio,
    Binary64.isNegative_ofRatio]
  rfl

theorem magnitude_product_mono {kept kept' follow follow' : ℕ} (hkept : kept ≤ kept')
    (hfollow : follow ≤ follow') :
    (product kept follow).magnitude ≤ (product kept' follow').magnitude := by
  apply Binary64.magnitude_mul_mono
  · rw [Binary64.magnitude_ofRatio, Binary64.magnitude_ofRatio]
    exact Binary64.roundRatio_one_mono hkept
  · rw [powerOfTen, powerOfTen, Binary64.magnitude_ofRatio, Binary64.magnitude_ofRatio]
    exact Binary64.roundRatio_one_mono (Nat.pow_le_pow_right (by decide) hfollow)

theorem isInfinite_product_mono {kept kept' follow follow' : ℕ} (hkept : kept ≤ kept')
    (hfollow : follow ≤ follow') (h : (product kept follow).isInfinite = true) :
    (product kept' follow').isInfinite = true := by
  have hle := magnitude_product_mono hkept hfollow
  have hmost : (product kept' follow').magnitude ≤ Binary64.infinityPattern := by
    rw [product, Binary64.mul, Binary64.magnitude_ofRatio]
    exact Binary64.roundRatio_le _ _
  rw [Binary64.isInfinite, decide_eq_true_eq] at h ⊢
  omega

/-- The least number that is too great with 289 digits after it. -/
def leastInfinite : ℕ := 17976931348623156225

/-- The least integer that is refused. -/
def leastRefused : ℕ := leastInfinite * 10 ^ 289

theorem isInfinite_product_289_iff {kept : ℕ} :
    (product kept 289).isInfinite = true ↔ leastInfinite ≤ kept := by
  constructor
  · intro h
    by_contra hless
    have hfinite : (product 17976931348623156224 289).isInfinite = false := by decide +kernel
    have hkept : kept ≤ 17976931348623156224 := by
      rw [leastInfinite] at hless
      omega
    rw [isInfinite_product_mono hkept (le_refl _) h] at hfinite
    cases hfinite
  · intro h
    exact isInfinite_product_mono h (le_refl _) (by decide +kernel)

namespace Leads

variable {kept follow n : ℕ}

theorem lt_leastRefused (h : Leads kept follow n) (hfollow : follow < 289) : n < leastRefused := by
  refine h.above.trans_le ?_
  calc (kept + 1) * 10 ^ follow ≤ leastInfinite * 10 * 10 ^ follow := by
        gcongr
        exact (Nat.succ_le_succ h.fits).trans (by decide)
    _ = leastInfinite * 10 ^ (follow + 1) := by rw [mul_assoc, pow_succ']
    _ ≤ leastInfinite * 10 ^ 289 := by
      gcongr
      · decide
      · exact hfollow

theorem leastRefused_le (h : Leads kept follow n) (hfollow : 289 < follow) : leastRefused ≤ n := by
  refine le_trans ?_ h.below
  calc leastInfinite * 10 ^ 289 ≤ maxKept / 10 * 10 * 10 ^ 289 := by
        gcongr
        decide
    _ = maxKept / 10 * 10 ^ (289 + 1) := by rw [mul_assoc, ← pow_succ']
    _ ≤ kept * 10 ^ follow := by
      gcongr
      · exact h.full (by omega)
      · decide
      · exact hfollow

/-- The product of kept digits is infinite if and only if the integer is refused. -/
theorem isInfinite_product_iff (h : Leads kept follow n) :
    (product kept follow).isInfinite = true ↔ leastRefused ≤ n := by
  rcases Nat.lt_trichotomy follow 289 with hless | rfl | hmore
  · -- The greatest number that can be kept is not too great with so few digits after it.
    have hgreatest : (product maxKept 288).isInfinite = false := by decide +kernel
    have hfinite : (product kept follow).isInfinite ≠ true := by
      intro hinfinite
      rw [isInfinite_product_mono h.fits (by omega) hinfinite] at hgreatest
      cases hgreatest
    exact iff_of_false hfinite (not_le.2 (h.lt_leastRefused hless))
  · rw [isInfinite_product_289_iff]
    constructor
    · intro hle
      exact (Nat.mul_le_mul_right _ hle).trans h.below
    · intro hle
      exact Nat.lt_succ_iff.1 (lt_of_mul_lt_mul_right (hle.trans_lt h.above) (Nat.zero_le _))
  · -- The least number that is kept is too great with so many digits after it.
    have hinfinite : (product kept follow).isInfinite = true :=
      isInfinite_product_mono (h.full (by omega)) hmore (by decide +kernel)
    exact iff_of_true hinfinite (h.leastRefused_le hmore)

theorem magnitude_product_eq_zero (h : Leads kept follow 0) :
    (product kept follow).magnitude = 0 := by
  obtain rfl : kept = 0 := by
    rcases Nat.mul_eq_zero.1 (Nat.le_zero.1 h.below) with hzero | hzero
    · exact hzero
    · exact absurd hzero (by positivity)
  obtain rfl : follow = 0 := by
    by_contra hfollow
    exact absurd (h.full (by omega)) (by decide)
  decide +kernel

/-- Beyond the signed 64-bit integers, so is the product. -/
theorem le_magnitude_product (h : Leads kept follow n) (hn : 9223372036854775808 ≤ n) :
    0x43E0000000000000 ≤ (product kept follow).magnitude := by
  rcases Nat.eq_zero_or_pos follow with rfl | hfollow
  · have habove := h.above
    have hleast : 0x43E0000000000000 ≤ (product 9223372036854775808 0).magnitude := by
      decide +kernel
    exact hleast.trans (magnitude_product_mono (by omega) (le_refl _))
  · have hleast : 0x43E0000000000000 ≤ (product (maxKept / 10) 1).magnitude := by
      decide +kernel
    exact hleast.trans (magnitude_product_mono (h.full hfollow) hfollow)

/-- The product with a sign stands for the number, if that is zero or beyond the signed 64-bit
integers. -/
theorem standsFor_product (h : Leads kept follow n) (negative : Bool)
    (hn : n = 0 ∨ 9223372036854775808 ≤ n) :
    (JsonNumber.double (if negative then (product kept follow).neg
      else product kept follow)).StandsFor (if negative then -(n : ℤ) else n) := by
  obtain rfl | hn := hn
  · have hzero := h.magnitude_product_eq_zero
    cases negative with
    | false => exact JsonNumber.standsFor_zero hzero
    | true => exact JsonNumber.standsFor_zero ((Binary64.magnitude_neg _).trans hzero)
  · have hleast := h.le_magnitude_product hn
    cases negative with
    | false =>
      refine JsonNumber.standsFor_of_le_magnitude (isNaN_product _ _) ?_ hleast hn
      simp [isNegative_product]
    | true =>
      have hpos : 0 < n := by omega
      refine JsonNumber.standsFor_of_le_magnitude ?_ ?_ ?_ ?_
      · simp [isNaN_product]
      · simp [isNegative_product, hpos]
      · simpa using hleast
      · simpa using hn

/-- Kept digits are scaled to their product, save where the integer is refused. -/
theorem scale?_eq (h : Leads kept follow n) :
    scale? kept follow = if leastRefused ≤ n then none else some (product kept follow) := by
  have hnonneg : ¬ (follow : ℤ) < 0 := by omega
  have hlimit : (follow : ℤ) ≤ 308 ↔ follow ≤ 308 := by omega
  simp only [scale?, hnonneg, if_false, hlimit, Int.toNat_natCast]
  by_cases hfollow : follow ≤ 308
  · rw [if_pos hfollow]
    exact if_congr h.isInfinite_product_iff rfl rfl
  · have hkept : 1 ≤ kept := le_trans (by decide) (h.full (by omega))
    have hone : 0 < Binary64.roundRatio 1 1 := by decide +kernel
    have hpos : (Binary64.ofRatio false kept 1).magnitude ≠ 0 := by
      rw [Binary64.magnitude_ofRatio]
      exact (hone.trans_le (Binary64.roundRatio_one_mono hkept)).ne'
    rw [if_neg hfollow, if_neg hpos, if_pos (h.leastRefused_le (by omega))]

end Leads

/-! ### Literals -/

/-- The integer that the digits before the point write, with the sign. -/
def toInt (l : Literal) : ℤ :=
  if l.negative then -(Decimal.ofDigits 10 l.whole : ℤ) else Decimal.ofDigits 10 l.whole

theorem absolute?_whole (negative : Bool) (ds : List ℕ) :
    absolute? ⟨negative, ds, none, none⟩ = scale? (keep 0 ds).1 (keep 0 ds).2.length := by
  simp [absolute?, keep]

/-- An integer is refused from `leastRefused` on, and otherwise read as a number that stands for
it. -/
theorem value?_whole (negative : Bool) {ds : List ℕ} (hds : ∀ d ∈ ds, d < 10) {n : ℕ}
    (hn : Decimal.ofDigits 10 ds = n) :
    (leastRefused ≤ n ∧ value? ⟨negative, ds, none, none⟩ = none) ∨
      (n < leastRefused ∧ ∃ m, value? ⟨negative, ds, none, none⟩ = some m ∧
        m.StandsFor (if negative then -(n : ℤ) else n)) := by
  have hleads := leads_keep hds (Nat.zero_le maxKept)
  have habsolute := absolute?_whole negative ds
  change Leads _ _ (Decimal.ofDigits 10 ds) at hleads
  rw [hn] at hleads
  rcases hkeep : keep 0 ds with ⟨kept, dropped⟩
  simp only [hkeep] at hleads habsolute
  rw [hleads.scale?_eq] at habsolute
  simp only [value?, hkeep, habsolute]
  cases dropped with
  | nil =>
    -- All digits are kept.
    obtain rfl : n = kept := by
      have hbelow := hleads.below
      have habove := hleads.above
      rw [List.length_nil, pow_zero, mul_one] at hbelow habove
      omega
    have hread : n < leastRefused := hleads.fits.trans_lt (by decide +kernel)
    refine .inr ⟨hread, ?_⟩
    rw [if_neg (not_le.2 hread), Option.map_some]
    cases negative with
    | false => exact ⟨_, rfl, JsonNumber.standsFor_integer n⟩
    | true =>
      simp only [Bool.not_true, Bool.false_eq_true, if_false]
      split
      · exact ⟨_, rfl, JsonNumber.standsFor_integer (-n)⟩
      · exact ⟨_, rfl, hleads.standsFor_product true (by omega)⟩
  | cons d dropped =>
    -- So many digits make a number beyond 64 bits.
    have hlarge : 9223372036854775808 ≤ n := by
      calc 9223372036854775808 ≤ maxKept / 10 * 10 ^ 1 := by decide
        _ ≤ kept * 10 ^ (d :: dropped).length :=
          Nat.mul_le_mul (hleads.full (by simp)) (Nat.pow_le_pow_right (by decide) (by simp))
        _ ≤ n := hleads.below
    rcases Nat.lt_or_ge n leastRefused with hread | hrefused
    · rw [if_neg (not_le.2 hread), Option.map_some]
      exact .inr ⟨hread, _, rfl, hleads.standsFor_product negative (.inr hlarge)⟩
    · rw [if_pos hrefused, Option.map_none]
      exact .inl ⟨hrefused, rfl⟩

end Literal

/-! ### How integers are written -/

/-- The integer is written so: as a number without fraction and exponent. -/
def SpellsInteger (z : ℤ) (w : List Char) : Prop :=
  ∃ l : Literal, SpellsNumber l w ∧ l.fraction = none ∧ l.exponent = none ∧ l.toInt = z

theorem spellsDigits_iff {ds : List ℕ} {w : List Char} :
    SpellsDigits ds w ↔ w.mapM Decimal.digit? = some ds := by
  rw [SpellsDigits]
  induction w generalizing ds with
  | nil => cases ds <;> simp
  | cons c w ih =>
    rw [List.mapM_cons]
    cases ds with
    | nil => simp [Option.bind_eq_some_iff]
    | cons d ds => simp [Option.bind_eq_some_iff, ih]

theorem spellsDigits_cons_iff {d : ℕ} {ds : List ℕ} {w : List Char} :
    SpellsDigits (d :: ds) w ↔ ∃ c rest, w = c :: rest ∧ Decimal.digit? c = some d ∧
      SpellsDigits ds rest := by
  cases w <;> simp [SpellsDigits]

/-- An integer is written with its digits and its sign, a zero with either sign or none. -/
theorem spellsInteger_iff {z : ℤ} {w : List Char} : SpellsInteger z w ↔
    ∃ (negative : Bool) (n : ℕ), z = (if negative then -(n : ℤ) else n) ∧
      w = (if negative then ['-'] else []) ++ Nat.toDigits 10 n := by
  constructor
  · rintro ⟨⟨negative, ds, _, _⟩, ⟨hne, hzero, whole, _, _, hwhole, hfraction, hexponent, rfl⟩,
      rfl, rfl, rfl⟩
    cases hfraction
    cases hexponent
    refine ⟨negative, Decimal.ofDigits 10 ds, rfl, ?_⟩
    obtain ⟨d, ds, rfl⟩ := List.exists_cons_of_ne_nil hne
    obtain ⟨c, rest, rfl, hc, hrest⟩ := spellsDigits_cons_iff.1 hwhole
    have hread : Decimal.natural? (c :: rest) = some (Decimal.ofDigits 10 (d :: ds)) := by
      rw [Decimal.natural?_of_ne_nil (List.cons_ne_nil _ _), spellsDigits_iff.1 hwhole,
        Option.map_some]
    rw [List.append_nil, List.append_nil, Decimal.eq_toDigits_iff.2 ⟨hread, ?_⟩]
    rintro rest' heq
    obtain ⟨rfl, rfl⟩ := List.cons.inj heq
    obtain rfl : 0 = d := Option.some.inj hc
    obtain rfl := hzero ds rfl
    simpa [SpellsDigits] using hrest
  · rintro ⟨negative, n, rfl, rfl⟩
    obtain ⟨ds, hds, rfl⟩ := Decimal.mapM_digit?_toDigits n
    have hspelled := spellsDigits_iff.2 hds
    refine ⟨⟨negative, ds, none, none⟩, ⟨?_, ?_, _, [], [], hspelled, .none, .none, ?_⟩,
      rfl, rfl, rfl⟩
    · rintro rfl
      simp [SpellsDigits] at hspelled
    · rintro ds' rfl
      obtain ⟨c, rest, hdigits, hc, hrest⟩ := spellsDigits_cons_iff.1 hspelled
      obtain ⟨-, rfl⟩ := Decimal.digit?_eq_some_iff.1 hc
      obtain rfl := (Decimal.eq_toDigits_iff.1 hdigits.symm).2 rest rfl
      simpa [SpellsDigits] using hrest.symm
    · simp

theorem spellsInteger_toDigits (n : ℕ) : SpellsInteger n (Nat.toDigits 10 n) :=
  spellsInteger_iff.2 ⟨false, n, rfl, rfl⟩

/-- What is written as a number has the value of the number, if that has one. -/
theorem spellsPlain_iff_of_spellsNumber {l : Literal} {w : List Char} (h : SpellsNumber l w)
    {v : Json} : SpellsPlain v w ↔ ∃ m, l.value? = some m ∧ v = .number m := by
  constructor
  · intro hv
    obtain ⟨c, rest, rfl, hc⟩ := Literal.exists_head_of_spellsNumber h
    cases hv with
    | @number l' m _ h' hm =>
      have hend : Literal.StopsNumber [] := by rintro _ ⟨⟩
      have hscan := Literal.scan?_append h hend
      rw [Literal.scan?_append h' hend] at hscan
      obtain rfl : l' = l := by simpa using hscan
      exact ⟨m, hm, rfl⟩
    | _ => cases hnegative : l.negative <;> simp [hnegative, Decimal.digit?] at hc
  · rintro ⟨m, hm, rfl⟩
    exact .number h hm

/-- An integer is read if and only if it is less than `leastRefused`, and as a number that stands
for it. -/
theorem SpellsInteger.read {z : ℤ} {w : List Char} (h : SpellsInteger z w) :
    ((∃ v, SpellsPlain v w) ↔ z.natAbs < Literal.leastRefused) ∧
      ∀ v, SpellsPlain v w → ∃ m, v = .number m ∧ m.StandsFor z := by
  obtain ⟨⟨negative, ds, _, _⟩, hw, rfl, rfl, rfl⟩ := h
  have hds : ∀ d ∈ ds, d < 10 := by
    obtain ⟨-, -, whole, -, -, hwhole, -⟩ := hw
    intro d hd
    have hmem : some d ∈ whole.map Decimal.digit? := hwhole ▸ List.mem_map_of_mem hd
    obtain ⟨c, -, hc⟩ := List.mem_map.1 hmem
    exact (Decimal.digit?_eq_some_iff.1 hc).1
  have habs : (Literal.toInt ⟨negative, ds, none, none⟩).natAbs = Decimal.ofDigits 10 ds := by
    cases negative <;> simp [Literal.toInt]
  simp only [spellsPlain_iff_of_spellsNumber hw, habs]
  rcases Literal.value?_whole negative hds rfl with ⟨hn, hnone⟩ | ⟨hn, m, hm, hstands⟩
  · simp [hnone, hn]
  · simp only [hm, Option.some.injEq, hn, iff_true]
    refine ⟨⟨_, m, rfl, rfl⟩, ?_⟩
    rintro _ ⟨_, rfl, rfl⟩
    exact ⟨m, rfl, hstands⟩

/-- From `leastRefused` on an integer is a number that has no value. -/
theorem SpellsInteger.refused {z : ℤ} {w : List Char} (h : SpellsInteger z w)
    (hz : Literal.leastRefused ≤ z.natAbs) : ∃ l, SpellsNumber l w ∧ l.value? = none := by
  have hread := h.read.1
  obtain ⟨l, hw, -⟩ := h
  refine ⟨l, hw, Option.eq_none_iff_forall_ne_some.2 fun m hm => ?_⟩
  have hless := hread.1 ⟨_, .number hw hm⟩
  omega

end Json

end HumidifierBridge
