import HumidifierBridge.Proofs.DataDocuments
import HumidifierBridge.Proofs.IntegerLiterals
import HumidifierBridge.Proofs.RefusedValues

/-!
# Fields saturate

The fields of the operating state are signed 64-bit integers, or modes that are on for what is
positive (`OperatingState.Field.ofInt`). A document may carry any integer at their place, and
`DataReport.parse_integer_saturates` says what becomes of it, in the field and in the value that a
sensor may take.
-/

namespace HumidifierBridge

open DataReport (deviceName)
open OperatingState (Field)

namespace OperatingState.Field

/-- The value of a field for an integer: the nearest signed 64-bit integer, or whether it is
positive. -/
def ofInt (z : ℤ) : (f : Field) → f.Value
  | humidity | temperature | targetHumidity | fan =>
    max (-9223372036854775808) (min z 9223372036854775807)
  | sleep | auto => decide (0 < z)

theorem value?_of_standsFor {m : JsonNumber} {z : ℤ} (h : m.StandsFor z) (f : Field) :
    f.value? (.number m) = some (f.ofInt z) := by
  have hpositive : decide (0 < m.toInt64) = decide (0 < z) := by
    rw [h.toInt64_eq, decide_eq_decide]
    omega
  cases f with
  | sleep => exact congrArg some hpositive
  | auto => exact congrArg some hpositive
  | _ => exact congrArg some h.toInt64_eq

end OperatingState.Field

namespace DataReport

open Json

/-- The member of that name that stands last, and so the one that holds. -/
def StandsLast (members : List (String × Json)) (name : String) (v : Json) : Prop :=
  ∃ before after, members = before ++ (name, v) :: after ∧ name ∉ after.map Prod.fst

theorem lookup?_of_standsLast {members : List (String × Json)} {name : String} {v : Json}
    (h : StandsLast members name v) :
    KeyMap.lookup? (KeyMap.sortEntries (settledMembers members)) name = some v.settled := by
  obtain ⟨before, after, rfl, hlast⟩ := h
  have hnone : KeyMap.lookup? (settledMembers after).reverse name = none := by
    rw [← map_fst_settledMembers] at hlast
    exact KeyMap.lookup?_of_notMem fun v' hv' =>
      hlast (List.mem_map.2 ⟨_, List.mem_reverse.1 hv', rfl⟩)
  rw [settledMembers_eq] at hnone
  rw [KeyMap.lookup?_sortEntries, settledMembers_eq, List.map_append, List.map_cons,
    List.reverse_append, List.reverse_cons, KeyMap.lookup?_append, KeyMap.lookup?_append, hnone,
    KeyMap.lookup?_cons, if_pos rfl]
  rfl

/-- What `device` carries at the place of a field is the field, and a value for sensors. -/
theorem carried_of_standsLast {members inner : List (String × Json)} {text : List Char}
    {f : Field} {v : Json} {y : f.Value} {x : Binary64} (h : Document (.object members) text)
    (hdevice : StandsLast members deviceName (.object inner)) (hmember : StandsLast inner f.name v)
    (hy : f.value? v = some y) (hx : CountsAs v x) :
    ∃ report, parse text = .ok report ∧ report.device.get f = some y ∧
      (f.name, x) ∈ report.values := by
  have houter := lookup?_of_standsLast hdevice
  have hinner := lookup?_of_standsLast hmember
  rw [settled] at houter
  refine ⟨_, parse_of_document h, ?_, ?_⟩
  · rw [ofMembers, houter, get_operatingState, hinner, Option.bind_some, value?_settled, hy]
  · rw [KeyMap.lookup?_eq_some_iff (KeyMap.ordered_sortEntries _).nodup_keys] at houter hinner
    refine List.mem_flatMap.2 ⟨_, houter, ?_⟩
    rw [memberValues, if_pos rfl, mem_scalars_iff]
    exact ⟨_, hinner, countsAs_settled_iff.2 hx⟩

variable {z : ℤ} {w : List Char}

/-- **Integers saturate.** An integer is read if and only if it is less than `leastRefused`,
whatever its sign; a body is refused that has another one where a value is awaited. Where the last
`device` has an integer as the last member of the name of a field, that field is the nearest signed
64-bit integer, or on if and only if the integer is positive; and the value that the same member is
for sensors has the sign of the integer. -/
theorem parse_integer_saturates (hw : SpellsInteger z w) :
    ((∃ v, SpellsPlain v w) ↔ z.natAbs < Literal.leastRefused) ∧
      (Literal.leastRefused ≤ z.natAbs → ∀ {depth before rest}, Awaits depth before →
        Literal.StopsNumber rest → parse (before ++ (w ++ rest)) = .error .json) ∧
      ∀ {v members inner text} (f : Field), SpellsPlain v w → Document (.object members) text →
        StandsLast members deviceName (.object inner) → StandsLast inner f.name v →
          ∃ report x, parse text = .ok report ∧ report.device.get f = some (f.ofInt z) ∧
            CountsAs v x ∧ (f.name, x) ∈ report.values ∧ x.sign = z.sign := by
  obtain ⟨hread, hstands⟩ := hw.read
  refine ⟨hread, ?_, ?_⟩
  · intro hz depth before rest hbefore hrest
    obtain ⟨l, hl, hvalue⟩ := hw.refused hz
    rw [parse, hbefore.parse?_number hl hvalue hrest]
  intro v members inner text f hv h hdevice hmember
  obtain ⟨m, rfl, hm⟩ := hstands v hv
  obtain ⟨report, hreport, hfield, hvalue⟩ := carried_of_standsLast h hdevice hmember
    (f.value?_of_standsFor hm) (.number m)
  exact ⟨report, _, hreport, hfield, .number m, hvalue, hm.sign_eq⟩

/-- The greatest integer below all signed 64-bit integers, as a number and as a mode, and the least
integer that is refused. -/
theorem parse_integer_saturates_below :
    let z : ℤ := -9223372036854775809
    let w := "-9223372036854775809".toList
    let text := "\x7b\"device\":\x7b\"hum\":-9223372036854775809,".toList ++
      "\"sleep\":-9223372036854775809\x7d\x7d".toList
    let refused := Nat.toDigits 10 Literal.leastRefused
    SpellsInteger z w ∧ (∃ report x, parse text = .ok report ∧
      report.device.humidity = some (-9223372036854775808) ∧ report.device.sleep = some false ∧
        ("sleep", x) ∈ report.values ∧ x.sign = -1) ∧
      SpellsInteger Literal.leastRefused refused ∧
        parse ("\x7b\"device\":\x7b\"hum\":".toList ++ (refused ++ "\x7d\x7d".toList)) =
          .error .json := by
  intro z w text refused
  have hw : SpellsInteger z w := spellsInteger_iff.2 ⟨true, 9223372036854775809, rfl, by decide⟩
  obtain ⟨hread, -, hcarried⟩ := parse_integer_saturates hw
  obtain ⟨v, hv⟩ := hread.2 (by decide +kernel)
  have hspells := hv.spells
  have hdevice := SpellsItems.cons (spellsMember_self "hum" (by decide) (hspells 125))
    blank_nil (.last (spellsMember_self "sleep" (by decide) (hspells 125)) blank_nil)
  have h : Document (.object [(deviceName, .object [("hum", v), ("sleep", v)])]) text :=
    ⟨[], _, [], blank_nil, .object (.items
      (.last (spellsMember_self _ (by decide) (.object (.items hdevice))) blank_nil)),
      blank_nil, rfl⟩
  have hlast : StandsLast [(deviceName, .object [("hum", v), ("sleep", v)])] deviceName
      (.object [("hum", v), ("sleep", v)]) := ⟨[], [], rfl, by simp⟩
  obtain ⟨report, -, hreport, hhumidity, -⟩ := hcarried .humidity hv h hlast
    ⟨[], [("sleep", v)], rfl, by simp [Field.name]⟩
  obtain ⟨report', x, hreport', hsleep, -, hvalue, hsign⟩ := hcarried .sleep hv h hlast
    ⟨[("hum", v)], [], rfl, by simp⟩
  obtain rfl : report' = report := by
    rw [hreport] at hreport'
    exact (Except.ok.inj hreport').symm
  refine ⟨hw, ⟨report', x, hreport, hhumidity, hsleep, hvalue, hsign⟩, ?_⟩
  have hrefused : SpellsInteger Literal.leastRefused refused := spellsInteger_toDigits _
  have hleast : Literal.leastRefused ≤ (Literal.leastRefused : ℤ).natAbs :=
    (Int.natAbs_natCast _).ge
  have hdevice : SpellsString deviceName.toList deviceName.toList := spellsString_self (by decide)
  have hhum : SpellsString "hum".toList "hum".toList := spellsString_self (by decide)
  have hbefore : Awaits 125 "\x7b\"device\":\x7b\"hum\":".toList :=
    .member (.member .start .nil blank_nil hdevice blank_nil) .nil blank_nil hhum blank_nil
  have hend : Literal.StopsNumber "\x7d\x7d".toList :=
    (IsClosing.stopsValue (.inr rfl) ['\x7d']).stopsNumber
  exact ⟨hrefused, (parse_integer_saturates hrefused).2.1 hleast hbefore hend⟩

/-- Refused is also an integer to which the nearest double is finite. -/
theorem parse_refuses_finite_integer :
    let z : ℤ := 17976931348623157 * 10 ^ 292
    let w := "17976931348623157".toList ++ List.replicate 292 '0'
    SpellsInteger z w ∧ (Binary64.ofInt z).isInfinite = false ∧
      parse ("\x7b\"device\":\x7b\"hum\":".toList ++ (w ++ "\x7d\x7d".toList)) =
        .error .json := by
  intro z w
  refine ⟨spellsInteger_iff.2 ⟨false, 17976931348623157 * 10 ^ 292, by decide +kernel,
    by decide +kernel⟩, by decide +kernel, ?_⟩
  have hnone : (Json.parse? ("\x7b\"device\":\x7b\"hum\":".toList ++
      (w ++ "\x7d\x7d".toList))).isNone = true := by decide +kernel
  rw [parse, Option.isNone_iff_eq_none.1 hnone]

end DataReport

end HumidifierBridge
