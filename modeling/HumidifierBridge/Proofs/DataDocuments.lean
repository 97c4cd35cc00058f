import HumidifierBridge.Proofs.ByteOrder
import HumidifierBridge.Proofs.FailedReads
import HumidifierBridge.Proofs.KeyMaps
import HumidifierBridge.Proofs.OperatingFields
import Mathlib.Logic.Relation

/-!
# What a data document says

A data document is an object whose members stand in any order. `DataReport.Decodes` says what is
read of it without a word of how: the values (`Json.HasValue`) are its numbers and booleans and
those in `device`, each once, in the byte order of the names that lead to them, and the operating
state is what the members of `device` say.

Reading first puts the members in order and keeps the last one of each name (`Json.settled`). What
is read is therefore the same for a document with its members rearranged (`Json.Rearranged`), and
for one without the members that are repeated later (`Json.DropsRepeat`).
-/

namespace HumidifierBridge

open DataReport (deviceName)
open OperatingState (Field)

namespace Json

/-! ### Members -/

/-- The names beside `device` are different, and so are those in it. -/
structure DistinctNames (members : List (String × Json)) : Prop where
  outer : (members.map Prod.fst).Nodup
  inner : ∀ inner, (deviceName, .object inner) ∈ members → (inner.map Prod.fst).Nodup

/-- The member is the same, save that the members of `device` may stand in another order. -/
inductive SameMember : String × Json → String × Json → Prop where
  | refl (m : String × Json) : SameMember m m
  | device {inner inner' : List (String × Json)} (h : inner.Perm inner') :
      SameMember (deviceName, .object inner) (deviceName, .object inner')

/-- The members stand in another order, and those of `device` may do so too. -/
def Rearranged (members members' : List (String × Json)) : Prop :=
  ∃ between, members.Perm between ∧ List.Forall₂ SameMember between members'

/-- A member is left out that has a later one of its name in the same object. -/
inductive DropsRepeat : Json → Json → Prop where
  | here (before : List (String × Json)) {after : List (String × Json)} {m : String × Json}
      (h : m.1 ∈ after.map Prod.fst) :
      DropsRepeat (.object (before ++ m :: after)) (.object (before ++ after))
  | item (before : List Json) {after : List Json} {v v' : Json} (h : DropsRepeat v v') :
      DropsRepeat (.array (before ++ v :: after)) (.array (before ++ v' :: after))
  | member (before : List (String × Json)) {after : List (String × Json)} {name : String}
      {v v' : Json} (h : DropsRepeat v v') :
      DropsRepeat (.object (before ++ (name, v) :: after))
        (.object (before ++ (name, v') :: after))

theorem map_fst_settledMembers (members : List (String × Json)) :
    (settledMembers members).map Prod.fst = members.map Prod.fst := by
  rw [settledMembers_eq, List.map_map]
  rfl

/-- What is read does not depend on the order of members with different names. -/
theorem settled_object_of_perm {members members' : List (String × Json)}
    (hperm : members.Perm members') (h : (members.map Prod.fst).Nodup) :
    settled (.object members) = settled (.object members') := by
  rw [← map_fst_settledMembers] at h
  have hsettled : (settledMembers members).Perm (settledMembers members') := by
    rw [settledMembers_eq, settledMembers_eq]
    exact hperm.map _
  rw [settled, settled, KeyMap.sortEntries_of_perm hsettled h]

theorem settledMembers_of_forall₂ {members members' : List (String × Json)}
    (hsame : List.Forall₂ SameMember members members')
    (h : ∀ inner, (deviceName, .object inner) ∈ members → (inner.map Prod.fst).Nodup) :
    settledMembers members = settledMembers members' := by
  induction hsame with
  | nil => rfl
  | @cons m m' rest rest' hm _ ih =>
    have hrest := ih fun inner hinner => h inner (List.mem_cons_of_mem _ hinner)
    cases hm with
    | refl => rw [settledMembers, settledMembers, hrest]
    | @device inner inner' hperm =>
      have hinner := settled_object_of_perm hperm (h inner List.mem_cons_self)
      rw [settledMembers, settledMembers, hrest, hinner]

theorem Rearranged.settled_eq {members members' : List (String × Json)}
    (h : Rearranged members members') (hdistinct : DistinctNames members) :
    settled (.object members) = settled (.object members') := by
  obtain ⟨between, hperm, hsame⟩ := h
  have hbetween := settledMembers_of_forall₂ hsame fun inner hinner =>
    hdistinct.inner inner (hperm.mem_iff.2 hinner)
  rw [settled_object_of_perm hperm hdistinct.outer, settled, settled, hbetween]

/-- What is read does not show a member that is repeated later. -/
theorem DropsRepeat.settled_eq {v v' : Json} (h : DropsRepeat v v') : v.settled = v'.settled := by
  induction h with
  | @here before after m h =>
    have hlater : m.1 ∈ (after.map fun m => (m.1, m.2.settled)).map Prod.fst := by
      rwa [← settledMembers_eq, map_fst_settledMembers]
    simp only [settled, settledMembers_eq, List.map_append, List.map_cons]
    rw [KeyMap.sortEntries_append_cons (e := (m.1, m.2.settled)) hlater]
  | item before _ ih => simp only [settled, settledItems_eq, List.map_append, List.map_cons, ih]
  | member before _ ih => simp only [settled, settledMembers_eq, List.map_append, List.map_cons, ih]

/-- However many are left out, one after the other. -/
theorem settled_eq_of_dropsRepeat {v v' : Json} (h : Relation.ReflTransGen DropsRepeat v v') :
    v.settled = v'.settled := by
  induction h with
  | refl => rfl
  | tail _ hstep ih => exact ih.trans hstep.settled_eq

/-! ### Values -/

/-- A number or a boolean is this value. -/
inductive CountsAs : Json → Binary64 → Prop where
  | number (n : JsonNumber) : CountsAs (.number n) n.toBinary64
  | true : CountsAs (.bool true) .one
  | false : CountsAs (.bool false) .zero

/-- Members have a value, with its name, at the place to which these names lead. -/
inductive HasValue (members : List (String × Json)) : List String → String × Binary64 → Prop where
  | beside {name : String} {v : Json} {x : Binary64} (hname : name ≠ deviceName)
      (hv : (name, v) ∈ members) (hx : CountsAs v x) : HasValue members [name] (name, x)
  | within {inner : List (String × Json)} {name : String} {v : Json} {x : Binary64}
      (hinner : (deviceName, .object inner) ∈ members) (hv : (name, v) ∈ inner)
      (hx : CountsAs v x) : HasValue members [deviceName, name] (name, x)

theorem scalar?_eq_some_iff {v : Json} {x : Binary64} :
    DataReport.scalar? v = some x ↔ CountsAs v x := by
  constructor
  · intro h
    cases v with
    | bool b => cases b <;> (cases h; constructor)
    | number n => cases h; constructor
    | _ => cases h
  · rintro (_ | _ | _) <;> rfl

theorem countsAs_settled_iff {v : Json} {x : Binary64} : CountsAs v.settled x ↔ CountsAs v x := by
  rw [← scalar?_eq_some_iff, ← scalar?_eq_some_iff]
  cases v <;> simp [settled, DataReport.scalar?]

theorem hasValue_iff_exists {members : List (String × Json)} {place : List String}
    {value : String × Binary64} :
    HasValue members place value ↔ ∃ m ∈ members, HasValue [m] place value := by
  constructor
  · rintro (⟨hname, hv, hx⟩ | ⟨hinner, hv, hx⟩)
    · exact ⟨_, hv, .beside hname List.mem_cons_self hx⟩
    · exact ⟨_, hinner, .within List.mem_cons_self hv hx⟩
  · rintro ⟨m, hm, ⟨hname, hv, hx⟩ | ⟨hinner, hv, hx⟩⟩
    · exact .beside hname (List.mem_singleton.1 hv ▸ hm) hx
    · exact .within (List.mem_singleton.1 hinner ▸ hm) hv hx

/-- A value is at a place below the member that it comes from. -/
theorem HasValue.exists_cons {m : String × Json} {place : List String} {value : String × Binary64}
    (h : HasValue [m] place value) : ∃ rest, place = m.1 :: rest := by
  cases h with
  | beside _ hv _ => exact ⟨[], by rw [← List.mem_singleton.1 hv]⟩
  | within hinner _ _ => exact ⟨[_], by rw [← List.mem_singleton.1 hinner]⟩

/-- The members that are read are those that are written, if their names differ. -/
theorem mem_sortEntries_settledMembers_iff {members : List (String × Json)}
    (h : (members.map Prod.fst).Nodup) {name : String} {v : Json} :
    (name, v) ∈ KeyMap.sortEntries (settledMembers members) ↔
      ∃ raw, (name, raw) ∈ members ∧ raw.settled = v := by
  rw [← map_fst_settledMembers] at h
  rw [KeyMap.mem_sortEntries_iff h, settledMembers_eq]
  simp only [List.mem_map, Prod.exists, Prod.mk.injEq]
  constructor
  · rintro ⟨_, raw, hraw, rfl, rfl⟩
    exact ⟨raw, hraw, rfl⟩
  · rintro ⟨raw, hraw, rfl⟩
    exact ⟨name, raw, hraw, rfl, rfl⟩

/-- The `device` object that is read is the one that is written, with its members in order. -/
theorem mem_device_iff {members : List (String × Json)} (h : DistinctNames members)
    {inner : List (String × Json)} :
    (deviceName, .object inner) ∈ KeyMap.sortEntries (settledMembers members) ↔
      ∃ raw, (deviceName, .object raw) ∈ members ∧
        inner = KeyMap.sortEntries (settledMembers raw) := by
  rw [mem_sortEntries_settledMembers_iff h.outer]
  constructor
  · rintro ⟨v, hv, hsettled⟩
    obtain ⟨raw, rfl⟩ := exists_eq_object_of_settled hsettled
    rw [settled] at hsettled
    exact ⟨raw, hv, (object.inj hsettled).symm⟩
  · rintro ⟨raw, hraw, rfl⟩
    exact ⟨.object raw, hraw, settled.eq_2 raw⟩

/-- The members that are read have the values that are written. -/
theorem hasValue_sortEntries_iff {members : List (String × Json)} (h : DistinctNames members)
    {place : List String} {value : String × Binary64} :
    HasValue (KeyMap.sortEntries (settledMembers members)) place value ↔
      HasValue members place value := by
  constructor
  · rintro (⟨hname, hv, hx⟩ | ⟨hinner, hv, hx⟩)
    · obtain ⟨raw, hraw, rfl⟩ := (mem_sortEntries_settledMembers_iff h.outer).1 hv
      exact .beside hname hraw (countsAs_settled_iff.1 hx)
    · obtain ⟨raw, hraw, rfl⟩ := (mem_device_iff h).1 hinner
      obtain ⟨v, hv', rfl⟩ := (mem_sortEntries_settledMembers_iff (h.inner raw hraw)).1 hv
      exact .within hraw hv' (countsAs_settled_iff.1 hx)
  · rintro (⟨hname, hv, hx⟩ | @⟨inner, _, _, _, hinner, hv, hx⟩)
    · exact .beside hname ((mem_sortEntries_settledMembers_iff h.outer).2 ⟨_, hv, rfl⟩)
        (countsAs_settled_iff.2 hx)
    · exact .within ((mem_device_iff h).2 ⟨inner, hinner, rfl⟩)
        ((mem_sortEntries_settledMembers_iff (h.inner inner hinner)).2 ⟨_, hv, rfl⟩)
        (countsAs_settled_iff.2 hx)

end Json

namespace DataReport

open Json

/-! ### Reports -/

/-- The values of one member of a document, with their places. -/
def placed (m : String × Json) : List (List String × String × Binary64) :=
  if m.1 = deviceName then
    match m.2 with
    | .object inner => (scalars inner).map fun value => ([deviceName, value.1], value)
    | _ => []
  else (scalars [m]).map fun value => ([value.1], value)

theorem map_snd_placed (m : String × Json) : (placed m).map Prod.snd = memberValues m := by
  have hsnd : ∀ (place : String × Binary64 → List String) (values : List (String × Binary64)),
      (values.map fun value => (place value, value)).map Prod.snd = values := by
    intro place values
    rw [List.map_map]
    exact List.map_id _
  unfold placed memberValues
  split
  · cases m.2 with
    | object inner => exact hsnd _ _
    | _ => rfl
  · exact hsnd _ _

theorem mem_scalars_iff {members : List (String × Json)} {value : String × Binary64} :
    value ∈ scalars members ↔ ∃ v, (value.1, v) ∈ members ∧ CountsAs v value.2 := by
  simp only [scalars, List.mem_filterMap, Option.map_eq_some_iff, scalar?_eq_some_iff]
  constructor
  · rintro ⟨⟨_, v⟩, hv, y, hy, rfl⟩
    exact ⟨v, hv, hy⟩
  · rintro ⟨v, hv, hx⟩
    exact ⟨_, hv, value.2, hx, rfl⟩

/-- These are the values that the member has. -/
theorem mem_placed_iff {m : String × Json} {place : List String} {value : String × Binary64} :
    (place, value) ∈ placed m ↔ HasValue [m] place value := by
  obtain ⟨name, v⟩ := m
  constructor
  · intro h
    unfold placed at h
    split at h
    · rename_i hname
      obtain rfl : name = deviceName := hname
      cases v with
      | object inner =>
        obtain ⟨value', hvalue, heq⟩ := List.mem_map.1 h
        cases heq
        obtain ⟨v, hv, hx⟩ := mem_scalars_iff.1 hvalue
        exact .within List.mem_cons_self hv hx
      | _ => cases h
    · rename_i hname
      obtain ⟨value', hvalue, heq⟩ := List.mem_map.1 h
      cases heq
      obtain ⟨v', hv, hx⟩ := mem_scalars_iff.1 hvalue
      obtain ⟨hname', rfl⟩ := Prod.mk.inj (List.mem_singleton.1 hv)
      exact .beside (hname' ▸ hname) hv hx
  · rintro (⟨hname, hv, hx⟩ | @⟨inner, _, v', _, hinner, hv, hx⟩)
    · obtain ⟨rfl, rfl⟩ := Prod.mk.inj (List.mem_singleton.1 hv)
      rw [placed, if_neg hname]
      exact List.mem_map.2 ⟨(_, _), mem_scalars_iff.2 ⟨_, List.mem_cons_self, hx⟩, rfl⟩
    · obtain ⟨rfl, rfl⟩ := Prod.mk.inj (List.mem_singleton.1 hinner)
      exact List.mem_map.2 ⟨(_, _), mem_scalars_iff.2 ⟨v', hv, hx⟩, rfl⟩

/-- The values of members in order are in order. -/
theorem pairwise_scalars {members : List (String × Json)} (h : KeyMap.Ordered members) :
    (scalars members).Pairwise fun a b => a.1 < b.1 := by
  refine List.pairwise_filterMap.2 (h.imp ?_)
  intro m m' hlt a ha b hb
  obtain ⟨x, -, rfl⟩ := Option.map_eq_some_iff.1 ha
  obtain ⟨y, -, rfl⟩ := Option.map_eq_some_iff.1 hb
  exact hlt

/-- The values of one member are in the order of their places. -/
theorem pairwise_placed {m : String × Json}
    (hinner : ∀ inner, m = (deviceName, .object inner) → KeyMap.Ordered inner) :
    (placed m).Pairwise fun a b => a.1.map Text.octets < b.1.map Text.octets := by
  obtain ⟨name, v⟩ := m
  unfold placed
  split
  · rename_i hname
    obtain rfl : name = deviceName := hname
    split
    · rename_i inner hv
      obtain rfl : v = .object inner := hv
      refine List.pairwise_map.2 ((pairwise_scalars (hinner inner rfl)).imp ?_)
      intro a b hlt
      exact .cons (.rel (Text.octets_lt_iff.2 hlt))
    · exact .nil
  · have hm : KeyMap.Ordered [(name, v)] := List.pairwise_singleton ..
    refine List.pairwise_map.2 ((pairwise_scalars hm).imp ?_)
    intro a b hlt
    exact .rel (Text.octets_lt_iff.2 hlt)

/-- The values of members in order are in the order of their places. -/
theorem pairwise_flatMap_placed {members : List (String × Json)} (h : KeyMap.Ordered members)
    (hinner : ∀ inner, (deviceName, .object inner) ∈ members → KeyMap.Ordered inner) :
    (members.flatMap placed).Pairwise fun a b => a.1.map Text.octets < b.1.map Text.octets := by
  refine List.pairwise_flatMap.2 ⟨?_, h.imp ?_⟩
  · intro m hm
    exact pairwise_placed fun inner heq => hinner inner (heq ▸ hm)
  · intro m m' hlt a ha b hb
    obtain ⟨rest, hrest⟩ := (mem_placed_iff.1 ha).exists_cons
    obtain ⟨rest', hrest'⟩ := (mem_placed_iff.1 hb).exists_cons
    rw [hrest, hrest']
    exact .rel (Text.octets_lt_iff.2 hlt)

/-- What is read of a document with these members. -/
structure Decodes (members : List (String × Json)) (report : DataReport) : Prop where
  /-- All their values and no others, each once, in the byte order of places. -/
  values : ∃ placed : List (List String × String × Binary64),
    report.values = placed.map Prod.snd ∧
      (placed.Pairwise fun a b => a.1.map Text.octets < b.1.map Text.octets) ∧
        ∀ place value, (place, value) ∈ placed ↔ HasValue members place value
  /-- A field is what the member of its name in `device` says. -/
  fields : ∀ (f : Field) (x : f.Value), report.device.get f = some x ↔
    ∃ inner v, (deviceName, .object inner) ∈ members ∧ (f.name, v) ∈ inner ∧
      f.value? v = some x

theorem integer?_settled (v : Json) : integer? v.settled = integer? v := by
  cases v <;> simp [settled, integer?]

theorem value?_settled (v : Json) (f : Field) : f.value? v.settled = f.value? v := by
  cases f <;> simp only [Field.value?, integer?_settled]

/-- The operating state is what the `device` object says. -/
theorem get_device_ofMembers_iff {members : List (String × Json)}
    (h : (members.map Prod.fst).Nodup) (f : Field) (x : f.Value) :
    (ofMembers members).device.get f = some x ↔
      ∃ inner, (deviceName, .object inner) ∈ members ∧
        (KeyMap.lookup? inner f.name).bind (f.value? ·) = some x := by
  simp only [← KeyMap.lookup?_eq_some_iff h, ofMembers]
  split
  · rename_i inner hdevice
    simp [get_operatingState, hdevice]
  · rename_i hdevice
    simp only [OperatingState.get_empty, reduceCtorEq, false_iff, not_exists, not_and]
    intro inner hinner
    exact (hdevice inner hinner).elim

/-- Of members in order is read what they say. -/
theorem decodes_sortEntries {members : List (String × Json)} (h : DistinctNames members) :
    (ofMembers (KeyMap.sortEntries (settledMembers members))).Decodes members where
  values := by
    have hordered := KeyMap.ordered_sortEntries (settledMembers members)
    refine ⟨(KeyMap.sortEntries (settledMembers members)).flatMap placed, ?_, ?_, ?_⟩
    · simp only [ofMembers, List.map_flatMap, map_snd_placed]
    · refine pairwise_flatMap_placed hordered fun inner hinner => ?_
      obtain ⟨raw, -, rfl⟩ := (mem_device_iff h).1 hinner
      exact KeyMap.ordered_sortEntries _
    · intro place value
      rw [← hasValue_sortEntries_iff h, hasValue_iff_exists, List.mem_flatMap]
      simp only [mem_placed_iff]
  fields := by
    intro f x
    rw [get_device_ofMembers_iff (KeyMap.ordered_sortEntries _).nodup_keys]
    constructor
    · rintro ⟨inner, hinner, hx⟩
      obtain ⟨raw, hraw, rfl⟩ := (mem_device_iff h).1 hinner
      obtain ⟨v, hv, hx⟩ := Option.bind_eq_some_iff.1 hx
      rw [KeyMap.lookup?_eq_some_iff (KeyMap.ordered_sortEntries _).nodup_keys,
        mem_sortEntries_settledMembers_iff (h.inner raw hraw)] at hv
      obtain ⟨v', hv', rfl⟩ := hv
      exact ⟨raw, v', hraw, hv', by rwa [value?_settled] at hx⟩
    · rintro ⟨raw, v, hraw, hv, hx⟩
      refine ⟨_, (mem_device_iff h).2 ⟨raw, hraw, rfl⟩, Option.bind_eq_some_iff.2 ?_⟩
      refine ⟨v.settled, ?_, by rwa [value?_settled]⟩
      rw [KeyMap.lookup?_eq_some_iff (KeyMap.ordered_sortEntries _).nodup_keys,
        mem_sortEntries_settledMembers_iff (h.inner raw hraw)]
      exact ⟨v, hv, rfl⟩

/-! ### Documents -/

/-- What comes of a text depends only on what is read of the document. -/
theorem parse_congr {v v' : Json} {text text' : List Char} (h : Document v text)
    (h' : Document v' text') (hsettled : v.settled = v'.settled) : parse text' = parse text := by
  have hread : parse? text' = parse? text := by
    rw [parse?_eq_some_iff.2 ⟨v, h, rfl⟩, parse?_eq_some_iff.2 ⟨v', h', rfl⟩, hsettled]
  rw [parse, parse, hread]

theorem parse_of_document {members : List (String × Json)} {text : List Char}
    (h : Document (.object members) text) :
    parse text = .ok (ofMembers (KeyMap.sortEntries (settledMembers members))) := by
  have hread := parse?_eq_some_iff.2 ⟨_, h, rfl⟩
  rw [settled] at hread
  rw [parse, hread]

variable {members : List (String × Json)} {text : List Char}

/-- **A report is what the members of a document say, in whatever order they stand.** Members that
are repeated later make no difference, one by one or all together. Once they are left out, so that
all names differ, the report has the values and the operating state that the members that are kept
say, and it is the same for any text of a document with these members in another order. -/
theorem parse_settles (h : Document (.object members) text) :
    (∀ v' text', Relation.ReflTransGen DropsRepeat (.object members) v' → Document v' text' →
      parse text' = parse text) ∧
      ∀ kept, Relation.ReflTransGen DropsRepeat (.object members) (.object kept) →
        DistinctNames kept →
          ∃ report, parse text = .ok report ∧ report.Decodes kept ∧
            ∀ members' text', Rearranged kept members' → Document (.object members') text' →
              parse text' = .ok report := by
  refine ⟨fun v' text' hv' h' => parse_congr h h' (settled_eq_of_dropsRepeat hv'), ?_⟩
  intro kept hkept hdistinct
  have hsettled := settled_eq_of_dropsRepeat hkept
  refine ⟨_, parse_of_document h, ?_, ?_⟩
  · rw [settled, settled] at hsettled
    rw [object.inj hsettled]
    exact decodes_sortEntries hdistinct
  · intro members' text' hrearranged h'
    rw [← parse_of_document h]
    exact parse_congr h h' (hsettled.trans (hrearranged.settled_eq hdistinct))

/-- A name is repeated beside `device`, and one within it. -/
theorem parse_settles_fog :
    let fog (b : Bool) : String × Json := ("fog", .bool b)
    let hum : String × Json := ("hum", .number (.integer 7))
    let members := [fog true, (deviceName, .object [("hum", .bool true), hum]), fog false]
    let kept := [(deviceName, .object [hum]), fog false]
    let text :=
      "\x7b\"fog\":true,\"device\":\x7b\"hum\":true,\"hum\":7\x7d,\"fog\":false\x7d".toList
    let text' := "\x7b\"fog\":false,\"device\":\x7b\"hum\":7\x7d\x7d\n".toList
    Document (.object members) text ∧
      Relation.ReflTransGen DropsRepeat (.object members) (.object kept) ∧ DistinctNames kept ∧
        Rearranged kept [fog false, (deviceName, .object [hum])] ∧
          Document (.object [fog false, (deviceName, .object [hum])]) text' ∧
            ∃ report, parse text = .ok report ∧ report.Decodes kept ∧
              parse text' = .ok report := by
  intro fog hum members kept text text'
  have hseven : SpellsNumber ⟨false, [7], none, none⟩ ['7'] :=
    ⟨by simp, by simp, ['7'], [], [], rfl, .none, .none, rfl⟩
  have hhum := SpellsPlain.spells (SpellsPlain.number hseven rfl)
  have htrue := SpellsPlain.spells SpellsPlain.true
  have h : Document (.object members) text := by
    have hdevice := SpellsItems.cons (spellsMember_self "hum" (by decide) (htrue 125))
      blank_nil (.last (spellsMember_self "hum" (by decide) (hhum 125)) blank_nil)
    exact ⟨[], _, [], blank_nil, .object (.items
      (.cons (spellsMember_self _ (by decide) (htrue _)) blank_nil
        (.cons (spellsMember_self _ (by decide) (.object (.items hdevice))) blank_nil
          (.last (spellsMember_self _ (by decide) (.plain .false)) blank_nil)))), blank_nil, rfl⟩
  have h' : Document (.object [fog false, (deviceName, .object [hum])]) text' := by
    have hdevice := SpellsItems.last (spellsMember_self "hum" (by decide) (hhum 125))
      blank_nil
    exact ⟨[], _, ['\n'], blank_nil, .object (.items
      (.cons (spellsMember_self _ (by decide) (.plain .false)) blank_nil
        (.last (spellsMember_self _ (by decide) (.object (.items hdevice))) blank_nil))),
      by simp [Blank, isSpace], rfl⟩
  have hdrops : Relation.ReflTransGen DropsRepeat (.object members) (.object kept) :=
    .head (.here [] (by decide)) (.single (.member [] (.here [] (by decide))))
  have hdistinct : DistinctNames kept := by
    refine ⟨by decide, fun inner hinner => ?_⟩
    obtain rfl : inner = [hum] := by simpa [kept, fog] using hinner
    decide
  have hrearranged : Rearranged kept [fog false, (deviceName, .object [hum])] :=
    ⟨_, .swap _ _ _, .cons (.refl _) (.cons (.refl _) .nil)⟩
  obtain ⟨report, hreport, hdecodes, hsame⟩ := (parse_settles h).2 kept hdrops hdistinct
  exact ⟨h, hdrops, hdistinct, hrearranged, h', report, hreport, hdecodes,
    hsame _ _ hrearranged h'⟩

end DataReport

end HumidifierBridge
